import ParserConformance.Script.Lookup
import ParserConformance.Script.Tool.Blocks
import ParserConformance.Script.Tool.Columns
import ParserConformance.Script.Tool.Comparing
import ParserConformance.Script.Tool.Count
import ParserConformance.Script.Tool.Counting
import ParserConformance.Script.Tool.Date
import ParserConformance.Script.Tool.Difference.Files
import ParserConformance.Script.Tool.Difference.Patching
import ParserConformance.Script.Tool.Digests
import ParserConformance.Script.Tool.Dump
import ParserConformance.Script.Tool.Expression
import ParserConformance.Script.Tool.Factors
import ParserConformance.Script.Tool.Filling
import ParserConformance.Script.Tool.Grep
import ParserConformance.Script.Tool.Listing
import ParserConformance.Script.Tool.Making
import ParserConformance.Script.Tool.Names
import ParserConformance.Script.Tool.Numbering
import ParserConformance.Script.Tool.Ownership
import ParserConformance.Script.Tool.Pairing
import ParserConformance.Script.Tool.Pieces
import ParserConformance.Script.Tool.Portion
import ParserConformance.Script.Tool.Removal
import ParserConformance.Script.Tool.Repeats
import ParserConformance.Script.Tool.Sections
import ParserConformance.Script.Tool.Sed
import ParserConformance.Script.Tool.Shuffling
import ParserConformance.Script.Tool.Small
import ParserConformance.Script.Tool.Sorting
import ParserConformance.Script.Tool.Status
import ParserConformance.Script.Tool.Tabs
import ParserConformance.Script.Tool.Topology
import ParserConformance.Script.Tool.Transfer
import ParserConformance.Script.Tool.Translation
import ParserConformance.Script.Tool.Units
import ParserConformance.Script.Tool.Whole

/-!
# Systems

What a system comes with: the directories, devices and files that stand on any disk of it, and its
tools, with the files that they are. A program is a tool, or a script that names the program that runs
it.
-/

namespace ParserConformance.Script.System

/-! ### Files -/

/-- The place of a path whose names slashes part. -/
def placeOf (path : String) : Location := (Path.mk path).steps

/-- The directories of a system. -/
def directories : List String :=
  ["boot", "dev", "dev/pts", "dev/shm", "etc", "etc/alternatives", "etc/default", "etc/init.d",
    "etc/profile.d", "etc/skel", "home", "media", "mnt", "opt", "proc", "root", "run", "run/lock",
    "srv", "sys", "tmp", "usr", "usr/bin", "usr/games", "usr/include", "usr/lib", "usr/lib64",
    "usr/libexec", "usr/local", "usr/local/bin", "usr/local/etc", "usr/local/games",
    "usr/local/include", "usr/local/lib", "usr/local/sbin", "usr/local/share", "usr/local/src",
    "usr/sbin", "usr/share", "usr/src", "var", "var/backups", "var/cache", "var/lib", "var/local",
    "var/log", "var/mail", "var/opt", "var/spool", "var/tmp"]

/-- The mode of a directory of the system. Everybody may make files in some of them. -/
def directoryMode (path : String) : Nat :=
  if ["tmp", "var/tmp", "dev/shm", "run/lock"].contains path then 0o1777
  else if path = "root" then 0o700
  else if ["proc", "sys"].contains path then 0o555
  else 0o755

/-- The links of a system and where they lead. -/
def links : List (String × String) :=
  [("bin", "usr/bin"), ("lib", "usr/lib"), ("lib64", "usr/lib64"), ("sbin", "usr/sbin"),
    ("var/lock", "/run/lock"), ("var/run", "/run"), ("etc/alternatives/awk", "/usr/bin/mawk"),
    ("etc/alternatives/nawk", "/usr/bin/mawk"), ("usr/bin/awk", "/etc/alternatives/awk"),
    ("usr/bin/nawk", "/etc/alternatives/nawk"), ("usr/bin/sh", "dash"), ("etc/mtab", "/proc/mounts")]

/-- The devices of a system. -/
def devices : List (String × Special) :=
  [("null", .null), ("zero", .zero), ("full", .full), ("random", .random), ("urandom", .random),
    ("tty", .terminal), ("stdin", .stream 0), ("stdout", .stream 1), ("stderr", .stream 2),
    ("fd/0", .stream 0), ("fd/1", .stream 1), ("fd/2", .stream 2)]

/-- The users of a system. -/
def knownUsers : List User :=
  [⟨"root", 0, 0, "root", "/root", "/bin/bash"⟩,
    ⟨"daemon", 1, 1, "daemon", "/usr/sbin", "/usr/sbin/nologin"⟩,
    ⟨"bin", 2, 2, "bin", "/bin", "/usr/sbin/nologin"⟩,
    ⟨"sys", 3, 3, "sys", "/dev", "/usr/sbin/nologin"⟩,
    ⟨"sync", 4, 65534, "sync", "/bin", "/bin/sync"⟩,
    ⟨"games", 5, 60, "games", "/usr/games", "/usr/sbin/nologin"⟩,
    ⟨"man", 6, 12, "man", "/var/cache/man", "/usr/sbin/nologin"⟩,
    ⟨"lp", 7, 7, "lp", "/var/spool/lpd", "/usr/sbin/nologin"⟩,
    ⟨"mail", 8, 8, "mail", "/var/mail", "/usr/sbin/nologin"⟩,
    ⟨"news", 9, 9, "news", "/var/spool/news", "/usr/sbin/nologin"⟩,
    ⟨"uucp", 10, 10, "uucp", "/var/spool/uucp", "/usr/sbin/nologin"⟩,
    ⟨"proxy", 13, 13, "proxy", "/bin", "/usr/sbin/nologin"⟩,
    ⟨"www-data", 33, 33, "www-data", "/var/www", "/usr/sbin/nologin"⟩,
    ⟨"backup", 34, 34, "backup", "/var/backups", "/usr/sbin/nologin"⟩,
    ⟨"list", 38, 38, "Mailing List Manager", "/var/list", "/usr/sbin/nologin"⟩,
    ⟨"irc", 39, 39, "ircd", "/run/ircd", "/usr/sbin/nologin"⟩,
    ⟨"_apt", 42, 65534, "", "/nonexistent", "/usr/sbin/nologin"⟩,
    ⟨"nobody", 65534, 65534, "nobody", "/nonexistent", "/usr/sbin/nologin"⟩]

/-- The groups of a system with their numbers. -/
def knownGroups : List (String × Nat) :=
  [("root", 0), ("daemon", 1), ("bin", 2), ("sys", 3), ("adm", 4), ("tty", 5), ("disk", 6),
    ("lp", 7), ("mail", 8), ("news", 9), ("uucp", 10), ("man", 12), ("proxy", 13), ("kmem", 15),
    ("dialout", 20), ("fax", 21), ("voice", 22), ("cdrom", 24), ("floppy", 25), ("tape", 26),
    ("sudo", 27), ("audio", 29), ("dip", 30), ("www-data", 33), ("backup", 34), ("operator", 37),
    ("list", 38), ("irc", 39), ("src", 40), ("shadow", 42), ("utmp", 43), ("video", 44),
    ("sasl", 45), ("plugdev", 46), ("staff", 50), ("games", 60), ("users", 100),
    ("nogroup", 65534)]

/-- The texts that a system has in files. -/
def texts : List (String × String) :=
  [("etc/passwd", String.join (knownUsers.map User.line)),
    ("etc/group", String.join (knownGroups.map fun (name, n) => name ++ ":x:" ++ toString n ++ ":\n")),
    ("etc/hosts", "127.0.0.1\tlocalhost\n"), ("etc/hostname", "localhost\n"),
    ("etc/shells", "# /etc/shells: valid login shells\n/bin/sh\n/usr/bin/sh\n/bin/bash\n" ++
      "/usr/bin/bash\n/bin/dash\n/usr/bin/dash\n"),
    ("etc/fstab", ""), ("etc/resolv.conf", ""), ("etc/profile", ""), ("etc/environment", ""),
    ("proc/mounts", ""), ("proc/version", ""), ("proc/cpuinfo", ""), ("proc/meminfo", ""),
    ("proc/uptime", ""), ("proc/loadavg", ""), ("proc/stat", "")]

/-- The mode of a program of the system. -/
def programMode : Nat := 0o755

/-- The bytes that a program of the system begins with. -/
def programMark : List UInt8 := [0x7f, 0x45, 0x4c, 0x46]

/-- The content of a program of the system, by which it is known. -/
def programContent (name : String) : List UInt8 := programMark ++ Text.encode name

/-- The program of the system that a content is. -/
def programOf? (content : List UInt8) : Option String :=
  if programMark.isPrefixOf content then Text.decode? (content.drop programMark.length) else none

/-- What stands on any disk of a system with some programs. -/
def entries (programs : List String) : List (Location × Entry) :=
  directories.map (fun path => (placeOf path, .directory (directoryMode path))) ++
    [(["dev", "fd"], .directory 0o500), (["proc", "1"], .directory 0o555),
      (["proc", "self"], .link "1")] ++
    links.map (fun (path, target) => (placeOf path, .link target)) ++
    devices.map (fun (name, kind) => ("dev" :: placeOf name, .special 0o666 kind)) ++
    texts.map (fun (path, text) => (placeOf path, .file 0o644 (Text.encode text))) ++
    programs.map fun name => (["usr", "bin", name], .file programMode (programContent name))

/-! ### Tools -/

open Tool

/-- The tools that run nothing else, by their names. -/
def tools : List (String × Tool) :=
  [("[", conditionHolds), ("arch", arch), ("b2sum", Digests.tool Digests.blake2b),
    ("base32", Encoding.tool Encoding.base32), ("base64", Encoding.tool Encoding.base64),
    ("basename", basename), ("basenc", Encoding.basenc), ("cat", cat), ("chgrp", chgrp),
    ("chmod", Chmod.chmod), ("chown", chown), ("cksum", Digests.cksum), ("cmp", Comparing.cmp),
    ("comm", Pairing.comm), ("cp", cp), ("csplit", Sections.csplit), ("cut", cut),
    ("date", Date.date), ("dd", Blocks.dd), ("diff", Difference.diff), ("dir", Listing.dir),
    ("dirname", dirname), ("echo", echoArgs),
    ("egrep", fun c => Grep.grep { c with args := "-E".toList :: c.args }), ("expand", expand),
    ("expr", expr), ("factor", Factors.factor), ("false", failAlways),
    ("fgrep", fun c => Grep.grep { c with args := "-F".toList :: c.args }), ("fmt", Filling.fmt),
    ("fold", fold), ("grep", Grep.grep), ("groups", groups), ("head", head), ("hostid", hostid),
    ("hostname", hostname), ("id", identify), ("install", install), ("join", Pairing.join),
    ("link", linkFile), ("ln", ln), ("logname", logname), ("ls", Listing.ls),
    ("md5sum", Digests.tool Digests.md5), ("mkdir", mkdir), ("mkfifo", mkfifo), ("mknod", mknod),
    ("mktemp", mktemp), ("mv", mv), ("nl", Numbering.nl), ("nproc", nproc),
    ("numfmt", Units.numfmt), ("od", Dump.od), ("paste", paste), ("patch", Difference.patch),
    ("pathchk", pathchk), ("printenv", printenv), ("printf", printfArgs), ("pwd", pwdPath),
    ("readlink", readlink), ("realpath", realpath), ("rev", rev), ("rm", rm), ("rmdir", rmdir),
    ("sed", Sed.sed), ("seq", Counting.seq), ("sha1sum", Digests.tool Digests.sha1),
    ("sha224sum", Digests.tool Digests.sha224), ("sha256sum", Digests.tool Digests.sha256),
    ("sha384sum", Digests.tool Digests.sha384), ("sha512sum", Digests.tool Digests.sha512),
    ("shuf", Shuffling.shuf), ("sleep", sleep), ("sort", Sorting.sort), ("split", Pieces.split),
    ("stat", Stat.stat), ("sum", sum), ("sync", sync), ("tac", tac), ("tail", tail), ("tee", tee),
    ("test", conditionHolds), ("touch", touch), ("tr", Translation.tr), ("true", succeed),
    ("truncate", truncate), ("tsort", Topology.tsort), ("tty", tty), ("uname", uname),
    ("unexpand", unexpand), ("uniq", uniq), ("unlink", unlink), ("users", users),
    ("vdir", Listing.vdir), ("wc", wc), ("which", which), ("who", users), ("whoami", whoami),
    ("yes", yes)]

/-- The programs of the system that run other ones. -/
def runners : List String :=
  ["bash", "dash", "env", "find", "mawk", "nice", "nohup", "setsid", "stdbuf", "timeout",
    "xargs"]

/-- What stands on any disk of the system. -/
def ownEntries : List (Location × Entry) := entries (tools.map (·.1) ++ runners)

/-- The tool of a name. -/
def tool? (name : String) : Option Tool := tools.lookup name

/-- The tools that write all at once what they make of their input. -/
def promptTools : List String := ["cat", "tee"]

/-- The tools that write line by line what they make of their input. -/
def gradualTools : List String :=
  ["cut", "egrep", "expand", "fgrep", "fold", "grep", "head", "nl", "rev", "sed", "tr", "unexpand",
    "uniq"]

/-- When a tool writes what it makes of its input. -/
def paceOf (name : String) : Pace :=
  if promptTools.contains name then .prompt
  else if gradualTools.contains name then .gradual
  else .atEnd

/-! ### Programs -/

/-- What is started when a file is run. -/
inductive Start where
  /-- A program of the system, called by a name and with arguments. -/
  | program (name : String) (call : List (List Char))
  /-- Nothing, for a reason. -/
  | refused (trouble : Trouble)
  deriving DecidableEq, Repr

/-- How much of a script the system looks at to find its program. -/
def firstBytes : Nat := 256

/-- The program that runs a script and its one argument, as the script's first line tells. If
that line has no end, the program's name must have one within what the system looks at, and the
argument keeps the blanks behind it. -/
def interpreter? (content : List Char) : Option (List Char × Option (List Char)) :=
  match content with
  | '#' :: '!' :: _ =>
    let isBlank (c : Char) := c = ' ' || c = '\t'
    let start := (content.take firstBytes).takeWhile (· ≠ '\x00')
    let hasEnd := start.contains '\n'
    let isWhole := hasEnd || start.length < firstBytes
    let line := (((start.takeWhile (· ≠ '\n')).take (firstBytes - 1)).drop 2).dropWhile isBlank
    let name := line.takeWhile (!isBlank ·)
    let behind := line.drop name.length
    let behind := if hasEnd || !isWhole then (behind.reverse.dropWhile isBlank).reverse
      else behind
    if name.isEmpty || (!isWhole && name.length = line.length) then none
    else
      let arg := behind.dropWhile isBlank
      some (name, if behind.isEmpty then none else some arg)
  | _ => none

/-- What is started when the file at a path is run with a call, the first word of which is a
name. A script's program may be a script itself, to a depth. -/
def start (d : Disk) : (depth : Nat) → (path : List Char) → (call : List (List Char)) → Start
  | 0, _, _ => .refused .tooManyLinks
  | depth + 1, path, call =>
    match d.locate (pathOfChars path) false with
    | .error t => .refused t
    | .ok place =>
      match d.entry? place with
      | some (.file mode content) =>
        if !Disk.maySearch mode then .refused .permissionDenied
        else
          match programOf? content, interpreter? (ofBytes content) with
          | some name, _ => .program name call
          | none, none => .refused .notExecutable
          | none, some (name, arg) =>
            start d depth name (name :: arg.toList ++ path :: call.drop 1)
      | some _ => .refused .permissionDenied
      | none => .refused .notFound

/-- How deep scripts may name each other as their programs. -/
def startDepth : Nat := 6

end ParserConformance.Script.System

namespace ParserConformance

/-- The disk with what stands on any disk of a system, as far as nothing else stands there. -/
def Disk.onSystem (d : Disk) : Disk :=
  { d with
    entries := d.entries ++ Script.System.ownEntries.filter fun e => (d.entry? e.1).isNone }

end ParserConformance
