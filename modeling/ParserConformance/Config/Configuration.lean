import ParserConformance.Config.RunSettings
import ParserConformance.Files.Disk
import ParserConformance.Json.Value
import ParserConformance.Toml.Reader

/-!
# Configuration files

A configuration file has a table `harness` with general settings and a table `languages` with
one table a language. Paths in it are seen from the directory that holds the file.
-/

namespace ParserConformance

/-- The general settings. -/
structure Settings where
  /-- The directory from which the template is judged. -/
  corpusRoot : Path
  /-- The template of corpus directories. -/
  corpusDir : String
  /-- How many fixtures are checked at a time. -/
  jobs : Option Nat
  /-- How long a parser may take, in milliseconds. -/
  timeout : Option Nat
  /-- What the name of a fixture has to contain for it to be run. -/
  filter : Option String
  deriving DecidableEq, Repr

/-- The settings that hold unless others are given. -/
def Settings.default : Settings := ⟨⟨"."⟩, defaultTemplate, none, none, none⟩

/-- The settings of one language. -/
structure LanguageSettings where
  /-- The parser artifact. -/
  artifact : Path
  /-- The language's own corpus directory. -/
  corpus : Option Path
  deriving DecidableEq, Repr

/-- A whole configuration. -/
structure Configuration where
  /-- The general settings. -/
  harness : Settings
  /-- The languages in the order of their names. -/
  languages : List (String × LanguageSettings)
  deriving DecidableEq, Repr

/-- What can be wrong with a configuration's text. -/
inductive ConfigFault where
  /-- It is no TOML, or a setting is missing or of another type. -/
  | unreadable
  /-- No fixture may be checked at all. -/
  | noJobs
  deriving DecidableEq, Repr

/-- The wording of a fault. -/
def ConfigFault.message : ConfigFault → String
  | .unreadable => "TOML parse error"
  | .noJobs => "harness.jobs must be at least 1"

/-- Why there is no configuration, or no language in it. -/
inductive ConfigProblem where
  /-- The file cannot be read. -/
  | unreadable (path : Path) (message : String)
  /-- The file's text is at fault. -/
  | invalid (path : Path) (message : String)
  /-- The configuration does not have the language. -/
  | unknownLanguage (language : String)
  deriving DecidableEq, Repr

/-- The wording of an error. -/
def ConfigProblem.message : ConfigProblem → String
  | .unreadable path message => "could not read '" ++ path.text ++ "': " ++ message
  | .invalid path message => "could not parse '" ++ path.text ++ "': " ++ message
  | .unknownLanguage language => "language '" ++ language ++ "' is not configured"

/-! ### From TOML values -/

open Toml (Entries Value)

/-- A text. -/
def textOf? : Value → Option String
  | .string s => some s
  | _ => none

/-- A path. -/
def pathOf? (v : Value) : Option Path := (textOf? v).map (⟨·⟩)

/-- A number that is not negative. -/
def naturalOf? : Value → Option Nat
  | .integer (.ofNat n) => some n
  | _ => none

/-- The value of a key by `read`: nothing if the key is not given, a failure if `read` does not
take it. -/
def setting? {α : Type} (read : Value → Option α) (key : String) (es : Entries) :
    Option (Option α) :=
  match Toml.find? key es with
  | none => some none
  | some v => (read v).map some

/-- General settings: a table, or an array with all of them in order. A date counts as a table
in which none of them is given. -/
def Settings.ofValue? : Value → Option Settings
  | .datetime => some .default
  | .table _ es => do
    let root ← setting? pathOf? "corpus_root" es
    let dir ← setting? textOf? "corpus_dir" es
    let jobs ← setting? naturalOf? "jobs" es
    let timeout ← setting? naturalOf? "parse_timeout_ms" es
    let filter ← setting? textOf? "filter" es
    return ⟨root.getD Settings.default.corpusRoot, dir.getD Settings.default.corpusDir, jobs,
      timeout, filter⟩
  | .array (root :: dir :: jobs :: timeout :: filter :: _) => do
    return ⟨← pathOf? root, ← textOf? dir, some (← naturalOf? jobs),
      some (← naturalOf? timeout), some (← textOf? filter)⟩
  | _ => none

/-- Settings of a language: a table, or an array with both of them in order. -/
def LanguageSettings.ofValue? : Value → Option LanguageSettings
  | .table _ es => do
    let artifact ← pathOf? (← Toml.find? "artifact" es)
    return ⟨artifact, ← setting? pathOf? "corpus" es⟩
  | .array (artifact :: corpus :: _) => do
    return ⟨← pathOf? artifact, some (← pathOf? corpus)⟩
  | _ => none

/-- The languages of a table. -/
def languagesOf? : Value → Option (List (String × LanguageSettings))
  | .table _ es => do
    let languages ← es.mapM fun (id, v) => do return (id, ← LanguageSettings.ofValue? v)
    return Keyed.ofList languages
  | _ => none

namespace Configuration

/-- The configuration that holds without a file. -/
def default : Configuration := ⟨.default, []⟩

/-- The configuration that a TOML document writes, its paths as they are written. -/
def ofEntries? (es : Entries) : Option Configuration := do
  let harness ← setting? Settings.ofValue? "harness" es
  let languages ← setting? languagesOf? "languages" es
  return ⟨harness.getD .default, languages.getD []⟩

/-- The configuration with its paths seen from `base`. -/
def resolve (base : Path) (c : Configuration) : Configuration where
  harness := { c.harness with corpusRoot := base.join c.harness.corpusRoot }
  languages := c.languages.map fun (id, l) =>
    (id, ⟨base.join l.artifact, l.corpus.map base.join⟩)

/-- Reads a configuration whose paths are seen from `base`. -/
def parse (text : String) (base : Path) : Except ConfigFault Configuration :=
  match (Toml.read text).bind ofEntries? with
  | none => .error .unreadable
  | some c => if c.harness.jobs = some 0 then .error .noJobs else .ok (c.resolve base)

/-- The configuration in a file. -/
def load (disk : Disk) (path : Path) : Except ConfigProblem Configuration :=
  match disk.readText path with
  | .error trouble => .error (.unreadable path trouble.message)
  | .ok text =>
    match parse text path.parent with
    | .error fault => .error (.invalid path fault.message)
    | .ok c => .ok c

/-- The variable of the environment that names the configuration file. -/
def fileVariable : String := "GRAMMAR_CONFORMANCE_CONFIG"

/-- The configuration file that is looked for without that variable. -/
def defaultFile : Path := ⟨"grammar-conformance.toml"⟩

/-- The configuration of an environment: the file that it names, else the usual file if there is
one, else the usual settings. -/
def ofEnvironment (disk : Disk) (named : Option String) : Except ConfigProblem Configuration :=
  match named with
  | some path => load disk ⟨path⟩
  | none => if disk.isFile defaultFile then load disk defaultFile else .ok default

/-- The settings of a language. -/
def language (c : Configuration) (id : String) : Except ConfigProblem LanguageSettings :=
  match Keyed.find? id c.languages with
  | some l => .ok l
  | none => .error (.unknownLanguage id)

/-- How suites are run by a configuration. -/
def runSettings (c : Configuration) : RunSettings :=
  { RunSettings.new c.harness.corpusRoot with
    corpusDir := c.harness.corpusDir
    overrides := c.languages.filterMap fun (id, l) => l.corpus.map (id, ·)
    jobs := c.harness.jobs
    timeout := c.harness.timeout
    filter := c.harness.filter }

open Json.Value (ofOption) in
/-- A configuration as JSON. -/
def toJson (c : Configuration) : Json.Value :=
  .object [
    ("harness", .object [("corpus_root", .text c.harness.corpusRoot.text),
      ("corpus_dir", .text c.harness.corpusDir), ("jobs", ofOption .number c.harness.jobs),
      ("parse_timeout_ms", ofOption .number c.harness.timeout),
      ("filter", ofOption .text c.harness.filter)]),
    ("languages", .object (c.languages.map fun (id, l) =>
      (id, .object [("artifact", .text l.artifact.text),
        ("corpus", ofOption (fun p => .text p.text) l.corpus)])))]

end Configuration

end ParserConformance
