import Mathlib.Data.List.Sort
import ParserConformance.Corpus.Discovery
import ParserConformance.Proofs.Files.Reordering

/-!
# What a directory holds for a corpus

A corpus is found by listing a directory. The names come in no order of note, so all that depends on
them has to be settled by their own order: which file is blamed if several cannot be read, and how the
fixtures follow each other. The corpus files of a directory (`corpusFiles`) are the same list, however
the disk lists its entries, and everything else is told by them.

## Main statement
- `Corpus.collect_anyOrder`: what finding a corpus comes to, in whatever order the disk lists its
  entries.
-/

namespace ParserConformance.Corpus

/-! ### Names in their order -/

theorem insertName_eq (name : String) (names : List String) :
    insertName name names = names.orderedInsert (· ≤ ·) name := by
  induction names with
  | nil => rfl
  | cons n names ih => rw [insertName, List.orderedInsert_cons, ih]

theorem sortNames_eq (names : List String) : sortNames names = names.insertionSort (· ≤ ·) := by
  induction names with
  | nil => rfl
  | cons name names ih =>
    rw [List.insertionSort_cons, ← ih, ← insertName_eq]
    rfl

theorem perm_sortNames (names : List String) : (sortNames names).Perm names := by
  rw [sortNames_eq]
  exact List.perm_insertionSort _ names

theorem pairwise_sortNames (names : List String) : (sortNames names).Pairwise (· ≤ ·) := by
  rw [sortNames_eq]
  exact List.pairwise_insertionSort _ names

/-- Names have one order only. -/
theorem sortNames_eq_of_perm {names names' : List String} (h : names'.Perm names) :
    sortNames names' = sortNames names :=
  ((perm_sortNames names').trans (h.trans (perm_sortNames names).symm)).eq_of_pairwise
    (fun _ _ _ _ => String.le_antisymm) (pairwise_sortNames names') (pairwise_sortNames names)

theorem pairwise_lt_sortNames {names : List String} (h : names.Nodup) :
    (sortNames names).Pairwise (· < ·) := by
  have hne : (sortNames names).Pairwise (· ≠ ·) := (perm_sortNames names).nodup_iff.2 h
  refine ((pairwise_sortNames names).and hne).imp fun {a b} hab => String.not_le.1 fun hba => ?_
  exact hab.2 (String.le_antisymm hab.1 hba)

/-! ### Corpus files -/

/-- The names of the corpus files in a directory, in their order; none if it cannot be listed. -/
def corpusFiles (format : Format) (disk : Disk) (dir : Path) : List String :=
  match disk.list dir with
  | .error _ => []
  | .ok names => sortNames (names.filter (isCorpusFile format disk dir))

section

variable {format : Format} {d d' : Disk} {dir : Path}

theorem isCorpusFile_iff {name : String} : isCorpusFile format d dir name = true ↔
    (dir.join ⟨name⟩).extension? = some format.extension ∧ d.isFile (dir.join ⟨name⟩) = true := by
  simp [isCorpusFile]

theorem mem_corpusFiles {name : String} : name ∈ corpusFiles format d dir ↔
    ∃ names, d.list dir = .ok names ∧ name ∈ names ∧ isCorpusFile format d dir name = true := by
  rw [corpusFiles]
  cases d.list dir with
  | error trouble => simp
  | ok names => simp [(perm_sortNames _).mem_iff]

theorem pairwise_corpusFiles (hd : d.Distinct) : (corpusFiles format d dir).Pairwise (· < ·) := by
  rw [corpusFiles]
  cases hlist : d.list dir with
  | error trouble => exact .nil
  | ok names => exact pairwise_lt_sortNames ((hd.nodup_of_list hlist).filter _)

/-- The corpus files do not depend on the order of the disk's entries. -/
theorem corpusFiles_reordered (h : d.Reordered d') (hd : d.Distinct) :
    corpusFiles format d' dir = corpusFiles format d dir := by
  have hfile : isCorpusFile format d' dir = isCorpusFile format d dir := by
    funext name
    simp only [isCorpusFile, h.isFile hd]
  rw [corpusFiles, corpusFiles, hfile]
  obtain ⟨names, names', hlist, hlist', hperm⟩ | ⟨trouble, hlist, hlist'⟩ := h.list hd dir
  · rw [hlist, hlist']
    exact sortNames_eq_of_perm (hperm.filter _)
  · rw [hlist, hlist']

/-! ### Their fixtures -/

theorem readFiles_reordered (h : d.Reordered d') (hd : d.Distinct) (files : List Path) :
    readFiles format d' files = readFiles format d files := by
  induction files with
  | nil => rfl
  | cons file files ih => rw [readFiles, readFiles, h.readText hd, ih]

theorem readFiles_cons_of_ok {file : Path} {text : String} (h : d.readText file = .ok text)
    (files : List Path) : readFiles format d (file :: files) =
      (readFiles format d files).map (format.split file text ++ ·) := by
  rw [readFiles, h]
  rfl

theorem readFiles_cons_of_error {file : Path} {trouble : Trouble} (h : d.readText file = .error trouble)
    (files : List Path) : readFiles format d (file :: files) = .error (.unreadable file trouble) := by
  rw [readFiles, h]

theorem map_eq_ok_iff {α β : Type} {x : Except Absence α} {f : α → β} {b : β} :
    x.map f = .ok b ↔ ∃ a, x = .ok a ∧ f a = b := by
  cases x <;> simp [Except.map]

theorem map_eq_error_iff {α β : Type} {x : Except Absence α} {f : α → β} {absence : Absence} :
    x.map f = .error absence ↔ x = .error absence := by
  cases x <;> simp [Except.map]

/-- Files are read if each of them can be. -/
theorem readFiles_eq_ok_iff {names : List String} {fixtures : List Fixture} :
    readFiles format d (names.map fun name => dir.join ⟨name⟩) = .ok fixtures ↔ ∃ texts,
      List.Forall₂ (fun name text => d.readText (dir.join ⟨name⟩) = .ok text) names texts ∧
        fixtures = (names.zip texts).flatMap fun (name, text) => format.split (dir.join ⟨name⟩) text := by
  induction names generalizing fixtures with
  | nil => simp [readFiles, eq_comm]
  | cons name names ih =>
    rw [List.map_cons]
    constructor
    · intro h
      cases hread : d.readText (dir.join ⟨name⟩) with
      | error trouble => rw [readFiles_cons_of_error hread] at h; cases h
      | ok text =>
        rw [readFiles_cons_of_ok hread, map_eq_ok_iff] at h
        obtain ⟨rest, hrest, rfl⟩ := h
        obtain ⟨texts, htexts, rfl⟩ := ih.1 hrest
        exact ⟨text :: texts, .cons hread htexts, rfl⟩
    · rintro ⟨_, _ | ⟨hread, htexts⟩, rfl⟩
      rw [readFiles_cons_of_ok hread, ih.2 ⟨_, htexts, rfl⟩]
      rfl

/-- Files cannot be read because of the first of them that cannot be. -/
theorem readFiles_eq_error_iff {names : List String} {absence : Absence} :
    readFiles format d (names.map fun name => dir.join ⟨name⟩) = .error absence ↔
      ∃ before name after trouble, names = before ++ name :: after ∧
        (∀ n ∈ before, ∃ text, d.readText (dir.join ⟨n⟩) = .ok text) ∧
        d.readText (dir.join ⟨name⟩) = .error trouble ∧ absence = .unreadable (dir.join ⟨name⟩) trouble := by
  induction names with
  | nil => simp [readFiles]
  | cons name names ih =>
    rw [List.map_cons]
    constructor
    · intro h
      cases hread : d.readText (dir.join ⟨name⟩) with
      | error trouble =>
        rw [readFiles_cons_of_error hread] at h
        cases h
        exact ⟨[], name, names, trouble, rfl, by simp, hread, rfl⟩
      | ok text =>
        rw [readFiles_cons_of_ok hread, map_eq_error_iff] at h
        obtain ⟨before, blamed, after, trouble, rfl, hbefore, hblamed, rfl⟩ := ih.1 h
        exact ⟨name :: before, blamed, after, trouble, rfl,
          List.forall_mem_cons.2 ⟨⟨text, hread⟩, hbefore⟩, hblamed, rfl⟩
    · rintro ⟨before, blamed, after, trouble, hnames, hbefore, hblamed, rfl⟩
      cases before with
      | nil =>
        cases hnames
        exact readFiles_cons_of_error hblamed _
      | cons first before =>
        cases hnames
        obtain ⟨⟨text, hread⟩, hbefore⟩ := List.forall_mem_cons.1 hbefore
        rw [readFiles_cons_of_ok hread, map_eq_error_iff]
        exact ih.2 ⟨before, blamed, after, trouble, rfl, hbefore, hblamed, rfl⟩

theorem collect_eq {language : String} : collect format d language dir =
    if corpusFiles format d dir = [] then .error (.notFound dir)
    else (readFiles format d ((corpusFiles format d dir).map fun name => dir.join ⟨name⟩)).map
      (⟨language, dir, ·⟩) := by
  rw [collect, corpusFiles]
  cases d.list dir with
  | error trouble => rfl
  | ok names =>
    simp only
    cases sortNames (names.filter (isCorpusFile format d dir)) with
    | nil => rfl
    | cons name names => rfl

theorem collect_eq_notFound_iff {language : String} {p : Path} :
    collect format d language dir = .error (.notFound p) ↔ p = dir ∧ corpusFiles format d dir = [] := by
  rw [collect_eq]
  split
  · next hnil => simp [hnil, eq_comm]
  · next hne =>
    rw [map_eq_error_iff, readFiles_eq_error_iff]
    simp [hne]

theorem collect_eq_unreadable_iff {language : String} {file : Path} {trouble : Trouble} :
    collect format d language dir = .error (.unreadable file trouble) ↔ ∃ before name after,
      corpusFiles format d dir = before ++ name :: after ∧
        (∀ n ∈ before, ∃ text, d.readText (dir.join ⟨n⟩) = .ok text) ∧
        d.readText (dir.join ⟨name⟩) = .error trouble ∧ file = dir.join ⟨name⟩ := by
  rw [collect_eq]
  split
  · next hnil => simp [hnil]
  · rw [map_eq_error_iff, readFiles_eq_error_iff]
    constructor
    · rintro ⟨before, name, after, _, hfiles, hbefore, hname, habsence⟩
      cases habsence
      exact ⟨before, name, after, hfiles, hbefore, hname, rfl⟩
    · rintro ⟨before, name, after, hfiles, hbefore, hname, rfl⟩
      exact ⟨before, name, after, trouble, hfiles, hbefore, hname, rfl⟩

theorem collect_eq_ok_iff {language : String} {corpus : Collection} :
    collect format d language dir = .ok corpus ↔ corpusFiles format d dir ≠ [] ∧ ∃ texts,
      List.Forall₂ (fun name text => d.readText (dir.join ⟨name⟩) = .ok text)
        (corpusFiles format d dir) texts ∧
      corpus = ⟨language, dir, ((corpusFiles format d dir).zip texts).flatMap fun (name, text) =>
        format.split (dir.join ⟨name⟩) text⟩ := by
  rw [collect_eq]
  split
  · next hnil => simp [hnil]
  · next hne =>
    rw [map_eq_ok_iff]
    constructor
    · rintro ⟨fixtures, hfixtures, rfl⟩
      obtain ⟨texts, htexts, rfl⟩ := readFiles_eq_ok_iff.1 hfixtures
      exact ⟨hne, texts, htexts, rfl⟩
    · rintro ⟨-, texts, htexts, rfl⟩
      exact ⟨_, readFiles_eq_ok_iff.2 ⟨texts, htexts, rfl⟩, rfl⟩

end

/-- **Finding a corpus comes to the same in whatever order the disk lists its entries.** The corpus files
are taken in the order of their names, each once. If there is none, or the directory cannot be listed,
there is no corpus; else the first of them that cannot be read is blamed; else their fixtures follow
each other. -/
theorem collect_anyOrder (format : Format) {d : Disk} (hd : d.Distinct) (language : String) (dir : Path) :
    (∀ d', d.Reordered d' → collect format d' language dir = collect format d language dir) ∧
      (∀ p, collect format d language dir = .error (.notFound p) ↔ p = dir ∧
        ∀ names, d.list dir = .ok names → ∀ name ∈ names,
          ¬((dir.join ⟨name⟩).extension? = some format.extension ∧ d.isFile (dir.join ⟨name⟩) = true)) ∧
      ∃ files : List String, files.Pairwise (· < ·) ∧
        (∀ name, name ∈ files ↔ ∃ names, d.list dir = .ok names ∧ name ∈ names ∧
          (dir.join ⟨name⟩).extension? = some format.extension ∧ d.isFile (dir.join ⟨name⟩) = true) ∧
        (∀ file trouble, collect format d language dir = .error (.unreadable file trouble) ↔
          ∃ before name after, files = before ++ name :: after ∧
            (∀ n ∈ before, ∃ text, d.readText (dir.join ⟨n⟩) = .ok text) ∧
            d.readText (dir.join ⟨name⟩) = .error trouble ∧ file = dir.join ⟨name⟩) ∧
        ∀ corpus, collect format d language dir = .ok corpus ↔ files ≠ [] ∧ ∃ texts,
          List.Forall₂ (fun name text => d.readText (dir.join ⟨name⟩) = .ok text) files texts ∧
          corpus = ⟨language, dir, (files.zip texts).flatMap fun (name, text) =>
            format.split (dir.join ⟨name⟩) text⟩ := by
  have hmem (name : String) : name ∈ corpusFiles format d dir ↔ ∃ names, d.list dir = .ok names ∧
      name ∈ names ∧ (dir.join ⟨name⟩).extension? = some format.extension ∧
        d.isFile (dir.join ⟨name⟩) = true := by
    simp only [mem_corpusFiles, isCorpusFile_iff]
  refine ⟨fun d' h => ?_, fun p => ?_, corpusFiles format d dir, pairwise_corpusFiles hd, hmem,
    fun _ _ => collect_eq_unreadable_iff, fun _ => collect_eq_ok_iff⟩
  · rw [collect_eq, collect_eq, corpusFiles_reordered h hd, readFiles_reordered h hd]
  · rw [collect_eq_notFound_iff, List.eq_nil_iff_forall_not_mem]
    simp only [hmem, not_exists, not_and]
    refine and_congr_right fun _ => ?_
    constructor
    · exact fun h names hnames name hname => h name names hnames hname
    · exact fun h name names hnames hname => h names hnames name hname

/-- A block of the given title. -/
def titledBlock (title : String) : String := "===\n" ++ title ++ "\n===\nx\n---\n(a)\n"

/-- A directory with two corpus files, the later one listed first, and with notes and a directory that
are no corpus files. -/
def twoFiles : Disk where
  here := []
  entries :=
    [(["corpus", "b.txt"], .file 0o644 (titledBlock "second").toUTF8.toList),
      (["corpus"], .directory 0o755), (["corpus", "old.txt"], .directory 0o755),
      (["corpus", "notes.md"], .file 0o644 (titledBlock "ignored").toUTF8.toList),
      (["corpus", "a.txt"], .file 0o644 (titledBlock "first").toUTF8.toList)]

/-- The same directory, listed the other way round. -/
def twoFilesReversed : Disk := { twoFiles with entries := twoFiles.entries.reverse }

/-- The fixtures stand in the order of their files' names, whichever file is listed first. -/
theorem collect_anyOrder_twoFiles :
    twoFiles.Distinct ∧ twoFiles.Reordered twoFilesReversed ∧
      (collect .blockText twoFilesReversed "list" ⟨"corpus"⟩).map (·.fixtures.map (·.name)) =
        .ok ["first", "second"] := by
  have hd : twoFiles.Distinct := by decide
  have hr : twoFiles.Reordered twoFilesReversed := ⟨List.reverse_perm _, rfl⟩
  refine ⟨hd, hr, ?_⟩
  rw [(collect_anyOrder .blockText hd "list" ⟨"corpus"⟩).1 _ hr]
  decide +kernel

end ParserConformance.Corpus
