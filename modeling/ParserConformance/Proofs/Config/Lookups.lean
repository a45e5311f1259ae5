import Mathlib.Data.List.Perm.Basic
import ParserConformance.Config.Configuration
import ParserConformance.Proofs.Text.Replacement
import ParserConformance.Proofs.Toml.Sections

/-!
# What is looked up in a configuration

A configuration says of each language where its parser lies and where its corpus. Both come from the
text of the configuration and the directory of its file, and from nothing else (`TakenFrom`). What is
written in the section of one language is of no account to the others, wherever that section stands and
whatever is in it (`SameBut`, `Toml.Document.SameOutside`).

A section is mostly a table, but an array of its settings in their order is read as well.

## Main statement
- `Configuration.parse_lookups`: what a configuration that is read says about each language, and that it
  stays so when the sections of other languages change.
-/

namespace ParserConformance

/-! ### Named values in order -/

namespace Keyed

variable {α β : Type}

/-- A new name comes in somewhere. -/
theorem perm_insert {key : String} (v : α) {l : List (String × α)} (h : key ∉ l.map Prod.fst) :
    (insert key v l).Perm ((key, v) :: l) := by
  induction l with
  | nil => exact .refl _
  | cons e l ih =>
    obtain ⟨k, w⟩ := e
    obtain ⟨hne, hrest⟩ := not_or.1 (mt List.mem_cons.2 h)
    rw [insert, if_neg hne]
    split
    · exact .refl _
    · exact ((ih hrest).cons (k, w)).trans (.swap _ _ _)

theorem perm_foldl_insert {es kept : List (String × α)} (h : ((kept ++ es).map Prod.fst).Nodup) :
    (es.foldl (fun kept (key, v) => insert key v kept) kept).Perm (kept ++ es) := by
  induction es generalizing kept with
  | nil => rw [List.append_nil]; exact .refl _
  | cons e es ih =>
    obtain ⟨key, v⟩ := e
    have hmiddle : (kept ++ (key, v) :: es).Perm ((key, v) :: (kept ++ es)) := List.perm_middle
    have hnew : key ∉ kept.map Prod.fst := by
      have := (hmiddle.map Prod.fst).nodup_iff.1 h
      rw [List.map_cons, List.nodup_cons, List.map_append] at this
      exact fun hmem => this.1 (List.mem_append_left _ hmem)
    have hperm : (insert key v kept ++ es).Perm (kept ++ (key, v) :: es) :=
      ((perm_insert v hnew).append_right es).trans hmiddle.symm
    exact (ih ((hperm.map Prod.fst).nodup_iff.2 h)).trans hperm

/-- Names that are given once are all kept. -/
theorem perm_ofList {es : List (String × α)} (h : (es.map Prod.fst).Nodup) : (ofList es).Perm es :=
  perm_foldl_insert (show (([] ++ es).map Prod.fst).Nodup from h)

theorem find?_eq (key : String) (l : List (String × α)) :
    find? key l = (l.find? (·.1 = key)).map Prod.snd := by
  induction l with
  | nil => rfl
  | cons e l ih =>
    rw [find?, List.find?_cons, ih]
    by_cases hk : e.1 = key <;> simp [hk]

theorem find?_eq_some_iff {l : List (String × α)} (h : (l.map Prod.fst).Nodup) {key : String} {v : α} :
    find? key l = some v ↔ (key, v) ∈ l := by
  rw [find?_eq, List.map_snd_find?_eq_some_iff h]

theorem find?_map (f : α → β) (key : String) (l : List (String × α)) :
    find? key (l.map fun (k, a) => (k, f a)) = (find? key l).map f := by
  induction l with
  | nil => rfl
  | cons e l ih =>
    rw [List.map_cons, find?, find?, ih]
    split <;> rfl

theorem find?_filterMap {l : List (String × α)} (h : (l.map Prod.fst).Nodup) (f : α → Option β)
    (key : String) : find? key (l.filterMap fun (k, a) => (f a).map (k, ·)) = (find? key l).bind f := by
  induction l with
  | nil => rfl
  | cons e l ih =>
    obtain ⟨k, w⟩ := e
    rw [List.map_cons, List.nodup_cons] at h
    rw [find?]
    cases hw : f w with
    | some b =>
      rw [List.filterMap_cons_some (b := (k, b)) (by simp [hw]), find?, ih h.2]
      split
      · exact hw.symm
      · rfl
    | none =>
      rw [List.filterMap_cons_none (by simp [hw]), ih h.2]
      split
      · next hk =>
        have hnone : find? key l = none := by
          refine Option.eq_none_iff_forall_ne_some.2 fun v hv => h.1 ?_
          exact List.mem_map.2 ⟨_, (find?_eq_some_iff h.2).1 hv, hk.symm⟩
        rw [hnone, Option.bind_some, hw]
        rfl
      · rfl

end Keyed

/-! ### Paths -/

namespace Path

/-- An absolute path stands for itself. -/
theorem join_of_isAbsolute {p : Path} (h : p.isAbsolute = true) (base : Path) : base.join p = p := by
  rw [isAbsolute, decide_eq_true_eq] at h
  rw [join, joinChars, if_pos (by simp [h]), String.ofList_toList]

/-- A path seen from an absolute one is absolute. -/
theorem isAbsolute_join {base : Path} (h : base.isAbsolute = true) (p : Path) :
    (base.join p).isAbsolute = true := by
  rw [isAbsolute, decide_eq_true_eq] at h ⊢
  rw [join, String.toList_ofList, joinChars]
  split
  · next hp =>
    rw [Bool.or_eq_true, decide_eq_true_eq, decide_eq_true_eq] at hp
    refine hp.resolve_right fun hnil => ?_
    rw [hnil] at h
    cases h
  · split <;> rw [List.head?_append, h] <;> rfl

end Path

namespace Configuration

open Toml (Entries Value)

/-! ### What is written -/

/-- The text under a name in a section. In an array the name only counts by its place. -/
def textUnder? (name : String) (place : Nat) : Value → Option String
  | .table _ es => (Toml.find? name es).bind textOf?
  | .array items => items[place]?.bind textOf?
  | _ => none

/-- The section of a language. -/
def section? (es : Entries) (id : String) : Option Value :=
  (Toml.find? "languages" es).bind (Value.entry? id)

/-- The directory from which the template is judged, as it is written. -/
def writtenRoot (es : Entries) : String :=
  ((Toml.find? "harness" es).bind (textUnder? "corpus_root" 0)).getD "."

/-- The template as it is written. -/
def writtenTemplate (es : Entries) : String :=
  ((Toml.find? "harness" es).bind (textUnder? "corpus_dir" 1)).getD defaultTemplate

end Configuration

open ParserConformance.Configuration Toml

theorem textUnder?_of_setting? {name : String} {place : Nat} {form : Form} {es : Entries} {s : Option String}
    (h : setting? textOf? name es = some s) : textUnder? name place (.table form es) = s := by
  rw [setting?] at h
  rw [textUnder?]
  split at h
  · next hnone =>
    cases h
    rw [hnone]
    rfl
  · next v hv =>
    obtain ⟨t, ht, rfl⟩ := Option.map_eq_some_iff.1 h
    rw [hv]
    exact ht

theorem setting?_textOf? {name : String} {es : Entries} {p : Option Path}
    (h : setting? pathOf? name es = some p) : setting? textOf? name es = some (p.map Path.text) := by
  rw [setting?] at h ⊢
  split at h
  · cases h
    rfl
  · next v _ =>
    obtain ⟨path, hpath, rfl⟩ := Option.map_eq_some_iff.1 h
    obtain ⟨t, ht, rfl⟩ := Option.map_eq_some_iff.1 hpath
    rw [ht]
    rfl

theorem textOf?_of_pathOf? {v : Value} {p : Path} (h : pathOf? v = some p) : textOf? v = some p.text := by
  obtain ⟨t, ht, rfl⟩ := Option.map_eq_some_iff.1 h
  exact ht

/-- General settings are taken as they are written, or have their defaults. -/
theorem Settings.written {v : Value} {s : Settings} (h : Settings.ofValue? v = some s) :
    s.corpusRoot = ⟨(textUnder? "corpus_root" 0 v).getD "."⟩ ∧
      s.corpusDir = (textUnder? "corpus_dir" 1 v).getD defaultTemplate := by
  unfold Settings.ofValue? at h
  split at h
  · cases h
    exact ⟨rfl, rfl⟩
  · obtain ⟨root, hroot, h⟩ := Option.bind_eq_some_iff.1 h
    obtain ⟨dir, hdir, h⟩ := Option.bind_eq_some_iff.1 h
    obtain ⟨_, -, h⟩ := Option.bind_eq_some_iff.1 h
    obtain ⟨_, -, h⟩ := Option.bind_eq_some_iff.1 h
    obtain ⟨_, -, h⟩ := Option.bind_eq_some_iff.1 h
    cases h
    rw [textUnder?_of_setting? (setting?_textOf? hroot), textUnder?_of_setting? hdir]
    exact ⟨by cases root <;> rfl, rfl⟩
  · obtain ⟨root, hroot, h⟩ := Option.bind_eq_some_iff.1 h
    obtain ⟨dir, hdir, h⟩ := Option.bind_eq_some_iff.1 h
    obtain ⟨_, -, h⟩ := Option.bind_eq_some_iff.1 h
    obtain ⟨_, -, h⟩ := Option.bind_eq_some_iff.1 h
    obtain ⟨_, -, h⟩ := Option.bind_eq_some_iff.1 h
    cases h
    simp [textUnder?, textOf?_of_pathOf? hroot, hdir]
  · cases h

/-- The settings of a language are taken as they are written. -/
theorem LanguageSettings.written {v : Value} {l : LanguageSettings} (h : LanguageSettings.ofValue? v = some l) :
    textUnder? "artifact" 0 v = some l.artifact.text ∧
      textUnder? "corpus" 1 v = l.corpus.map Path.text := by
  unfold LanguageSettings.ofValue? at h
  split at h
  · obtain ⟨v, hv, h⟩ := Option.bind_eq_some_iff.1 h
    obtain ⟨artifact, hartifact, h⟩ := Option.bind_eq_some_iff.1 h
    obtain ⟨corpus, hcorpus, h⟩ := Option.bind_eq_some_iff.1 h
    cases h
    refine ⟨?_, textUnder?_of_setting? (setting?_textOf? hcorpus)⟩
    rw [textUnder?, hv]
    exact textOf?_of_pathOf? hartifact
  · obtain ⟨artifact, hartifact, h⟩ := Option.bind_eq_some_iff.1 h
    obtain ⟨corpus, hcorpus, h⟩ := Option.bind_eq_some_iff.1 h
    cases h
    exact ⟨textOf?_of_pathOf? hartifact, textOf?_of_pathOf? hcorpus⟩
  · cases h

/-! ### The sections of languages -/

theorem given_of_mapM {es : Entries} {given : List (String × LanguageSettings)}
    (h : (es.mapM fun (id, v) => do return (id, ← LanguageSettings.ofValue? v)) = some given) :
    given.map Prod.fst = es.map Prod.fst ∧
      (∀ id l, (id, l) ∈ given ↔ ∃ v, (id, v) ∈ es ∧ LanguageSettings.ofValue? v = some l) ∧
      ∀ id v, (id, v) ∈ es → ∃ l, LanguageSettings.ofValue? v = some l := by
  induction es generalizing given with
  | nil =>
    cases h
    simp
  | cons e es ih =>
    rw [List.mapM_cons] at h
    obtain ⟨first, hfirst, h⟩ := Option.bind_eq_some_iff.1 h
    obtain ⟨settings, hsettings, hfirst⟩ := Option.bind_eq_some_iff.1 hfirst
    obtain ⟨rest, hrest, h⟩ := Option.bind_eq_some_iff.1 h
    cases hfirst
    cases h
    obtain ⟨hkeys, hmem, htotal⟩ := ih hrest
    refine ⟨by simp [hkeys], fun id l => ?_, fun id v hv => ?_⟩
    · simp only [List.mem_cons, hmem]
      constructor
      · rintro (he | ⟨v, hv, hl⟩)
        · cases he
          exact ⟨e.2, .inl rfl, hsettings⟩
        · exact ⟨v, .inr hv, hl⟩
      · rintro ⟨v, rfl | hv, hl⟩
        · rw [hsettings] at hl
          cases hl
          exact .inl rfl
        · exact .inr ⟨v, hv, hl⟩
    · obtain rfl | hv := List.mem_cons.1 hv
      · exact ⟨settings, hsettings⟩
      · exact htotal id v hv

/-- Each language has the settings that its section gives. -/
theorem find?_of_languagesOf? {v : Value} {languages : List (String × LanguageSettings)} (hv : v.Tidy)
    (h : languagesOf? v = some languages) : (languages.map Prod.fst).Nodup ∧
      (∀ id, Keyed.find? id languages = (v.entry? id).bind LanguageSettings.ofValue?) ∧
      ∀ id w, v.entry? id = some w → ∃ l, LanguageSettings.ofValue? w = some l := by
  unfold languagesOf? at h
  split at h
  · next form es =>
    obtain ⟨given, hgiven, h⟩ := Option.bind_eq_some_iff.1 h
    cases h
    obtain ⟨hkeys, hmem, htotal⟩ := given_of_mapM hgiven
    have hes := hv.entries.keys
    have hperm : (Keyed.ofList given).Perm given := Keyed.perm_ofList (hkeys ▸ hes)
    have hnodup : ((Keyed.ofList given).map Prod.fst).Nodup := (hperm.map Prod.fst).nodup_iff.2 (hkeys ▸ hes)
    refine ⟨hnodup, fun id => ?_, fun id w hw => htotal id w ((find?_eq_some_iff hes).1 hw)⟩
    ext l
    rw [Keyed.find?_eq_some_iff hnodup, hperm.mem_iff, hmem, Option.bind_eq_some_iff]
    simp only [Value.entry?, find?_eq_some_iff hes]
  · cases h

/-! ### Lookups -/

/-- The settings of a language with their paths seen from `base`. -/
def LanguageSettings.seenFrom (base : Path) (l : LanguageSettings) : LanguageSettings :=
  ⟨base.join l.artifact, l.corpus.map base.join⟩

namespace Configuration

section

variable {es : Entries} {written : Configuration} {base : Path}

theorem setting?_eq_some {α : Type} {read : Value → Option α} {key : String} {x : Option α}
    (h : setting? read key es = some x) : x = (Toml.find? key es).bind read ∧
      ∀ v, Toml.find? key es = some v → ∃ a, read v = some a := by
  rw [setting?] at h
  cases hv : Toml.find? key es with
  | none =>
    rw [hv] at h
    cases h
    exact ⟨rfl, nofun⟩
  | some v =>
    rw [hv] at h
    obtain ⟨a, ha, rfl⟩ := Option.map_eq_some_iff.1 h
    refine ⟨ha.symm, ?_⟩
    rintro _ ⟨⟩
    exact ⟨a, ha⟩

theorem harness_written (h : ofEntries? es = some written) :
    written.harness = ((Toml.find? "harness" es).bind Settings.ofValue?).getD .default := by
  obtain ⟨harness, hharness, h⟩ := Option.bind_eq_some_iff.1 h
  obtain ⟨languages, -, h⟩ := Option.bind_eq_some_iff.1 h
  cases h
  rw [(setting?_eq_some hharness).1]

theorem root_written (h : ofEntries? es = some written) :
    written.harness.corpusRoot = ⟨writtenRoot es⟩ ∧ written.harness.corpusDir = writtenTemplate es := by
  obtain ⟨harness, hharness, h⟩ := Option.bind_eq_some_iff.1 h
  obtain ⟨languages, -, h⟩ := Option.bind_eq_some_iff.1 h
  cases h
  obtain ⟨rfl, hread⟩ := setting?_eq_some hharness
  rw [writtenRoot, writtenTemplate]
  cases hv : Toml.find? "harness" es with
  | none => exact ⟨rfl, rfl⟩
  | some v =>
    obtain ⟨s, hs⟩ := hread v hv
    rw [Option.bind_some, hs]
    exact Settings.written hs

theorem languages_written (hes : Toml.Tidy es) (h : ofEntries? es = some written) :
    (written.languages.map Prod.fst).Nodup ∧
      (∀ id, Keyed.find? id written.languages = (section? es id).bind LanguageSettings.ofValue?) ∧
      ∀ id w, section? es id = some w → ∃ l, LanguageSettings.ofValue? w = some l := by
  obtain ⟨harness, -, h⟩ := Option.bind_eq_some_iff.1 h
  obtain ⟨languages, hlanguages, h⟩ := Option.bind_eq_some_iff.1 h
  cases h
  obtain ⟨rfl, hread⟩ := setting?_eq_some hlanguages
  simp only [section?]
  cases hv : Toml.find? "languages" es with
  | none => exact ⟨.nil, fun _ => rfl, nofun⟩
  | some v =>
    obtain ⟨languages, hlanguages⟩ := hread v hv
    rw [Option.bind_some, hlanguages]
    exact find?_of_languagesOf? (hes.find? hv) hlanguages

theorem find?_resolve (id : String) : Keyed.find? id (written.resolve base).languages =
    (Keyed.find? id written.languages).map (·.seenFrom base) :=
  Keyed.find?_map (LanguageSettings.seenFrom base) id written.languages

theorem language_resolve (id : String) : (written.resolve base).language id =
    match Keyed.find? id written.languages with
    | some l => .ok (l.seenFrom base)
    | none => .error (.unknownLanguage id) := by
  rw [language, find?_resolve]
  cases Keyed.find? id written.languages <;> rfl

/-- The corpus directory of a language: its own, or what the template says, seen from `base`. -/
theorem corpusDirectory_resolve (h : (written.languages.map Prod.fst).Nodup) (id : String) :
    (written.resolve base).runSettings.corpusDirectory id =
      match (Keyed.find? id written.languages).bind (·.corpus) with
      | some corpus => base.join corpus
      | none => (base.join written.harness.corpusRoot).join
          ⟨Text.replaceIn languageMark id written.harness.corpusDir⟩ := by
  have hresolve : ((written.resolve base).languages.map Prod.fst).Nodup := by
    simpa [resolve, Function.comp_def] using h
  have hfind : Keyed.find? id (written.resolve base).runSettings.overrides =
      ((Keyed.find? id written.languages).bind (·.corpus)).map base.join := by
    refine (Keyed.find?_filterMap hresolve (·.corpus) id).trans ?_
    rw [find?_resolve]
    cases Keyed.find? id written.languages <;> rfl
  rw [RunSettings.corpusDirectory, hfind]
  cases (Keyed.find? id written.languages).bind (·.corpus) <;> rfl

theorem replaceIn_languageMark (id template : String) (t : List Char) :
    Text.Replaced languageMark.toList id.toList template.toList t ↔
      Text.replace languageMark.toList id.toList template.toList = t := by
  have hmark : languageMark.toList = '\x7b' :: "language\x7d".toList := by decide
  rw [hmark]
  exact Text.replaced_iff (by decide)

/-- What a configuration says about a language is what is written, seen from `base`. -/
structure TakenFrom (es : Entries) (base : Path) (c : Configuration) (id : String) : Prop where
  /-- A language without a section is not known. -/
  unknown : section? es id = none → c.language id = .error (.unknownLanguage id)
  /-- The artifact is the one in the language's section. -/
  artifact : ∀ v, section? es id = some v → ∃ l path, c.language id = .ok l ∧
    textUnder? "artifact" 0 v = some path ∧ l.artifact = base.join ⟨path⟩ ∧ l.artifact.isAbsolute = true
  /-- The corpus directory is the language's own, if it has one. -/
  own : ∀ path, (section? es id).bind (textUnder? "corpus" 1) = some path →
    c.runSettings.corpusDirectory id = base.join ⟨path⟩
  /-- Else it is what the template says, with the language in place of each mark. -/
  fromTemplate : (section? es id).bind (textUnder? "corpus" 1) = none → ∃ dir,
    (∀ t, Text.Replaced languageMark.toList id.toList (writtenTemplate es).toList t ↔ dir = t) ∧
      c.runSettings.corpusDirectory id = (base.join ⟨writtenRoot es⟩).join ⟨String.ofList dir⟩
  /-- It is absolute. -/
  isAbsolute : (c.runSettings.corpusDirectory id).isAbsolute = true

theorem takenFrom_resolve (hes : Toml.Tidy es) (h : ofEntries? es = some written)
    (hbase : base.isAbsolute = true) (id : String) : TakenFrom es base (written.resolve base) id := by
  obtain ⟨hroot, htemplate⟩ := root_written h
  obtain ⟨hnodup, hfind, hread⟩ := languages_written hes h
  have hown : (section? es id).bind (textUnder? "corpus" 1) =
      ((Keyed.find? id written.languages).bind (·.corpus)).map Path.text := by
    rw [hfind id]
    cases hv : section? es id with
    | none => rfl
    | some v =>
      obtain ⟨l, hl⟩ := hread id v hv
      rw [Option.bind_some, Option.bind_some, hl]
      exact (LanguageSettings.written hl).2
  constructor
  case unknown =>
    intro hnone
    rw [language_resolve, hfind id, hnone]
    rfl
  case artifact =>
    intro v hv
    obtain ⟨l, hl⟩ := hread id v hv
    refine ⟨l.seenFrom base, l.artifact.text, ?_, (LanguageSettings.written hl).1, rfl,
      Path.isAbsolute_join hbase _⟩
    rw [language_resolve, hfind id, hv, Option.bind_some, hl]
  case own =>
    intro path hpath
    rw [hown] at hpath
    obtain ⟨corpus, hcorpus, rfl⟩ := Option.map_eq_some_iff.1 hpath
    rw [corpusDirectory_resolve hnodup, hcorpus]
  case fromTemplate =>
    intro hnone
    rw [hown, Option.map_eq_none_iff] at hnone
    refine ⟨_, fun t => replaceIn_languageMark id (writtenTemplate es) t, ?_⟩
    rw [corpusDirectory_resolve hnodup, hnone, hroot, htemplate]
    rfl
  case isAbsolute =>
    rw [corpusDirectory_resolve hnodup]
    split
    · exact Path.isAbsolute_join hbase _
    · exact Path.isAbsolute_join (Path.isAbsolute_join hbase _) _

/-- Whether entries agree in all that concerns other languages than `k`. -/
structure SameBut (k : String) (es es' : Entries) : Prop where
  /-- The general settings are the same. -/
  harness : Toml.find? "harness" es' = Toml.find? "harness" es
  /-- So are the sections of other languages. -/
  sections : ∀ id, id ≠ k → section? es' id = section? es id

theorem sameBut_of_related {k : String} {es es' : Entries} (h : Toml.Related "languages" k es es') :
    SameBut k es es' where
  harness := h.others "harness" (by decide)
  sections _ hid := h.inner.entry? hid

/-- Lookups of a language depend on the general settings and on its own section. -/
theorem SameBut.lookups {k : String} {es es' : Entries} {written written' : Configuration}
    (hsame : SameBut k es es') (hes : Toml.Tidy es) (hes' : Toml.Tidy es')
    (h : ofEntries? es = some written) (h' : ofEntries? es' = some written') {id : String} (hid : id ≠ k) :
    (written'.resolve base).language id = (written.resolve base).language id ∧
      (written'.resolve base).runSettings.corpusDirectory id =
        (written.resolve base).runSettings.corpusDirectory id := by
  obtain ⟨hnodup, hfind, -⟩ := languages_written hes h
  obtain ⟨hnodup', hfind', -⟩ := languages_written hes' h'
  have hlanguage : Keyed.find? id written'.languages = Keyed.find? id written.languages := by
    rw [hfind, hfind', hsame.sections id hid]
  have hharness : written'.harness = written.harness := by
    rw [harness_written h, harness_written h', hsame.harness]
  rw [language_resolve, language_resolve, corpusDirectory_resolve hnodup, corpusDirectory_resolve hnodup',
    hlanguage, hharness]
  exact ⟨rfl, rfl⟩

end

/-- **What is looked up in a configuration is what its text says, seen from its directory**, and the
section of one language makes no difference to what is looked up for another. -/
theorem parse_lookups {text : String} {es : Entries} {written : Configuration} {base : Path}
    (hread : Toml.read text = some es) (hwritten : ofEntries? es = some written)
    (hjobs : written.harness.jobs ≠ some 0) (hbase : base.isAbsolute = true) :
    (∀ p : Path, p.isAbsolute = true → base.join p = p) ∧
      ∃ c, parse text base = .ok c ∧ (∀ id, TakenFrom es base c id) ∧
        ∀ {text' : String} {es' : Entries} {written' : Configuration}, Toml.read text' = some es' →
          ofEntries? es' = some written' → written'.harness.jobs ≠ some 0 →
          ∃ c', parse text' base = .ok c' ∧ ∀ k,
            (SameBut k es es' ∨ ∃ d d', Toml.document? text = some d ∧ Toml.document? text' = some d' ∧
              d.SameOutside "languages" k d') →
            ∀ id, id ≠ k → c'.language id = c.language id ∧
              c'.runSettings.corpusDirectory id = c.runSettings.corpusDirectory id := by
  have hparse {text : String} {es : Entries} {written : Configuration} (hread : Toml.read text = some es)
      (hwritten : ofEntries? es = some written) (hjobs : written.harness.jobs ≠ some 0) :
      parse text base = .ok (written.resolve base) := by
    rw [parse, hread, Option.bind_some, hwritten]
    exact if_neg hjobs
  have hes := Toml.tidy_of_read hread
  refine ⟨fun p hp => Path.join_of_isAbsolute hp base, _, hparse hread hwritten hjobs,
    takenFrom_resolve hes hwritten hbase, ?_⟩
  intro text' es' written' hread' hwritten' hjobs'
  refine ⟨_, hparse hread' hwritten' hjobs', fun k hk id hid => ?_⟩
  have hsame : SameBut k es es' := by
    obtain hsame | ⟨d, d', hd, hd', hsame⟩ := hk
    · exact hsame
    · rw [Toml.read_eq, hd] at hread
      rw [Toml.read_eq, hd'] at hread'
      exact sameBut_of_related (Toml.related_of_sameOutside hsame hread hread')
  exact hsame.lookups hes (Toml.tidy_of_read hread') hwritten hwritten' hid

/-- A configuration of one language, whose corpus lies where the usual template says. -/
def luaText : String := "[languages.lua]\nartifact = \"/opt/lua\"\n"

/-- The same with another language after it. -/
def luaAndYamlText : String :=
  luaText ++ "[languages.yaml]\nartifact = \"yaml\"\ncorpus = \"tests\"\n"

/-- The section of the first language. -/
def luaSection : Toml.Section :=
  ⟨⟨["languages"], "lua", false⟩, [⟨[], "artifact", .string "/opt/lua"⟩]⟩

/-- The section of the other. -/
def yamlSection : Toml.Section :=
  ⟨⟨["languages"], "yaml", false⟩, [⟨[], "artifact", .string "yaml"⟩, ⟨[], "corpus", .string "tests"⟩]⟩

/-- The table of the first language. -/
def luaTable : Value := .table .header [("artifact", .string "/opt/lua")]

/-- The table of the other. -/
def yamlTable : Value := .table .header [("artifact", .string "yaml"), ("corpus", .string "tests")]

/-- The corpus of the first language lies where it lay before the other one came. -/
theorem parse_lookups_luaAndYaml :
    Toml.read luaText = some [("languages", .table .implied [("lua", luaTable)])] ∧
      Toml.read luaAndYamlText =
        some [("languages", .table .implied [("lua", luaTable), ("yaml", yamlTable)])] ∧
      ∃ c c', parse luaText ⟨"/work"⟩ = .ok c ∧ parse luaAndYamlText ⟨"/work"⟩ = .ok c' ∧
        c.runSettings.corpusDirectory "lua" = ⟨"/work/./lua/corpus"⟩ ∧
        c'.runSettings.corpusDirectory "lua" = c.runSettings.corpusDirectory "lua" := by
  have hread : Toml.read luaText = some [("languages", .table .implied [("lua", luaTable)])] := by rfl
  have hread' : Toml.read luaAndYamlText =
      some [("languages", .table .implied [("lua", luaTable), ("yaml", yamlTable)])] := by rfl
  have hwritten : ofEntries? [("languages", .table .implied [("lua", luaTable)])] =
      some ⟨.default, [("lua", ⟨⟨"/opt/lua"⟩, none⟩)]⟩ := by rfl
  have hwritten' : ofEntries? [("languages", .table .implied [("lua", luaTable), ("yaml", yamlTable)])] =
      some ⟨.default, [("lua", ⟨⟨"/opt/lua"⟩, none⟩), ("yaml", ⟨⟨"yaml"⟩, some ⟨"tests"⟩⟩)]⟩ := by rfl
  have hjobs : Settings.default.jobs ≠ some 0 := by decide
  have hbase : (⟨"/work"⟩ : Path).isAbsolute = true := by decide
  obtain ⟨-, c, hc, htaken, hother⟩ := parse_lookups hread hwritten hjobs hbase
  obtain ⟨c', hc', hsame⟩ := hother hread' hwritten' hjobs
  obtain ⟨dir, hdir, hcorpus⟩ := (htaken "lua").fromTemplate rfl
  have hlua : dir = "lua/corpus".toList :=
    (hdir _).1 (.more [] (by decide) (.last "/corpus".toList (by decide)))
  have hdocument : (⟨[], [luaSection]⟩ : Toml.Document).SameOutside "languages" "yaml"
      ⟨[], [luaSection, yamlSection]⟩ := ⟨rfl, rfl⟩
  refine ⟨hread, hread', c, c', hc, hc', ?_, ?_⟩
  · rw [hcorpus, hlua]
    rfl
  · exact (hsame "yaml" (.inr ⟨_, _, rfl, rfl, hdocument⟩) "lua" (by decide)).2

end Configuration

end ParserConformance
