import SourceAudit.Proofs.Exclusion
import SourceAudit.Proofs.Arguments

/-! What a caller excludes, in parts between commas. -/

namespace SourceAudit

open Answers

namespace Targets

/-- The parts of what the caller excludes. The empty string has none. -/
def components (excluded : String) : List String := if excluded.isEmpty then [] else splitString ',' excluded

/-- The entries that the caller gives. -/
def given (t : FileTree) (excluded : String) : List Value := (components excluded).map (exclusion t)

theorem given_eq (t : FileTree) (excluded : String) :
    (if excluded.isEmpty then [] else (splitString ',' excluded).map (exclusion t)) = given t excluded := by
  unfold given components
  split
  · rfl
  · rfl

theorem components_empty : components "" = [] := rfl

theorem components_ne_nil {excluded : String} (some_ : excluded ≠ "") : components excluded ≠ [] := by
  have full : excluded.isEmpty = false := by simpa using some_
  have pieces (cs : List Char) : Segments.splitOn ',' cs ≠ [] := by
    cases cs with
    | nil => simp [Segments.splitOn]
    | cons c rest =>
      unfold Segments.splitOn
      split
      · simp
      · split <;> simp
  simp [components, full, splitString, pieces]

def Configured (s : Settings) (entry : Value) : Prop :=
  ∃ setting entries, s.option "exclude_dirs" = .ok setting ∧ setting.truthy = true ∧
    setting.items = .ok entries ∧ entry ∈ entries

theorem not_configured {s : Settings} {v : Value} (set : s.option "exclude_dirs" = .ok v) (falsy : v.truthy = false)
    (entry : Value) : ¬ Configured s entry := by
  intro configured
  obtain ⟨_, -, again, truthy, -, -⟩ := configured
  rw [set] at again
  rw [← Except.ok.inj again, falsy] at truthy
  cases truthy

theorem inForce_iff_configured_or {t : FileTree} {s : Settings} {excluded : String} (e : Value) :
    InForce t s excluded e ↔ Configured s e ∨ ∃ part ∈ components excluded, e = exclusion t part := by
  constructor
  · intro inForce
    cases inForce with
    | configured set truthy mem present => exact .inl ⟨_, _, set, truthy, mem, present⟩
    | @given part some_ present =>
      refine .inr ⟨part, ?_, rfl⟩
      rwa [components, if_neg (by simpa using some_)]
  · intro either
    rcases either with ⟨_, _, set, truthy, mem, present⟩ | ⟨part, present, rfl⟩
    · exact .configured set truthy mem present
    · unfold components at present
      split at present
      · cases present
      · rename_i some_
        exact .given (by simpa using some_) present

theorem matches_empty (path : String) : Matches path (.str "") := .inr ⟨[], rfl, List.nil_infix⟩

end Targets

def Value.ListsTexts (v : Value) : Prop :=
  v.truthy = false ∨ ∃ items, v = .list items ∧ ∀ e ∈ items, ∃ text, e = .text text

/-- The entries to exclude and the patterns to include are texts, as far as they are set. -/
structure Settings.Legible (s : Settings) : Prop where
  entries : ∃ v, s.option "exclude_dirs" = .ok v ∧ v.ListsTexts
  patterns : ∃ v, s.option "include" = .ok v ∧ v.ListsTexts

namespace Targets

theorem splitString_exclude : splitString '.' "exclude_dirs" = ["exclude_dirs"] := by decide +kernel

theorem splitString_include : splitString '.' "include" = ["include"] := by decide +kernel

theorem exists_text_of_mem_given {t : FileTree} {excluded : String} {e : Value} (mem : e ∈ given t excluded) :
    ∃ text, e = .text text := by
  obtain ⟨_, -, rfl⟩ := List.mem_map.mp mem
  exact ⟨_, rfl⟩

theorem brings_exclusions {s : Settings} (legible : s.Legible) (t : FileTree) (excluded : String) :
    Brings (exclusions t s excluded) fun made => ∀ e ∈ made.1, ∃ text, e = .text text := by
  obtain ⟨v, set, lists⟩ := legible.entries
  rw [exclusions, set, given_eq]
  change Brings (if !v.truthy then _ else _) _
  rcases lists with falsy | ⟨items, rfl, own⟩
  · rw [falsy]
    exact .pure fun e => exists_text_of_mem_given
  · split
    · exact .pure fun e => exists_text_of_mem_given
    · rename_i truthy
      have truthy : (Value.list items).truthy = true := by simpa using truthy
      split
      · exact .pure own
      · obtain ⟨_, content, -⟩ := Settings.exists_dict_of_option splitString_exclude set truthy
        rw [content]
        refine .pure fun e mem => ?_
        rcases List.mem_append.mp mem with there | new
        · exact own e there
        · exact exists_text_of_mem_given new

theorem brings_patterns {s : Settings} (legible : s.Legible) :
    Brings (do patterns (← s.option "include") standardPatterns) fun made => ∀ p ∈ made, ∃ text, p = .text text := by
  obtain ⟨v, set, lists⟩ := legible.patterns
  rw [set]
  change Brings (patterns v standardPatterns) _
  unfold patterns
  split
  · rename_i truthy
    rcases lists with falsy | ⟨items, rfl, texts⟩
    · simp [falsy] at truthy
    · exact ⟨items, rfl, texts⟩
  · exact ⟨_, rfl, by simp [standardPatterns, Value.str]⟩

end Targets

namespace Session

open Targets

variable {t : FileTree} {s found : Session} {targets : List String} {recursive : Bool} {excluded : String} {log : Log}

theorem answered_discover_legible (legible : s.settings.Legible) (t : FileTree) (targets : List String)
    (recursive : Bool) (excluded : String) : Answered (s.discover t targets recursive excluded) := by
  obtain ⟨⟨exclude, settings⟩, mem, entries⟩ := brings_exclusions legible t excluded
  obtain ⟨include_, read, texts⟩ := brings_patterns legible
  obtain ⟨v, set, read⟩ := bind_eq_ok.mp read
  obtain ⟨⟨files, log⟩, searched, -⟩ : Answered (Targets.discover t include_ exclude recursive targets) :=
    answered_discover texts entries targets
  refine ⟨({ s with settings, targets := files }, log), ?_, trivial⟩
  simp only [discover, bind_eq_ok, pure_eq_ok]
  exact ⟨_, mem, _, set, _, read, _, searched, rfl⟩

/-- An entry that names something matches a path: one in the settings, or a part that is not empty. -/
def Names (t : FileTree) (s : Session) (excluded path : String) : Prop :=
  ∃ e, (Configured s.settings e ∨ ∃ part ∈ components excluded, part ≠ "" ∧ e = exclusion t part) ∧ Matches path e

theorem bars_iff_names (path : String) : s.Bars t excluded path ↔ s.Names t excluded path ∨ "" ∈ components excluded := by
  constructor
  · intro bars
    obtain ⟨e, inForce, hit⟩ := bars
    rcases (inForce_iff_configured_or e).mp inForce with configured | ⟨part, present, rfl⟩
    · exact .inl ⟨e, .inl configured, hit⟩
    · by_cases empty : part = ""
      · exact .inr (empty ▸ present)
      · exact .inl ⟨_, .inr ⟨part, present, empty, rfl⟩, hit⟩
  · intro either
    rcases either with ⟨e, configured | ⟨part, present, -, rfl⟩, hit⟩ | empty
    · exact ⟨e, (inForce_iff_configured_or e).mpr (.inl configured), hit⟩
    · exact ⟨_, (inForce_iff_configured_or _).mpr (.inr ⟨part, present, rfl⟩), hit⟩
    · refine ⟨.str "", (inForce_iff_configured_or _).mpr (.inr ⟨"", empty, ?_⟩), matches_empty path⟩
      rfl

theorem files_of_empty_component (done : s.discover t targets recursive excluded = .ok (found, log))
    (empty : "" ∈ components excluded) : found.targets.files = [] := by
  have bars (path : String) : s.Bars t excluded path := (bars_iff_names path).mpr (.inr empty)
  apply List.eq_nil_iff_forall_not_mem.mpr
  intro f mem
  rcases (mem_targets_discover done f).1.mp mem with ⟨g, -, -, free, -⟩ | ⟨-, -, free⟩
  · exact free (bars g)
  · exact free (bars f)

/-- Every search with usable settings ends. An empty part keeps everything from being scanned. A target file is left out
exactly if an entry names it, unless a part is empty or a folder brings it too without fitting a pattern. -/
theorem excluded_iff_names (t : FileTree) (s : Session) (targets : List String) (recursive : Bool)
    (excluded : String) :
    (s.settings.Legible → Answered (s.discover t targets recursive excluded)) ∧
      ∀ found log, s.discover t targets recursive excluded = .ok (found, log) →
        ("" ∈ components excluded → found.targets.files = []) ∧
        ∀ g ∈ targets, t.isFolder g = false →
          ((g ∈ found.targets.excluded ↔ s.Names t excluded g) ↔
            s.Names t excluded g ∨
              "" ∉ components excluded ∧ (Found t recursive targets g → s.Includes g)) := by
  refine ⟨fun legible => answered_discover_legible legible t targets recursive excluded, ?_⟩
  intro found log done
  refine ⟨files_of_empty_component done, fun g asked file => ?_⟩
  have leftOut : g ∈ found.targets.excluded ↔
      s.Names t excluded g ∨ "" ∈ components excluded ∨ Found t recursive targets g ∧ ¬ s.Includes g := by
    rw [(mem_targets_discover done g).2, bars_iff_names]
    by_cases barred : s.Names t excluded g ∨ "" ∈ components excluded
    · simp [asked, file, barred, ← or_assoc]
    · simp [barred, ← or_assoc]
  rw [leftOut]
  by_cases named : s.Names t excluded g
  · simp [named]
  · simp [named, not_or]

section

variable {v : Value} (set : s.settings.option "exclude_dirs" = .ok v) (falsy : v.truthy = false) (path : String)

include set falsy path

theorem names_of_unset :
    s.Names t excluded path ↔ ∃ part ∈ components excluded, part ≠ "" ∧ Matches path (exclusion t part) := by
  constructor
  · intro names
    obtain ⟨e, configured | ⟨part, present, some_, rfl⟩, hit⟩ := names
    · exact absurd configured (not_configured set falsy e)
    · exact ⟨part, present, some_, hit⟩
  · intro named
    obtain ⟨part, present, some_, hit⟩ := named
    exact ⟨_, .inr ⟨part, present, some_, rfl⟩, hit⟩

theorem bars_of_unset : s.Bars t excluded path ↔ ∃ part ∈ components excluded, Matches path (exclusion t part) := by
  simp only [Bars, inForce_iff_configured_or, not_configured set falsy, false_or]
  constructor
  · intro bars
    obtain ⟨-, ⟨part, present, rfl⟩, hit⟩ := bars
    exact ⟨part, present, hit⟩
  · intro named
    obtain ⟨part, present, hit⟩ := named
    exact ⟨_, ⟨part, present, rfl⟩, hit⟩

end

theorem settings_of_create {settings : Settings} {profile : Value} (created : create settings profile = .ok s) :
    s.settings = settings := by
  simp only [create, bind_eq_ok, pure_eq_ok] at created
  obtain ⟨-, -, _, -, rfl⟩ := created
  rfl

theorem exclude_standard : Settings.standard.option "exclude_dirs" = .ok .null := by cbv

theorem include_standard : Settings.standard.option "include" = .ok (.list [.str "*.py", .str "*.pyw"]) := by cbv

theorem legible_standard : Settings.standard.Legible :=
  ⟨⟨_, exclude_standard, .inl rfl⟩, ⟨_, include_standard, .inr ⟨_, rfl, by simp [Value.str]⟩⟩⟩

theorem excluded_iff_names_nestedTree : ∃ s found log, create .standard (.dict []) = .ok s ∧
    s.discover nestedTree ["a.py", "d/b.py"] false "d,c.py" = .ok (found, log) ∧
    ("a.py" ∈ found.targets.excluded ↔ s.Names nestedTree "d,c.py" "a.py") ∧
    ("d/b.py" ∈ found.targets.excluded ↔ s.Names nestedTree "d,c.py" "d/b.py") ∧
    ¬ s.Names nestedTree "d,c.py" "a.py" ∧ s.Names nestedTree "d,c.py" "d/b.py" := by
  obtain ⟨s, created, same⟩ := exists_created_standard
  obtain ⟨ends, verdict⟩ := excluded_iff_names nestedTree s ["a.py", "d/b.py"] false "d,c.py"
  obtain ⟨⟨found, log⟩, done, -⟩ := ends (same ▸ legible_standard)
  obtain ⟨-, each⟩ := verdict found log done
  have parts : "" ∉ components "d,c.py" := by decide +kernel
  have flat (g : String) : Found nestedTree false ["a.py", "d/b.py"] g → s.Includes g := by
    intro inside
    cases inside.1
  have first := (each "a.py" (by simp) (by decide +kernel)).mpr (.inr ⟨parts, flat _⟩)
  have second := (each "d/b.py" (by simp) (by decide +kernel)).mpr (.inr ⟨parts, flat _⟩)
  have unset : s.settings.option "exclude_dirs" = .ok .null := same ▸ exclude_standard
  refine ⟨s, found, log, created, done, first, second, ?_, ?_⟩
  · rw [names_of_unset unset rfl]
    decide +kernel
  · rw [names_of_unset unset rfl]
    decide +kernel

/-- A comma at the end leaves a file out that nothing names. -/
theorem excluded_without_name : ∃ s found log, create .standard (.dict []) = .ok s ∧
    s.discover nestedTree ["a.py"] false "c.py," = .ok (found, log) ∧
    "a.py" ∈ found.targets.excluded ∧ ¬ s.Names nestedTree "c.py," "a.py" := by
  obtain ⟨s, created, same⟩ := exists_created_standard
  obtain ⟨⟨found, log⟩, done, -⟩ :=
    answered_discover_legible (same ▸ legible_standard) nestedTree ["a.py"] false "c.py,"
  have empty : "" ∈ components "c.py," := by decide +kernel
  have barred : s.Bars nestedTree "c.py," "a.py" := (bars_iff_names _).mpr (.inr empty)
  refine ⟨s, found, log, created, done, ?_, ?_⟩
  · exact (mem_targets_discover done _).2.mpr (.inl ⟨List.mem_singleton_self _, by decide +kernel, barred⟩)
  · have unset : s.settings.option "exclude_dirs" = .ok .null := same ▸ exclude_standard
    rw [names_of_unset unset rfl]
    decide +kernel

end Session

end SourceAudit
