import SourceAudit.Proofs.Run

/-! Where the files of a run end up: each stays listed, aligned with its score, or is skipped. -/

namespace SourceAudit.Session

open List

variable {t : FileTree} {input : Input} {o : ScanOptions}

/-- The name under which a run lists or skips a file: standard input gets a name of its own once it is open. -/
def listed (input : Input) (name : String) : String :=
  match input with
  | .ok _ => shown name
  | .error _ => name

theorem shown_listed (name : String) : shown (listed input name) = shown name := by
  cases input with
  | error why => rfl
  | ok bytes =>
    by_cases hyphen : name = "-"
    · subst hyphen
      rfl
    · simp only [listed, shown_of_ne hyphen]

theorem listed_of_document {name : String} {d : Document} (opened : document t input name = .ok d) :
    listed input name = d.name := by
  rw [name_of_document opened]
  cases input with
  | ok bytes => rfl
  | error why =>
    have other : name ≠ "-" := by
      rintro rfl
      simp [document, Except.map] at opened
    rw [listed, shown_of_ne other]

theorem listed_of_unread {name : String} {why : OpenError} (unread : document t input name = .error why) :
    listed input name = name := by
  cases input with
  | error why => rfl
  | ok bytes =>
    have other : name ≠ "-" := by
      rintro rfl
      simp [document, Except.map] at unread
    rw [listed, shown_of_ne other]

theorem nodup_listed (input : Input) {names : List String} (distinct : (names.map shown).Nodup) :
    (names.map (listed input)).Nodup := by
  apply List.Nodup.of_map shown
  rw [map_map]
  simpa only [Function.comp_def, shown_listed] using distinct

def stays (t : FileTree) (input : Input) (o : ScanOptions) (name : String) : Bool := (fate t input o name).score?.isSome

theorem file?_fate (name : String) :
    (fate t input o name).file? = if stays t input o name then some (listed input name) else none := by
  cases opened : document t input name with
  | error why => simp [stays, fate, opened, Fate.file?, Fate.score?]
  | ok d =>
    rcases scanned : d.scan o with ⟨_, _ | why⟩ <;>
      simp [stays, fate, opened, listed_of_document opened, scanned, Fate.file?, Fate.score?]

theorem skipped?_fate (name : String) : ((fate t input o name).skipped? name).map Prod.fst =
      if stays t input o name then none else some (.text (listed input name)) := by
  cases opened : document t input name with
  | error why => simp [stays, fate, opened, listed_of_unread opened, Fate.skipped?, Fate.score?]
  | ok d =>
    rcases scanned : d.scan o with ⟨_, _ | why⟩ <;>
      simp [stays, fate, opened, listed_of_document opened, scanned, Fate.skipped?, Fate.score?]

theorem files_eq (names : List String) : (names.filterMap fun n => (fate t input o n).file?) =
      (names.filter (stays t input o)).map (listed input) := by
  rw [← filterMap_eq_map, filterMap_filter]
  simp only [file?_fate]
  congr 1

theorem skippedNames_eq (names : List String) : (names.filterMap fun n => (fate t input o n).skipped? n).map Prod.fst =
      (names.filter fun n => !stays t input o n).map fun n => .text (listed input n) := by
  rw [map_filterMap, ← filterMap_eq_map, filterMap_filter]
  simp only [skipped?_fate]
  congr 1
  funext n
  cases stays t input o n <;> rfl

section

variable {name : String} {names : List String} (distinct : (names.map (listed input)).Nodup) (present : name ∈ names)

include distinct present

theorem text_listed_mem_skipped_iff :
    FileName.text (listed input name) ∈ (names.filterMap fun n => (fate t input o n).skipped? n).map Prod.fst ↔
      stays t input o name = false := by
  rw [skippedNames_eq, mem_map]
  constructor
  · rintro ⟨other, dropped, same⟩
    rw [mem_filter] at dropped
    obtain rfl := inj_on_of_nodup_map distinct dropped.1 present (FileName.text.inj same)
    simpa using dropped.2
  · intro dropped
    exact ⟨name, mem_filter.mpr ⟨present, by simp [dropped]⟩, rfl⟩

theorem listed_mem_files_iff : listed input name ∈ (names.filterMap fun n => (fate t input o n).file?) ↔
      stays t input o name = true := by
  rw [files_eq, mem_map]
  constructor
  · rintro ⟨other, kept, same⟩
    rw [mem_filter] at kept
    obtain rfl := inj_on_of_nodup_map distinct kept.1 present same
    exact kept.2
  · intro kept
    exact ⟨name, mem_filter.mpr ⟨present, kept⟩, rfl⟩

end

def HasScore (t : FileTree) (input : Input) (o : ScanOptions) (names : List String)
    (file : String) (score : Score) : Prop :=
  ∃ name ∈ names, ∃ d out, document t input name = .ok d ∧ d.name = file ∧ d.scan o = (out, none) ∧ out.score = score

theorem files_aligned (names : List String) :
    List.Forall₂ (HasScore t input o names) (names.filterMap fun n => (fate t input o n).file?)
      (names.filterMap fun n => (fate t input o n).score?) := by
  suffices aligned : ∀ part ⊆ names, List.Forall₂ (HasScore t input o names)
      (part.filterMap fun n => (fate t input o n).file?)
      (part.filterMap fun n => (fate t input o n).score?) from aligned names (List.Subset.refl names)
  intro part inside
  induction part with
  | nil => exact .nil
  | cons name rest ih =>
    obtain ⟨here, inside⟩ := cons_subset.mp inside
    cases fated : fate t input o name with
    | unread why => simpa [fated, Fate.file?, Fate.score?] using ih inside
    | dropped d out why => simpa [fated, Fate.file?, Fate.score?] using ih inside
    | scanned d out =>
      obtain ⟨opened, scanned⟩ := fate_eq_scanned fated
      simpa [fated, Fate.file?, Fate.score?] using
        ⟨⟨name, here, d, out, opened, rfl, scanned, rfl⟩, ih inside⟩

/-- Each of the files that were found is accounted for after a run. -/
structure Accounted (t : FileTree) (input : Input) (before after : Session) : Prop where
  /-- The files keep their order, and those that are skipped leave the list. -/
  files : after.targets.files = (before.targets.files.map (listed input)).filter fun f =>
    FileName.text f ∉ after.skipped.map Prod.fst
  /-- Only files are skipped, in their order and none twice. -/
  skipped : (after.skipped.map Prod.fst).Sublist
    (before.targets.files.map fun f => .text (listed input f))
  once : ∀ f ∈ before.targets.files, Xor (listed input f ∈ after.targets.files)
    (FileName.text (listed input f) ∈ after.skipped.map Prod.fst)
  scores : List.Forall₂ (HasScore t input before.options before.targets.files) after.targets.files after.scores
  results : ∀ i ∈ after.results, i.filename ∈ after.targets.files

/-- Every file found ends up in exactly one place, whatever it holds at the run and whether or not it can be opened. -/
theorem runWith_accounted {before found : Session} {targets : List String} {recursive : Bool}
    {excluded : String} {log : Log} (fresh : before.Fresh)
    (discovered : before.discover t targets recursive excluded = .ok (found, log))
    (now : FileTree) (input : Except OpenError Bytes) :
    Accounted now input found (found.runWith now input).1 := by
  obtain ⟨unused, separate⟩ := separate_of_discover fresh discovered
  have distinct := nodup_listed input separate.distinct
  have ran := ran_runWith now input unused separate
  constructor
  case files =>
      simp only [ran.files, ran.skipped]
      rw [files_eq, filter_map]
      congr 1
      apply filter_congr
      intro name present
      have gone := text_listed_mem_skipped_iff (t := now) (o := found.options) distinct present
      cases kept : stays now input found.options name <;> simp [gone, kept]
  case skipped =>
      simp only [ran.skipped, skippedNames_eq]
      exact filter_sublist.map _
  case once =>
      intro name present
      simp only [ran.files, ran.skipped, listed_mem_files_iff distinct present,
        text_listed_mem_skipped_iff distinct present]
      cases stays now input found.options name <;> simp [Xor]
  case scores =>
      rw [ran.files, ran.scores]
      exact files_aligned found.targets.files
  case results =>
      intro i present
      rw [ran.results] at present
      rw [ran.files]
      obtain ⟨name, there, n, found⟩ := exists_of_mem_collect present
      exact mem_filterMap.mpr ⟨name, there, file?_of_mem_issues found⟩

theorem runWith_mixedTree_accounted : ∃ fresh found : Session, fresh.Fresh ∧
    fresh.discover mixedTree ["-", "a.py", "b.py"] false "" = .ok (found, []) ∧
    found.targets.files = ["-", "./a.py", "./b.py"] ∧
    Accounted mixedTree (.error (.refused "Input/output error")) found
      (found.runWith mixedTree (.error (.refused "Input/output error"))).1 := by
  obtain ⟨fresh, created, discovered⟩ := exists_found_mixed
  have unused := fresh_of_create created
  exact ⟨fresh, _, unused, discovered, rfl, runWith_accounted unused discovered mixedTree _⟩

end SourceAudit.Session
