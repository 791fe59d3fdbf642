import SourceAudit.Proofs.Run

/-! Files that are left out of a scan. A target is judged as it is given, and scanned from the current folder. -/

namespace SourceAudit

open Answers List

theorem Segments.occurs_iff_infix {α : Type} [BEq α] [LawfulBEq α] (needle items : List α) :
    occurs needle items = true ↔ needle <:+: items := by
  induction items with
  | nil => simp [occurs]
  | cons x rest ih => rw [occurs, Bool.or_eq_true, ih, infix_cons_iff, isPrefixOf_iff_prefix]

namespace Targets

def Fits (path : String) (pattern : Value) : Prop := ∃ p, pattern = .text p ∧ Glob.fits p.toStringLossy path = true

def Matches (path : String) (entry : Value) : Prop :=
  Fits path entry ∨ ∃ part, entry = .text part ∧ part <:+: (path : Text)

theorem matches_text (path : String) (part : Text) :
    Matches path (.text part) ↔ (Glob.fits part.toStringLossy path || Segments.occurs part (path : Text)) = true := by
  simp [Matches, Fits, Segments.occurs_iff_infix]

instance (path : String) (entry : Value) : Decidable (Matches path entry) :=
  match entry with
  | .text part => decidable_of_iff _ (matches_text path part).symm
  | .null | .bool _ | .int _ | .float _ | .imaginary _ | .bytes _ | .list _ | .tuple _ | .set _ | .dict _ | .stamp _
  | .fragment _ => isFalse (by simp [Matches, Fits])

variable {some_ : Bool} {path : String}

theorem fitsOne_eq_ok {patterns : List Value}
    (done : fitsOne path patterns = .ok some_) : some_ = true ↔ ∃ p ∈ patterns, Fits path p := by
  rw [anyAnswer_eq_ok done]
  refine exists_congr fun p => and_congr_right fun _ => ?_
  cases p <;> simp [Fits]

theorem holdsOne_eq_ok {texts : List Value} (done : holdsOne path texts = .ok some_) :
    some_ = true ↔ ∃ e ∈ texts, ∃ part, e = .text part ∧ part <:+: (path : Text) := by
  rw [anyAnswer_eq_ok done]
  refine exists_congr fun e => and_congr_right fun _ => ?_
  cases e <;> simp [Segments.occurs_iff_infix]

def Barred (entries : List Value) (path : String) : Prop := ∃ e ∈ entries, Matches path e

def Wanted (include_ exclude : List Value) (path : String) : Prop :=
  (∃ p ∈ include_, Fits path p) ∧ ¬ Barred exclude path

theorem isIncluded_eq_ok {path : String} {include_ exclude : List Value} {mustFit included : Bool}
    (done : isIncluded path include_ exclude mustFit = .ok included) :
    included = true ↔ (mustFit = true → ∃ p ∈ include_, Fits path p) ∧ ¬ Barred exclude path := by
  have matched : Barred exclude path ↔ (∃ e ∈ exclude, Fits path e) ∨
      ∃ e ∈ exclude, ∃ part, e = .text part ∧ part <:+: (path : Text) := by
    simp only [Barred, Matches, and_or_left, exists_or]
  rw [isIncluded, bind_eq_ok] at done
  obtain ⟨fits, fitting, done⟩ := done
  rw [← fitsOne_eq_ok fitting]
  split at done
  · rename_i unfit
    obtain rfl := pure_eq_ok.mp done
    simp_all
  · rename_i fit
    obtain ⟨_, barring, done⟩ := bind_eq_ok.mp done
    rw [matched, ← fitsOne_eq_ok barring]
    split at done
    · rename_i yes
      simp [← pure_eq_ok.mp done, yes]
    · rename_i no
      obtain ⟨_, holding, done⟩ := bind_eq_ok.mp done
      rw [← holdsOne_eq_ok holding, ← pure_eq_ok.mp done]
      cases fits <;> cases mustFit <;> simp_all

def walked (t : FileTree) (folder : String) : List String :=
  (t.walk folder).flatMap fun (root, names) => names.map (Path.join root)

section Discovery

variable {t : FileTree} {include_ exclude : List Value} {recursive : Bool}

theorem mem_below {folder : String} {found : Targets} (given : include_ ≠ [])
    (done : below t folder include_ exclude = .ok found) (f : String) :
    (f ∈ found.files ↔ f ∈ walked t folder ∧ Wanted include_ exclude f) ∧
      (f ∈ found.excluded ↔ f ∈ walked t folder ∧ ¬ Wanted include_ exclude f) := by
  have plain : include_.isEmpty = false := by simpa using given
  simp only [below, plain, bind_eq_ok, pure_eq_ok] at done
  obtain ⟨judged, looked, rfl⟩ := done
  have verdict (b : Bool) : (f, b) ∈ judged ↔ f ∈ walked t folder ∧ (b = true ↔ Wanted include_ exclude f) := by
    have judging {path : String} {j : String × Bool}
        (step : (do return (path, ← isIncluded path include_ exclude true)) = Except.ok j) :
        j.1 = path ∧ (j.2 = true ↔ Wanted include_ exclude path) := by
      simp only [bind_eq_ok, pure_eq_ok] at step
      obtain ⟨_, step, rfl⟩ := step
      exact ⟨rfl, by simpa [Wanted] using isIncluded_eq_ok step⟩
    rw [mem_mapM_iff looked]
    constructor
    · rintro ⟨path, there, step⟩
      obtain ⟨rfl, wanted⟩ := judging step
      exact ⟨there, wanted⟩
    · rintro ⟨there, wanted⟩
      obtain ⟨j, step⟩ := exists_mapM_iff.mp ⟨judged, looked⟩ f there
      obtain ⟨same, wantedToo⟩ := judging step
      refine ⟨f, there, step.trans (congrArg _ (Prod.ext same ?_))⟩
      exact Bool.eq_iff_iff.mpr (wantedToo.trans wanted.symm)
  simp [verdict]

theorem mem_ofTarget {target : String} {part : Targets × Log} (given : include_ ≠ [])
    (done : ofTarget t include_ exclude recursive target = .ok part) (f : String) :
    (f ∈ part.1.files ↔ t.isFolder target = false ∧ ¬ Barred exclude target ∧ f = scannedName target ∨
        t.isFolder target = true ∧ recursive = true ∧ f ∈ walked t target ∧ Wanted include_ exclude f) ∧
      (f ∈ part.1.excluded ↔ t.isFolder target = false ∧ Barred exclude target ∧ f = target ∨
        t.isFolder target = true ∧ recursive = true ∧ f ∈ walked t target ∧ ¬ Wanted include_ exclude f) := by
  rw [ofTarget] at done
  split at done
  · rename_i folder
    split at done
    · rename_i deep
      simp only [bind_eq_ok, pure_eq_ok] at done
      obtain ⟨_, searched, rfl⟩ := done
      simpa [folder, deep] using mem_below given searched f
    · rename_i flat
      simp [← pure_eq_ok.mp done, flat, folder]
  · rename_i file
    obtain ⟨included, judged, done⟩ := bind_eq_ok.mp done
    have unbarred : included = true ↔ ¬ Barred exclude target := by simpa using isIncluded_eq_ok judged
    split at done
    · rename_i yes
      simp [← pure_eq_ok.mp done, file, unbarred.mp yes]
    · rename_i no
      simp [← pure_eq_ok.mp done, file, not_not.mp (no ∘ unbarred.mpr)]

theorem mem_distinct (f : String) (paths : List String) : f ∈ distinct paths ↔ f ∈ paths := by
  rw [distinct, mem_eraseDups, FileTree.sorted, mem_mergeSort]

/-- A file in one of the target folders, which are searched if that is asked for. -/
def Found (t : FileTree) (recursive : Bool) (targets : List String) (f : String) : Prop :=
  recursive = true ∧ ∃ folder ∈ targets, t.isFolder folder = true ∧ f ∈ walked t folder

/-- Scanned are the targets that are not barred, and what is wanted in folders; left out are the barred targets, and all
else in folders. -/
theorem mem_discover {targets : List String} {found : Targets} {log : Log} (given : include_ ≠ [])
    (done : discover t include_ exclude recursive targets = .ok (found, log)) (f : String) : (f ∈ found.files ↔
        (∃ g ∈ targets, t.isFolder g = false ∧ ¬ Barred exclude g ∧ f = scannedName g) ∨
          Found t recursive targets f ∧ Wanted include_ exclude f) ∧
      (f ∈ found.excluded ↔ f ∈ targets ∧ t.isFolder f = false ∧ Barred exclude f ∨
          Found t recursive targets f ∧ ¬ Wanted include_ exclude f) := by
  simp only [discover, bind_eq_ok, pure_eq_ok, Prod.mk.injEq] at done
  obtain ⟨parts, searched, rfl, -⟩ := done
  have brought (list : Targets → List String) : f ∈ distinct (parts.flatMap fun p => list p.1) ↔
      ∃ g ∈ targets, ∃ part, ofTarget t include_ exclude recursive g = .ok part ∧ f ∈ list part.1 := by
    rw [mem_distinct, mem_flatMap]
    constructor
    · rintro ⟨part, made, here⟩
      obtain ⟨g, asked, search⟩ := (mem_mapM_iff searched).mp made
      exact ⟨g, asked, part, search, here⟩
    · rintro ⟨g, asked, part, search, here⟩
      exact ⟨part, (mem_mapM_iff searched).mpr ⟨g, asked, search⟩, here⟩
  have every : ∀ g ∈ targets, ∃ part, ofTarget t include_ exclude recursive g = .ok part :=
    exists_mapM_iff.mp ⟨parts, searched⟩
  constructor
  · rw [brought Targets.files]
    constructor
    · rintro ⟨g, asked, part, search, here⟩
      rcases ((mem_ofTarget given search f).1.mp here) with ⟨file, free, rfl⟩ | ⟨folder, deep, inside, wanted⟩
      · exact .inl ⟨g, asked, file, free, rfl⟩
      · exact .inr ⟨⟨deep, g, asked, folder, inside⟩, wanted⟩
    · rintro (⟨g, asked, file, free, rfl⟩ | ⟨⟨deep, g, asked, folder, inside⟩, wanted⟩)
      all_goals
        obtain ⟨part, search⟩ := every g asked
        refine ⟨g, asked, part, search, (mem_ofTarget given search _).1.mpr ?_⟩
      · exact .inl ⟨file, free, rfl⟩
      · exact .inr ⟨folder, deep, inside, wanted⟩
  · rw [brought Targets.excluded]
    constructor
    · rintro ⟨g, asked, part, search, here⟩
      rcases ((mem_ofTarget given search f).2.mp here) with ⟨file, barred, rfl⟩ | ⟨folder, deep, inside, unwanted⟩
      · exact .inl ⟨asked, file, barred⟩
      · exact .inr ⟨⟨deep, g, asked, folder, inside⟩, unwanted⟩
    · rintro (⟨asked, file, barred⟩ | ⟨⟨deep, g, asked, folder, inside⟩, unwanted⟩)
      · obtain ⟨part, search⟩ := every f asked
        exact ⟨f, asked, part, search, (mem_ofTarget given search f).2.mpr (.inl ⟨file, barred, rfl⟩)⟩
      · obtain ⟨part, search⟩ := every g asked
        exact ⟨g, asked, part, search, (mem_ofTarget given search f).2.mpr (.inr ⟨folder, deep, inside, unwanted⟩)⟩

theorem answered_discover (patterns : ∀ p ∈ include_, ∃ text, p = .text text)
    (entries : ∀ e ∈ exclude, ∃ text, e = .text text) (targets : List String) :
    Answered (discover t include_ exclude recursive targets) := by
  have fitted {values : List Value} (texts : ∀ v ∈ values, ∃ text, v = .text text) (path : String) :
      Answered (fitsOne path values) := by
    refine answered_anyAnswer fun v mem => ?_
    obtain ⟨text, rfl⟩ := texts v mem
    exact answered_ok _
  have held (path : String) : Answered (holdsOne path exclude) := by
    refine answered_anyAnswer fun v mem => ?_
    obtain ⟨text, rfl⟩ := entries v mem
    exact answered_ok _
  have usual : ∀ p ∈ (if include_.isEmpty then standardPatterns else include_), ∃ text, p = .text text := by
    split
    · simp [standardPatterns, Value.str]
    · exact patterns
  have judged {include_ : List Value} (texts : ∀ p ∈ include_, ∃ text, p = .text text) (path : String)
      (mustFit : Bool) : Answered (isIncluded path include_ exclude mustFit) := by
    refine (fitted texts path).bind fun fits _ => ?_
    split
    · exact answered_pure _
    · refine (fitted entries path).bind fun barred _ => ?_
      split
      · exact answered_pure _
      · exact (held path).bind fun _ _ => answered_pure _
  have all {α β : Type} {f : α → Answer β} {items : List α} (each : ∀ a ∈ items, Answered (f a)) :
      Answered (items.mapM f) := by
    obtain ⟨brought, done⟩ := exists_mapM_iff.mpr fun a mem => (each a mem).imp fun _ => And.left
    exact ⟨brought, done, trivial⟩
  refine Brings.bind (all fun target _ => ?_) fun _ _ => answered_pure _
  rw [ofTarget]
  split
  · split
    · exact .bind (.bind (all fun path _ => (judged usual path true).bind fun _ _ => answered_pure _)
        fun _ _ => answered_pure _) fun _ _ => answered_pure _
    · exact answered_pure _
  · refine (judged patterns target false).bind fun included _ => ?_
    split <;> exact answered_pure _

end Discovery

/-- The entries in the settings, and those that the caller gives, where a folder stands for all in it. -/
inductive InForce (t : FileTree) (s : Settings) (excluded : String) : Value → Prop
  | configured {setting entry : Value} {entries : List Value} (set : s.option "exclude_dirs" = .ok setting)
      (truthy : setting.truthy = true) (listed : setting.items = .ok entries) (present : entry ∈ entries) :
      InForce t s excluded entry
  | given {part : String} (some_ : excluded ≠ "") (present : part ∈ splitString ',' excluded) :
      InForce t s excluded (exclusion t part)

variable {t : FileTree} {excluded : String}

theorem inForce_iff {s : Settings} {setting : Value} (set : s.option "exclude_dirs" = .ok setting) (e : Value) :
    InForce t s excluded e ↔ (setting.truthy = true ∧ ∃ entries, setting.items = .ok entries ∧ e ∈ entries) ∨
        e ∈ if excluded.isEmpty then [] else (splitString ',' excluded).map (exclusion t) := by
  constructor
  · rintro (⟨again, truthy, mem, present⟩ | ⟨some_, present⟩)
    · rw [set] at again
      obtain rfl := Except.ok.inj again
      exact .inl ⟨truthy, _, mem, present⟩
    · right
      rw [if_neg (by simpa using some_)]
      exact mem_map_of_mem present
  · rintro (⟨truthy, entries, mem, present⟩ | asked)
    · exact .configured set truthy mem present
    · split at asked
      · simp at asked
      · rename_i some_
        obtain ⟨_, present, rfl⟩ := mem_map.mp asked
        exact .given (by simpa using some_) present

theorem mem_exclusions {s after : Settings} {entries : List Value}
    (done : exclusions t s excluded = .ok (entries, after)) (e : Value) : e ∈ entries ↔ InForce t s excluded e := by
  rw [exclusions, bind_eq_ok] at done
  obtain ⟨setting, set, done⟩ := done
  rw [inForce_iff set]
  generalize (if excluded.isEmpty then [] else (splitString ',' excluded).map (exclusion t)) = asked at done ⊢
  dsimp only at done
  split at done
  · rename_i falsy
    obtain ⟨rfl, -⟩ := Prod.mk.inj (pure_eq_ok.mp done)
    simp_all
  · rename_i truthy
    have truthy : setting.truthy = true := by simpa using truthy
    split at done
    · rename_i none
      simp only [bind_eq_ok, pure_eq_ok, Prod.mk.injEq] at done
      obtain ⟨items, mem, rfl, -⟩ := done
      simp [truthy, mem, isEmpty_iff.mp none]
    · split at done
      · obtain ⟨rfl, -⟩ := Prod.mk.inj (pure_eq_ok.mp done)
        simp [truthy, Value.items]
      · cases done

theorem patterns_ne_nil {v : Value} {otherwise found : List Value} (usual : otherwise ≠ [])
    (done : patterns v otherwise = .ok found) : found ≠ [] := by
  rw [patterns] at done
  split at done
  · rename_i truthy
    rintro rfl
    cases v <;> simp_all [Value.items, Value.truthy]
  · rwa [← Except.ok.inj done]

end Targets

namespace Session

open Targets

variable {t : FileTree} {s found : Session} {targets : List String} {recursive : Bool} {excluded : String} {log : Log}

def Bars (t : FileTree) (s : Session) (excluded path : String) : Prop :=
  ∃ e, InForce t s.settings excluded e ∧ Matches path e

def Includes (s : Session) (path : String) : Prop :=
  ∃ setting include_, s.settings.option "include" = .ok setting ∧
    patterns setting standardPatterns = .ok include_ ∧ ∃ p ∈ include_, Fits path p

theorem barred_iff_bars {entries : List Value} {after : Settings}
    (mem : exclusions t s.settings excluded = .ok (entries, after)) (path : String) :
    Barred entries path ↔ s.Bars t excluded path := by
  simp only [Barred, Bars, mem_exclusions mem]

theorem mem_targets_discover (done : s.discover t targets recursive excluded = .ok (found, log)) (f : String) :
    (f ∈ found.targets.files ↔ (∃ g ∈ targets, t.isFolder g = false ∧ ¬ s.Bars t excluded g ∧ f = scannedName g) ∨
          Found t recursive targets f ∧ s.Includes f ∧ ¬ s.Bars t excluded f) ∧
      (f ∈ found.targets.excluded ↔ f ∈ targets ∧ t.isFolder f = false ∧ s.Bars t excluded f ∨
          Found t recursive targets f ∧ ¬ (s.Includes f ∧ ¬ s.Bars t excluded f)) := by
  simp only [discover, bind_eq_ok, pure_eq_ok, Prod.mk.injEq] at done
  obtain ⟨⟨_, _⟩, mem, _, set, include_, read, ⟨files, _⟩, searched, rfl, rfl⟩ := done
  have included (path : String) : (∃ p ∈ include_, Fits path p) ↔ s.Includes path := by simp [Includes, set, read]
  have known := mem_discover (patterns_ne_nil (by simp [standardPatterns]) read) searched f
  simpa only [Wanted, barred_iff_bars mem, included] using known

/-- No file to scan is barred or listed as left out, exactly if that holds of the targets that are files: unbarred as
given, they are unbarred as scanned, and not also found in a target folder without fitting a pattern. -/
theorem exclusions_hold_iff (done : s.discover t targets recursive excluded = .ok (found, log)) :
    ((∀ f ∈ found.targets.files, ¬ s.Bars t excluded f) ∧
        ∀ f ∈ found.targets.files, f ∉ found.targets.excluded) ↔
      ∀ g ∈ targets, t.isFolder g = false → ¬ s.Bars t excluded g →
        ¬ s.Bars t excluded (scannedName g) ∧
          (Found t recursive targets (scannedName g) → s.Includes (scannedName g)) := by
  have scanned := fun f => (mem_targets_discover done f).1
  have leftOut := fun f => (mem_targets_discover done f).2
  constructor
  · rintro ⟨free, apart⟩ g asked file unbarred
    have listed : scannedName g ∈ found.targets.files := (scanned _).mpr (.inl ⟨g, asked, file, unbarred, rfl⟩)
    refine ⟨free _ listed, fun inside => ?_⟩
    by_contra unfit
    exact apart _ listed ((leftOut _).mpr (.inr ⟨inside, fun wanted => unfit wanted.1⟩))
  · intro each
    have free : ∀ f ∈ found.targets.files, ¬ s.Bars t excluded f := by
      intro f listed
      rcases (scanned f).mp listed with ⟨g, asked, file, unbarred, rfl⟩ | ⟨-, wanted⟩
      · exact (each g asked file unbarred).1
      · exact wanted.2
    refine ⟨free, fun f listed dropped => ?_⟩
    rcases (leftOut f).mp dropped with ⟨-, -, barred⟩ | ⟨inside, unwanted⟩
    · exact free f listed barred
    · rcases (scanned f).mp listed with ⟨g, asked, file, unbarred, rfl⟩ | ⟨-, wanted⟩
      · exact unwanted ⟨(each g asked file unbarred).2 inside, free _ listed⟩
      · exact unwanted wanted

theorem exclusions_standard (t : FileTree) (excluded : String) : exclusions t .standard excluded =
      .ok (if excluded.isEmpty then [] else (splitString ',' excluded).map (exclusion t), .standard) := by
  have unset : Settings.standard.option "exclude_dirs" = .ok .null := by cbv
  rw [exclusions, unset]
  rfl

theorem answered_discover_standard (same : s.settings = .standard) (t : FileTree) (targets : List String)
    (recursive : Bool) (excluded : String) : Answered (s.discover t targets recursive excluded) := by
  have set : Settings.standard.option "include" = .ok (.list [.str "*.py", .str "*.pyw"]) := by cbv
  have entries : ∀ e ∈ (if excluded.isEmpty then [] else (splitString ',' excluded).map (exclusion t)),
      ∃ text, e = .text text := by
    intro e mem
    split at mem
    · simp at mem
    · obtain ⟨_, -, rfl⟩ := mem_map.mp mem
      exact ⟨_, rfl⟩
  obtain ⟨⟨files, log⟩, searched, -⟩ : Answered (Targets.discover t [.str "*.py", .str "*.pyw"] _ recursive targets) :=
    answered_discover (by simp [Value.str]) entries targets
  refine ⟨({ s with settings := .standard, targets := files }, log), ?_, trivial⟩
  simp only [discover, same, exclusions_standard, set, bind_eq_ok, pure_eq_ok]
  exact ⟨_, rfl, _, rfl, _, rfl, _, searched, rfl⟩

theorem bars_single (same : s.settings = .standard) {entry : String} (single : splitString ',' entry = [entry])
    (some_ : entry.isEmpty = false) (path : String) : s.Bars t entry path ↔ Matches path (exclusion t entry) := by
  have mem : exclusions t s.settings entry = .ok ([exclusion t entry], .standard) := by
    simp [same, exclusions_standard, single, some_]
  rw [← barred_iff_bars mem]
  simp [Barred]

theorem exists_created_standard : ∃ s, create .standard (.dict []) = .ok s ∧ s.settings = .standard := by
  obtain ⟨s, created, -⟩ := exists_found_mixed
  refine ⟨s, created, ?_⟩
  simp only [create, bind_eq_ok, pure_eq_ok] at created
  obtain ⟨-, -, _, -, rfl⟩ := created
  rfl

def nestedTree : FileTree := { files := [(["a.py"], []), (["d", "b.py"], [])], folders := [[], ["d"]] }

theorem exclusions_hold_nestedTree : ∃ s found log, create .standard (.dict []) = .ok s ∧
    s.discover nestedTree ["a.py", "."] true "./d" = .ok (found, log) ∧
    "./a.py" ∈ found.targets.files ∧ "./d/b.py" ∈ found.targets.excluded ∧ s.Bars nestedTree "./d" "./d/b.py" ∧
    (∀ f ∈ found.targets.files, ¬ s.Bars nestedTree "./d" f) ∧
    ∀ f ∈ found.targets.files, f ∉ found.targets.excluded := by
  obtain ⟨s, created, same⟩ := exists_created_standard
  obtain ⟨⟨found, log⟩, done, -⟩ := answered_discover_standard same nestedTree ["a.py", "."] true "./d"
  have bars (path : String) : s.Bars nestedTree "./d" path ↔ Matches path (exclusion nestedTree "./d") :=
    bars_single same (by decide +kernel) (by decide) path
  have given : ¬ s.Bars nestedTree "./d" "a.py" := by
    rw [bars]
    decide +kernel
  have scanned : ¬ s.Bars nestedTree "./d" "./a.py" := by
    rw [bars]
    decide +kernel
  have leftOut : s.Bars nestedTree "./d" "./d/b.py" := by
    rw [bars]
    decide +kernel
  have named : scannedName "a.py" = "./a.py" := by decide +kernel
  have folder : nestedTree.isFolder "." = true := by decide +kernel
  have around : walked nestedTree "." = ["./a.py", "./d/b.py"] := by cbv
  have inside : Found nestedTree true ["a.py", "."] "./d/b.py" := ⟨rfl, ".", by simp, folder, by simp [around]⟩
  have included : s.Includes "./a.py" := by
    have set : Settings.standard.option "include" = .ok (.list [.str "*.py", .str "*.pyw"]) := by cbv
    exact ⟨_, _, same ▸ set, rfl, _, mem_cons_self, _, rfl, by cbv⟩
  refine ⟨s, found, log, created, done, ?_, ?_, leftOut, ?_⟩
  · rw [(mem_targets_discover done _).1]
    exact .inl ⟨"a.py", mem_cons_self, by decide +kernel, given, named.symm⟩
  · exact (mem_targets_discover done _).2.mpr (.inr ⟨inside, fun wanted => wanted.2 leftOut⟩)
  · refine (exclusions_hold_iff done).mpr fun g asked file _ => ?_
    rcases mem_pair.mp asked with rfl | rfl
    · rw [named]
      exact ⟨scanned, fun _ => included⟩
    · simp [folder] at file

/-- A file is scanned although the very name by which it is scanned is excluded. -/
theorem excluded_file_scanned : ∃ s found log, create .standard (.dict []) = .ok s ∧
    s.discover nestedTree ["a.py"] false "./a.py" = .ok (found, log) ∧
    "./a.py" ∈ found.targets.files ∧ s.Bars nestedTree "./a.py" "./a.py" := by
  obtain ⟨s, created, same⟩ := exists_created_standard
  obtain ⟨⟨found, log⟩, done, -⟩ := answered_discover_standard same nestedTree ["a.py"] false "./a.py"
  have bars (path : String) : s.Bars nestedTree "./a.py" path ↔ Matches path (exclusion nestedTree "./a.py") :=
    bars_single same (by decide +kernel) (by decide) path
  have given : ¬ s.Bars nestedTree "./a.py" "a.py" := by
    rw [bars]
    decide +kernel
  have named : scannedName "a.py" = "./a.py" := by decide +kernel
  refine ⟨s, found, log, created, done, ?_, ?_⟩
  · rw [(mem_targets_discover done _).1]
    exact .inl ⟨"a.py", mem_singleton_self _, by decide +kernel, given, named.symm⟩
  · rw [bars]
    decide +kernel

end Session

end SourceAudit
