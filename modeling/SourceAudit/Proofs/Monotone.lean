import SourceAudit.Proofs.Components

/-! With more targets and fewer exclusions a search finds no fewer files; order and repetition do not matter. -/

namespace SourceAudit

open Answers List

namespace Targets

theorem pairwise_distinct (paths : List String) : (distinct paths).Pairwise (· < ·) := by
  have sorted : (FileTree.sorted paths).Pairwise (· ≤ ·) := by
    have steps : ∀ a b c : String, decide (a ≤ b) = true → decide (b ≤ c) = true → decide (a ≤ c) = true := by
      intro a b c first second
      exact decide_eq_true (String.le_trans (of_decide_eq_true first) (of_decide_eq_true second))
    have total : ∀ a b : String, (decide (a ≤ b) || decide (b ≤ a)) = true := by
      intro a b
      simpa using String.le_total a b
    exact (pairwise_mergeSort steps total paths).imp of_decide_eq_true
  have kept : (distinct paths).Pairwise (· ≤ ·) := sorted.sublist (Lists.eraseDups_sublist _)
  have apart : (distinct paths).Pairwise (· ≠ ·) := Lists.nodup_eraseDups _
  exact (kept.and apart).imp fun both => Std.lt_of_le_of_ne both.1 both.2

def Increasing (found : Targets) : Prop := found.files.Pairwise (· < ·) ∧ found.excluded.Pairwise (· < ·)

theorem eq_of_pairwise_of_mem_iff {a b : List String} (first : a.Pairwise (· < ·)) (second : b.Pairwise (· < ·))
    (same : ∀ f, f ∈ a ↔ f ∈ b) : a = b := by
  have distinct {c : List String} (increasing : c.Pairwise (· < ·)) : c.Nodup := by
    apply increasing.imp
    rintro f _ below rfl
    exact String.lt_irrefl f below
  have perm : a.Perm b := (perm_ext_iff_of_nodup (distinct first) (distinct second)).mpr same
  refine perm.eq_of_pairwise ?_ first second
  intro f g _ _ below above
  exact absurd below (String.lt_asymm above)

theorem Increasing.eq_of_mem_iff {found other : Targets} (first : found.Increasing) (second : other.Increasing)
    (files : ∀ f, f ∈ found.files ↔ f ∈ other.files) (excluded : ∀ f, f ∈ found.excluded ↔ f ∈ other.excluded) :
    found = other := by
  calc
    found = ⟨found.files, found.excluded⟩ := rfl
    _ = ⟨other.files, other.excluded⟩ := by
      rw [eq_of_pairwise_of_mem_iff first.1 second.1 files, eq_of_pairwise_of_mem_iff first.2 second.2 excluded]

variable {t : FileTree} {recursive : Bool}

theorem increasing_discover {include_ exclude : List Value} {targets : List String}
    {found : Targets} {log : Log} (done : discover t include_ exclude recursive targets = .ok (found, log)) :
    found.Increasing := by
  simp only [discover, bind_eq_ok, pure_eq_ok, Prod.mk.injEq] at done
  obtain ⟨_, -, rfl, -⟩ := done
  exact ⟨pairwise_distinct _, pairwise_distinct _⟩

theorem Found.mono {few many : List String} (wider : few ⊆ many) {f : String}
    (found : Found t recursive few f) : Found t recursive many f := by
  obtain ⟨deep, folder, asked, rest⟩ := found
  exact ⟨deep, folder, wider asked, rest⟩

end Targets

namespace Session

open Targets

variable {t : FileTree} {s found other : Session} {few many targets : List String} {recursive : Bool}
  {less more excluded : String} {log later : Log}

theorem increasing_targets (done : s.discover t targets recursive excluded = .ok (found, log)) :
    found.targets.Increasing := by
  simp only [discover, bind_eq_ok, pure_eq_ok, Prod.mk.injEq] at done
  obtain ⟨⟨_, _⟩, -, -, -, _, -, ⟨_, _⟩, searched, rfl, -⟩ := done
  exact increasing_discover searched

theorem Bars.mono (stricter : components less ⊆ components more) {path : String} (barred : s.Bars t less path) :
    s.Bars t more path := by
  obtain ⟨e, inForce, hit⟩ := barred
  refine ⟨e, (inForce_iff_configured_or e).mpr ?_, hit⟩
  rcases (inForce_iff_configured_or e).mp inForce with configured | ⟨part, present, entry⟩
  · exact .inl configured
  · exact .inr ⟨part, stricter present, entry⟩

section

variable (wider : few ⊆ many) (stricter : components less ⊆ components more)

include wider stricter

theorem files_subset (done : s.discover t few recursive more = .ok (found, log))
    (again : s.discover t many recursive less = .ok (other, later)) : found.targets.files ⊆ other.targets.files := by
  intro f mem
  apply (mem_targets_discover again f).1.mpr
  rcases (mem_targets_discover done f).1.mp mem with ⟨g, asked, file, free, named⟩ | ⟨inside, fits, free⟩
  · exact .inl ⟨g, wider asked, file, fun barred => free (barred.mono stricter), named⟩
  · exact .inr ⟨inside.mono wider, fits, fun barred => free (barred.mono stricter)⟩

theorem excluded_subset (done : s.discover t few recursive less = .ok (found, log))
    (again : s.discover t many recursive more = .ok (other, later)) :
    found.targets.excluded ⊆ other.targets.excluded := by
  intro f mem
  apply (mem_targets_discover again f).2.mpr
  rcases (mem_targets_discover done f).2.mp mem with ⟨asked, file, barred⟩ | ⟨inside, unwanted⟩
  · exact .inl ⟨wider asked, file, barred.mono stricter⟩
  · refine .inr ⟨inside.mono wider, fun wanted => unwanted ⟨wanted.1, ?_⟩⟩
    exact fun barred => wanted.2 (barred.mono stricter)

end

theorem targets_eq_of_same (wider : few ⊆ many) (narrower : many ⊆ few)
    (stricter : components less ⊆ components more) (laxer : components more ⊆ components less)
    (done : s.discover t few recursive less = .ok (found, log))
    (again : s.discover t many recursive more = .ok (other, later)) : found.targets = other.targets := by
  apply (increasing_targets done).eq_of_mem_iff (increasing_targets again)
  · intro f
    exact ⟨fun here => files_subset wider laxer done again here,
      fun there => files_subset narrower stricter again done there⟩
  · intro f
    exact ⟨fun here => excluded_subset wider stricter done again here,
      fun there => excluded_subset narrower laxer again done there⟩

/-- Searches with usable settings end. Let a second one have all targets of the first, and a second string all parts of
the first. What the first search finds with the second string the other finds with the first, and what it leaves out
with the first string the other leaves out with the second. All lists are strictly increasing, and equal for equals. -/
theorem discover_monotone (t : FileTree) (s : Session) (recursive : Bool) {few many : List String}
    (wider : ∀ g ∈ few, g ∈ many) {less more : String} (stricter : ∀ c ∈ components less, c ∈ components more) :
    (s.settings.Legible → ∀ targets excluded, Answered (s.discover t targets recursive excluded)) ∧
    (∀ found other log later, s.discover t few recursive more = .ok (found, log) →
      s.discover t many recursive less = .ok (other, later) →
        (∀ f ∈ found.targets.files, f ∈ other.targets.files) ∧
          found.targets.Increasing ∧ other.targets.Increasing) ∧
    ∀ found other log later, s.discover t few recursive less = .ok (found, log) →
      s.discover t many recursive more = .ok (other, later) →
        (∀ f ∈ found.targets.excluded, f ∈ other.targets.excluded) ∧
          found.targets.Increasing ∧ other.targets.Increasing ∧
            ((∀ g ∈ many, g ∈ few) → (∀ c ∈ components more, c ∈ components less) →
              found.targets = other.targets) := by
  have wide : few ⊆ many := fun g asked => wider g asked
  have strict : components less ⊆ components more := fun c present => stricter c present
  refine ⟨fun legible targets => answered_discover_legible legible t targets recursive, ?_, ?_⟩
  · intro found other log later done again
    refine ⟨?_, increasing_targets done, increasing_targets again⟩
    exact fun f listed => files_subset wide strict done again listed
  · intro found other log later done again
    refine ⟨?_, increasing_targets done, increasing_targets again, ?_⟩
    · exact fun f listed => excluded_subset wide strict done again listed
    · intro narrower laxer
      exact targets_eq_of_same wide (fun g asked => narrower g asked) strict (fun c present => laxer c present)
        done again

theorem discover_monotone_nestedTree : ∃ s found other log later, create .standard (.dict []) = .ok s ∧
    s.discover nestedTree ["a.py"] true "c.py,./d" = .ok (found, log) ∧
    s.discover nestedTree [".", "a.py"] true "./d" = .ok (other, later) ∧ "./a.py" ∈ found.targets.files ∧
    (∀ f ∈ found.targets.files, f ∈ other.targets.files) ∧
    found.targets.Increasing ∧ other.targets.Increasing := by
  obtain ⟨s, created, same⟩ := exists_created_standard
  have wider : ∀ g ∈ ["a.py"], g ∈ [".", "a.py"] := by decide
  have stricter : ∀ c ∈ components "./d", c ∈ components "c.py,./d" := by decide +kernel
  obtain ⟨ends, verdict, -⟩ := discover_monotone nestedTree s true wider stricter
  have legible : s.settings.Legible := same ▸ legible_standard
  obtain ⟨⟨found, log⟩, done, -⟩ := ends legible ["a.py"] "c.py,./d"
  obtain ⟨⟨other, later⟩, again, -⟩ := ends legible [".", "a.py"] "./d"
  have free : ¬ s.Bars nestedTree "c.py,./d" "a.py" := by
    have unset : s.settings.option "exclude_dirs" = .ok .null := same ▸ exclude_standard
    rw [bars_of_unset unset rfl]
    decide +kernel
  have listed : "./a.py" ∈ found.targets.files := by
    rw [(mem_targets_discover done _).1]
    exact .inl ⟨"a.py", mem_singleton_self _, by decide +kernel, free, by decide +kernel⟩
  exact ⟨s, found, other, log, later, created, done, again, listed, verdict found other log later done again⟩

end Session

end SourceAudit
