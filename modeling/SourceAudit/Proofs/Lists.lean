import Mathlib

/-! Facts about lists that are not about what stands in them. -/

namespace SourceAudit.Lists

open List

theorem mem_of_lookup {α β : Type} [BEq α] [LawfulBEq α] {items : List (α × β)} {a : α} {b : β}
    (found : items.lookup a = some b) : (a, b) ∈ items := by
  obtain ⟨before, _, split, -⟩ := lookup_eq_some_iff.mp found
  rw [split]
  exact mem_append_right before mem_cons_self

theorem nodup_eraseDups {α : Type} [BEq α] [LawfulBEq α] (items : List α) : items.eraseDups.Nodup := by
  match items with
  | [] => simp
  | a :: rest =>
    rw [eraseDups_cons, nodup_cons]
    exact ⟨by simp, nodup_eraseDups (rest.filter fun b => !b == a)⟩
termination_by items.length
decreasing_by exact Nat.lt_succ_of_le (length_filter_le _ _)

theorem eraseDups_sublist {α : Type} [BEq α] (items : List α) : items.eraseDups.Sublist items := by
  match items with
  | [] => simp
  | a :: rest =>
    rw [eraseDups_cons]
    have shorter := eraseDups_sublist (rest.filter fun b => !b == a)
    exact (shorter.trans filter_sublist).cons_cons a
termination_by items.length
decreasing_by exact Nat.lt_succ_of_le (length_filter_le _ _)

/-- What is found first in numbered items is found in one of them and not in those before. -/
theorem exists_of_findSome?_zipIdx {α β : Type} {xs : List α} {f : α × Nat → Option β} {b : β}
    (found : xs.zipIdx.findSome? f = some b) :
    ∃ n a, xs[n]? = some a ∧ f (a, n) = some b ∧ ∀ m < n, ∀ other, xs[m]? = some other → f (other, m) = none := by
  obtain ⟨before, ⟨a, n⟩, after, split, here, earlier⟩ := findSome?_eq_some_iff.mp found
  have numbered (m : Nat) : (before ++ (a, n) :: after)[m]? = xs[m]?.map (·, m) := by
    rw [← split, getElem?_zipIdx, Nat.zero_add]
  have own := numbered before.length
  rw [getElem?_append_right (Nat.le_refl _), Nat.sub_self, getElem?_cons_zero] at own
  obtain ⟨_, there, same⟩ := Option.map_eq_some_iff.mp own.symm
  cases same
  refine ⟨_, a, there, here, fun m above other stands => earlier _ (mem_of_getElem? (i := m) ?_)⟩
  rw [← getElem?_append_left above, numbered, stands]
  rfl

section

variable {α β : Type} {items : List α} {f g : α → List β} (lacks : ∀ a ∈ items, g a = f a ∨ g a = [])

include lacks

theorem length_flatMap_le : (items.flatMap g).length ≤ (items.flatMap f).length := by
  induction items with
  | nil => exact Nat.le_refl _
  | cons a rest ih =>
    rw [forall_mem_cons] at lacks
    have bound := ih lacks.2
    rw [flatMap_cons, flatMap_cons, length_append, length_append]
    rcases lacks.1 with same | none
    · rw [same]
      omega
    · rw [none, length_nil]
      omega

/-- Lists put together from pieces, of which one may lack some, are the same exactly if none is lacking. -/
theorem flatMap_eq_iff : items.flatMap g = items.flatMap f ↔ ∀ a ∈ items, g a = f a := by
  induction items with
  | nil => simp
  | cons a rest ih =>
    rw [forall_mem_cons] at lacks
    rw [flatMap_cons, flatMap_cons, forall_mem_cons]
    constructor
    · intro equal
      have here : g a = f a := by
        rcases lacks.1 with same | none
        · exact same
        · have bound := length_flatMap_le lacks.2
          have lengths := congrArg List.length equal
          rw [none, nil_append, length_append] at lengths
          rw [none, eq_nil_of_length_eq_zero (l := f a) (by omega)]
      rw [here, append_cancel_left_eq] at equal
      exact ⟨here, (ih lacks.2).mp equal⟩
    · rintro ⟨here, later⟩
      rw [here, (ih lacks.2).mpr later]

end

end SourceAudit.Lists
