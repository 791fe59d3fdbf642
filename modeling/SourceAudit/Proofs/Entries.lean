import Mathlib
import SourceAudit.Data.Value

/-! Looking up named entries after a change. -/

namespace SourceAudit.Entries

open List

variable {β : Type}

theorem lookup_cons (key : String) (value : β) (rest : List (String × β)) (asked : String) :
    ((key, value) :: rest).lookup asked = if asked = key then some value else rest.lookup asked := by
  by_cases same : asked = key
  · simp [List.lookup, same]
  · have apart : (asked == key) = false := by simpa using same
    simp [List.lookup, same, apart]

theorem any_iff_mem_keys (name : String) (es : List (String × β)) :
    (es.any fun e => e.1 == name) = true ↔ name ∈ es.map Prod.fst := by
  simp [any_eq_true]

theorem lookup_eq_none_iff (name : String) (es : List (String × β)) : es.lookup name = none ↔ name ∉ es.map Prod.fst := by
  induction es with
  | nil => simp
  | cons e rest ih =>
    obtain ⟨key, _⟩ := e
    by_cases same : name = key <;> simp [lookup_cons, same, ih]

theorem lookup_update (name : String) (f : β → β) (es : List (String × β)) (asked : String) :
    (update name f es).lookup asked = if asked = name then (es.lookup name).map f else es.lookup asked := by
  induction es with
  | nil => simp [update]
  | cons e rest ih =>
    obtain ⟨key, _⟩ := e
    unfold update at ih ⊢
    by_cases same : key = name
    · subst same
      by_cases found : asked = key
      · simp [found]
      · simpa [lookup_cons, found] using ih
    · by_cases found : asked = name
      · subst found
        have apart : asked ≠ key := fun h => same h.symm
        simpa [lookup_cons, same, apart] using ih
      · simp only [map_cons, beq_iff_eq, same, if_false, lookup_cons, found] at ih ⊢
        rw [ih]

theorem keys_update (name : String) (f : β → β) (es : List (String × β)) :
    (update name f es).map Prod.fst = es.map Prod.fst := by
  rw [update, map_map]
  apply map_congr_left
  intro e _
  by_cases same : e.1 = name <;> simp [same]

section

variable {name : String} {es : List (String × β)} (absent : name ∉ es.map Prod.fst) (f : β → β)

include absent f

theorem update_of_not_mem : update name f es = es := by
  conv => rhs; rw [← map_id es]
  apply map_congr_left
  intro e mem
  have other : e.1 ≠ name := by
    rintro rfl
    exact absent (mem_map_of_mem mem)
  simp [other]

theorem update_concat (value : β) : update name f (es ++ [(name, value)]) = es ++ [(name, f value)] := by
  have before : update name f es = es := update_of_not_mem absent f
  unfold update at before ⊢
  rw [map_append, before]
  simp

end

theorem lookup_put (name : String) (f : β → β) (new : β) (es : List (String × β)) (asked : String) :
    (put name f new es).lookup asked =
      if asked = name then some (((es.lookup name).map f).getD new) else es.lookup asked := by
  unfold put
  split
  case isTrue there =>
      rw [lookup_update]
      cases found : es.lookup name with
      | none => exact absurd ((any_iff_mem_keys name es).mp there) ((lookup_eq_none_iff name es).mp found)
      | some value => simp
  case isFalse absent =>
      have unknown : es.lookup name = none := by
        rw [lookup_eq_none_iff, ← any_iff_mem_keys]
        exact absent
      by_cases same : asked = name
      · simp [lookup_append, same, unknown]
      · simp [lookup_append, lookup_cons, same]

theorem update_put (name : String) (f g : β → β) (new : β) (es : List (String × β)) :
    update name f (put name g new es) = put name (f ∘ g) (f new) es := by
  unfold put
  split
  case isTrue there =>
      rw [update, update, update, map_map]
      apply map_congr_left
      intro e _
      by_cases same : e.1 = name <;> simp [same]
  case isFalse absent =>
      rw [any_iff_mem_keys] at absent
      exact update_concat absent f new

theorem put_of_not_mem {name : String} {es : List (String × β)} (absent : name ∉ es.map Prod.fst)
    (f : β → β) (new : β) : put name f new es = es ++ [(name, new)] := by
  rw [put, if_neg]
  rw [any_iff_mem_keys]
  exact absent

theorem keys_put (name : String) (f : β → β) (new : β) (es : List (String × β)) : (put name f new es).map Prod.fst =
      if name ∈ es.map Prod.fst then es.map Prod.fst else es.map Prod.fst ++ [name] := by
  by_cases there : name ∈ es.map Prod.fst
  · rw [if_pos there, put, if_pos ((any_iff_mem_keys name es).mpr there), keys_update]
  · rw [if_neg there, put_of_not_mem there, map_append, map_cons, map_nil]

variable {es : List (String × β)}

theorem nodup_keys_put (distinct : (es.map Prod.fst).Nodup) (name : String) (f : β → β)
    (new : β) : ((put name f new es).map Prod.fst).Nodup := by
  rw [keys_put]
  split
  · exact distinct
  · rename_i fresh
    rw [nodup_append]
    refine ⟨distinct, nodup_singleton name, ?_⟩
    intro a there b here same
    rw [mem_singleton] at here
    exact fresh (here ▸ same ▸ there)

theorem mem_of_mem_put {name : String} {value : β} {e : String × β}
    (present : e ∈ put name (fun _ => value) value es) : e = (name, value) ∨ e ∈ es := by
  unfold put at present
  split at present
  · obtain ⟨old, there, rfl⟩ := mem_map.mp present
    by_cases same : old.1 = name
    · simp [same]
    · simp [same, there]
  · rcases mem_append.mp present with old | new
    · exact .inr old
    · exact .inl (mem_singleton.mp new)

theorem lookup_of_mem (distinct : (es.map Prod.fst).Nodup) {name : String} {value : β}
    (present : (name, value) ∈ es) : es.lookup name = some value := by
  induction es with
  | nil => simp at present
  | cons e rest ih =>
    obtain ⟨key, _⟩ := e
    obtain ⟨new, distinct⟩ := nodup_cons.mp distinct
    rcases mem_cons.mp present with same | later
    · obtain ⟨rfl, rfl⟩ := (Prod.mk.injEq ..).mp same
      simp
    · have other : name ≠ key := by
        rintro rfl
        exact new (mem_map.mpr ⟨_, later, rfl⟩)
      rw [lookup_cons, if_neg other, ih distinct later]

theorem filter_update (name : String) (f : β → β) (es : List (String × β)) :
    (update name f es).filter (fun e => e.1 != name) = es.filter fun e => e.1 != name := by
  unfold update
  induction es with
  | nil => rfl
  | cons e rest ih => by_cases same : e.1 = name <;> simp_all

theorem filter_put (name : String) (f : β → β) (new : β) (es : List (String × β)) :
    (put name f new es).filter (fun e => e.1 != name) = es.filter fun e => e.1 != name := by
  unfold put
  split
  · exact filter_update name f es
  · simp

end SourceAudit.Entries
