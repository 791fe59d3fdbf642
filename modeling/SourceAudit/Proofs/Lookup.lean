import SourceAudit.Proofs.Older

/-! Settings below settings. A name with dots leads through dictionaries, and fails at most other values. -/

namespace SourceAudit

open Answers

namespace Settings

/-- What stands at the end of a way through nested dictionaries; null if a name on it is no key. -/
def reached : List String → Value → Value
  | [], v => v
  | level :: rest, .dict es => (Value.lookup (.str level) es).elim .null (reached rest)
  | _ :: _, _ => .null

/-- The way leads to a value that is no dictionary, is not empty, and holds the next name or cannot be searched. -/
def Stumbles : List String → Value → Prop
  | [], _ => False
  | level :: rest, .dict es => ∃ v, Value.lookup (.str level) es = some v ∧ Stumbles rest v
  | level :: _, v => v.truthy = true ∧ (v.Searchable → v.Mentions level)

theorem follow_cons_other {v : Value} (other : ∀ es, v ≠ .dict es) (level : String) (rest : List String) :
    (¬(v.truthy = true ∧ (v.Searchable → v.Mentions level)) → follow (level :: rest) v = .ok .null) ∧
      (v.truthy = true ∧ (v.Searchable → v.Mentions level) → follow (level :: rest) v = .error .wrongKind) := by
  have entry : v.entry level = .error .wrongKind := by
    cases v with
    | dict es => exact absurd rfl (other es)
    | _ => rfl
  rw [follow]
  by_cases truthy : v.truthy = true
  · by_cases searchable : v.Searchable
    · obtain ⟨found, asked, exactly⟩ := Value.holds_of_searchable searchable level
      rw [if_pos truthy, asked]
      cases found with
      | true => simp [truthy, exactly.mp rfl, entry, bind, Except.bind]
      | false => simp [truthy, searchable, mt exactly.mpr Bool.false_ne_true, bind, Except.bind, pure, Except.pure]
    · rw [if_pos truthy, Value.holds_of_not_searchable searchable]
      simp [truthy, searchable, bind, Except.bind]
  · simp [truthy, pure, Except.pure]

theorem follow_ends (path : List String) (v : Value) : (¬ Stumbles path v → follow path v = .ok (reached path v)) ∧
    (Stumbles path v → follow path v = .error .wrongKind) := by
  induction path generalizing v with
  | nil => exact ⟨fun _ => rfl, nofun⟩
  | cons level rest ih =>
    cases v with
    | dict es =>
      rw [follow_cons_dict, Stumbles, reached]
      cases found : Value.lookup (.str level) es with
      | none => simp
      | some w => simpa using ih w
    | _ => exact follow_cons_other (by simp) level rest

theorem option_reached_iff (s : Settings) (name : String) :
    (s.option name = .ok (reached (splitString '.' name) s.content) ↔ ¬ Stumbles (splitString '.' name) s.content) ∧
      (s.option name = .error .wrongKind ↔ Stumbles (splitString '.' name) s.content) := by
  obtain ⟨clear, stuck⟩ := follow_ends (splitString '.' name) s.content
  refine ⟨⟨fun found stumbles => ?_, clear⟩, ⟨fun failed => ?_, stuck⟩⟩
  · cases found.symm.trans (stuck stumbles)
  · by_contra free
    cases failed.symm.trans (clear free)

/-- Below a number nothing can be looked up. -/
theorem option_below_number : (⟨.dict [(.str "a", .int 5)]⟩ : Settings).option "a.b" = .error .wrongKind ∧
    reached ["a", "b"] (.dict [(.str "a", .int 5)]) = .null := by
  constructor <;> rfl

end Settings

end SourceAudit
