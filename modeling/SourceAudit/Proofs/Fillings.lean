import SourceAudit.Proofs.Circles

/-! Calls that fill a text. Starred displays are taken apart, so the queue of arguments runs empty. -/

namespace SourceAudit.MarkSafe

open List Node

/-- What is left of an argument when starred displays are replaced by their items. -/
inductive Remains : Node → Node → Prop where
  | whole {a} (single : spread? a = none) : Remains a a
  | item {n elts e a} (items : spread? n = some elts) (listed : e ∈ elts) (left : Remains e a) : Remains n a

/-- Calls judged with any verdicts on names, down to a depth. -/
def judgeCall (names : Nat → String → Int → Answer Bool) : Nat → Int → Option (List Node) → Answer Bool
  | 0, _, _ => .error .endless
  | _ + 1, _, none => .ok false
  | fuel + 1, line, some args =>
    countHarmless (fillingHarmless (names fuel) (judgeCall names fuel) line) 0 args.length args

/-- The verdict on a call by verdicts on names. -/
noncomputable def secure (verdict : String → Int → Bool) (n : Node) : Bool :=
  match judgeCall (fun _ id line => .ok (verdict id line)) (sizeOf n + 1) (n.line?.getD 0 : Nat) (filledIn? n) with
  | .ok b => b
  | .error _ => false

/-- What is filled in at a line is a literal, a name of which nothing bad is known, or such a call. -/
def Fills (verdict : String → Int → Bool) (line : Int) (a : Node) : Prop :=
  a.isText ∨ (∃ span id ctx, a = .name span id ctx ∧ verdict id line) ∨
    ∃ span func args keywords, a = .call span func args keywords ∧ secure verdict a

variable {n a : Node} {args elts : List Node} (verdict : String → Int → Bool)

theorem judgeCall_harmlessName (skip : List String) (scope : Node) :
    judgeCall (harmlessName skip scope) = harmlessCall skip scope := by
  funext fuel
  induction fuel with
  | zero => rfl
  | succ fuel ih =>
    funext line args
    cases args with
    | none => rfl
    | some args => rw [judgeCall, harmlessCall, ih]

theorem remains_of_single (single : spread? n = none) : Remains n a ↔ a = n := by
  constructor
  · intro left
    cases left with
    | whole => rfl
    | item items => cases single.symm.trans items
  · rintro rfl
    exact .whole single

theorem remains_of_spread (items : spread? n = some elts) : Remains n a ↔ ∃ e ∈ elts, Remains e a := by
  constructor
  · intro left
    cases left with
    | whole single => cases single.symm.trans items
    | item found listed left =>
      cases items.symm.trans found
      exact ⟨_, listed, left⟩
  · rintro ⟨e, listed, left⟩
    exact .item items listed left

theorem Remains.sizeOf_le (left : Remains n a) : sizeOf a ≤ sizeOf n := by
  induction left with
  | whole => exact Nat.le_refl _
  | item items listed _ ih => exact ih.trans (sizeOf_lt_of_spread items listed).le

theorem exists_allHarmless {judge : Node → Answer Bool} {good : Node → Prop}
    (known : ∀ n ∈ args, ∀ a, Remains n a → ∃ b, judge a = .ok b ∧ (b = true ↔ good a)) :
    ∃ b, allHarmless judge args = .ok b ∧ (b = true ↔ ∀ n ∈ args, ∀ a, Remains n a → good a) := by
  induction args using allHarmless.induct with
  | case1 => exact ⟨true, allHarmless.eq_1 judge, by simp⟩
  | case2 n ns elts items ih =>
    -- the queue grows by the items, and nothing is left of the display itself
    have same (P : Node → Prop) :
        (∀ m ∈ ns ++ elts, ∀ a, Remains m a → P a) ↔ ∀ m ∈ n :: ns, ∀ a, Remains m a → P a := by
      rw [forall_mem_append, forall_mem_cons, and_comm]
      simp only [remains_of_spread items]
      grind
    rw [allHarmless_of_spread items, ← same]
    exact ih ((same _).mpr known)
  | case3 n ns single ih =>
    rw [forall_mem_cons] at known
    obtain ⟨first, judged, here⟩ := known.1 n (.whole single)
    simp only [allHarmless_of_single single, judged, forall_mem_cons, remains_of_single single, forall_eq, ← here]
    cases first with
    | false => exact ⟨false, rfl, by simp⟩
    | true =>
      obtain ⟨b, rest, all⟩ := ih known.2
      exact ⟨b, rest, by simpa using all⟩

theorem exists_judgeCall {fuel : Nat} (filled : filledIn? n = some args) (line : Int)
    (nested : ∀ m, sizeOf m < sizeOf n → judgeCall (fun _ id line => .ok (verdict id line)) fuel
      (m.line?.getD 0 : Nat) (filledIn? m) = .ok (secure verdict m)) :
    ∃ b, judgeCall (fun _ id line => .ok (verdict id line)) (fuel + 1) line (some args) = .ok b ∧
      (b = true ↔ ∀ n ∈ args, ∀ a, Remains n a → Fills verdict line a) := by
  rw [judgeCall, ← Nat.zero_add args.length, countHarmless_eq]
  refine exists_allHarmless fun m listed a left => ?_
  have smaller := left.sizeOf_le.trans_lt (sizeOf_lt_of_filled filled listed)
  cases a with
  | constant span c => cases c <;> exact ⟨_, rfl, by simp [Fills, isText]⟩
  | name span id => exact ⟨_, rfl, by simp [Fills, isText]⟩
  | call span func args keywords => exact ⟨_, nested _ smaller, by simp [Fills, isText]⟩
  | _ => exact ⟨false, rfl, by simp [Fills, isText]⟩

theorem judgeCall_eq (n : Node) : ∀ fuel, sizeOf n < fuel →
    judgeCall (fun _ id line => .ok (verdict id line)) fuel (n.line?.getD 0 : Nat) (filledIn? n) =
      .ok (secure verdict n) := by
  induction size : sizeOf n using Nat.strong_induction_on generalizing n with
  | _ size ih =>
    subst size
    rintro (_ | fuel) deep
    · cases deep
    · rw [secure]
      cases filled : filledIn? n with
      | none => rfl
      | some args =>
        have nested (k : Nat) (bound : sizeOf n ≤ k) := exists_judgeCall verdict filled (n.line?.getD 0 : Nat)
          fun m small => ih _ small m rfl k (small.trans_le bound)
        obtain ⟨b, answer, good⟩ := nested fuel (Nat.lt_succ_iff.mp deep)
        obtain ⟨c, least, also⟩ := nested (sizeOf n) (Nat.le_refl _)
        rw [answer, least, Bool.eq_iff_iff.mpr (good.trans also.symm)]

/-- Whatever the verdicts on names are, the loop over the arguments ends, and finds the call harmless exactly if each
argument that is left is a literal, a name with a good verdict or a harmless call. -/
theorem filling_harmless_iff (verdict : String → Int → Bool) :
    (∀ skip scope, harmlessCall skip scope = judgeCall (harmlessName skip scope)) ∧
      (∀ n fuel, sizeOf n < fuel → judgeCall (fun _ id line => .ok (verdict id line)) fuel (n.line?.getD 0 : Nat)
        (filledIn? n) = .ok (secure verdict n)) ∧
      ∀ (span place : Span) (template : Node) (ctx : Operator) (args : List Node), template.isText →
        (secure verdict (.call span (.attr place template "format" ctx) args []) ↔
          ∀ n ∈ args, ∀ a, Remains n a → Fills verdict span.line a) := by
  refine ⟨fun skip scope => (judgeCall_harmlessName skip scope).symm, judgeCall_eq verdict, ?_⟩
  intro span place template ctx args text
  let call := Node.call span (.attr place template "format" ctx) args []
  have filled : filledIn? call = some args := if_pos text
  obtain ⟨b, answer, good⟩ := exists_judgeCall verdict filled span.line fun m => judgeCall_eq verdict m _
  have ends := judgeCall_eq verdict call _ (Nat.lt_succ_self (sizeOf call))
  rw [filled] at ends
  rw [← Except.ok.inj (answer.symm.trans ends)]
  exact good

theorem filling_harmless_nested : let s : Span := ⟨1, 0, 1, 0⟩
    secure (fun id _ => id == "x") (.call s (.attr s (.constant s (.text "{}{}")) "format" .load)
      [.starred s (.list s [.constant s (.text "a"),
        .starred s (.tuple s [.name s "x" .load] .load) .load] .load) .load] []) := by
  intro s
  refine ((filling_harmless_iff _).2.2 _ _ _ _ _ rfl).mpr fun n listed a left => ?_
  cases mem_singleton.mp listed
  obtain ⟨e, among, left⟩ := (remains_of_spread rfl).mp left
  obtain rfl | later := mem_cons.mp among
  · cases (remains_of_single rfl).mp left
    exact .inl rfl
  · cases mem_singleton.mp later
    obtain ⟨e, among, left⟩ := (remains_of_spread rfl).mp left
    cases mem_singleton.mp among
    cases (remains_of_single rfl).mp left
    exact .inr (.inl ⟨_, _, _, rfl, rfl⟩)

end SourceAudit.MarkSafe
