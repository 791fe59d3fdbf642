import SourceAudit.Proofs.Execution
import SourceAudit.Proofs.Hazards

/-! Where the tracing of a name that is marked as safe can be trusted. -/

namespace SourceAudit

open Answers

variable {e n : Node} {fuel : Nat} {v : String} {args : List Node} {ξ : Store}

namespace MarkSafe

open Node

/-! ### What is settled by statements -/

def start (n : Node) : Nat := n.line?.getD 0

def settleAll (judge : Node → Answer Verdict) (known : Bool) : List Node → Answer Bool
  | [] => .ok known
  | n :: ns => do
    match ← judge n with
    | .unchanged => settleAll judge known ns
    | .becomes harmless => settleAll judge harmless ns
    | .lost => return false

theorem settle_eq (l : Int) (judge : Node → Answer Verdict) (known : Bool) (ns : List Node) :
    settle l judge known ns = settleAll judge known (ns.takeWhile fun n => decide ((start n : Int) < l)) := by
  induction ns generalizing known with
  | nil => rfl
  | cons n ns ih =>
    rw [settle, List.takeWhile_cons]
    by_cases above : (start n : Int) < l
    · have below : ¬ l ≤ ((n.line?.getD 0 : Nat) : Int) := Int.not_le.mpr above
      rw [if_neg below, if_pos (by simpa using above), settleAll]
      congr 1
      funext verdict
      cases verdict with
      | unchanged => exact ih known
      | becomes harmless => exact ih harmless
      | lost => rfl
    · have below : l ≤ ((n.line?.getD 0 : Nat) : Int) := Int.not_lt.mp above
      rw [if_pos below, if_neg (by simpa using above)]
      rfl

theorem settleAll_concat {judge : Node → Answer Verdict} {known : Bool} {ns : List Node}
    (settled : settleAll judge known (ns ++ [n]) = .ok true) :
    judge n = .ok .unchanged ∧ settleAll judge known ns = .ok true ∨ judge n = .ok (.becomes true) := by
  induction ns generalizing known with
  | nil =>
    obtain ⟨verdict, judged, rest⟩ := bind_eq_ok.mp settled
    cases verdict with
    | unchanged => exact .inl ⟨judged, rest⟩
    | becomes harmless =>
      cases rest
      exact .inr judged
    | lost => cases rest
  | cons m ns ih =>
    obtain ⟨verdict, judged, rest⟩ := bind_eq_ok.mp settled
    rw [settleAll, judged]
    cases verdict with
    | unchanged => exact ih rest
    | becomes harmless => exact ih rest
    | lost => cases rest

variable {scope : Node}

def judgement (scope : Node) (fuel : Nat) (v : String) (s : Node) : Answer Verdict := do
  verdictOn (harmlessName [] scope fuel) (harmlessCall [] scope fuel) (start s) (← s.assigned [] v)

def judgedAfter (scope : Node) (fuel : Nat) (v : String) (ns : List Node) : Answer Bool :=
  if scope.parameterNames.contains v then .ok false else settleAll (judgement scope fuel v) false ns

theorem harmlessName_succ (fuel : Nat) (v : String) (l : Int) : harmlessName [] scope (fuel + 1) v l =
    judgedAfter scope fuel v (scope.block.takeWhile fun n => decide ((start n : Int) < l)) := by
  rw [harmlessName, settle_eq]
  rfl

theorem judgedAfter_concat {ns : List Node} {s : Node} (judged : judgedAfter scope fuel v (ns ++ [s]) = .ok true) :
    judgement scope fuel v s = .ok .unchanged ∧ judgedAfter scope fuel v ns = .ok true ∨
      judgement scope fuel v s = .ok (.becomes true) := by
  unfold judgedAfter at judged ⊢
  split at judged
  · cases judged
  · rename_i other
    rw [if_neg other]
    exact settleAll_concat judged

/-! ### What is judged to be harmless -/

/-- The names on which it depends whether something is put together from literals. -/
inductive Rests : Node → String → Prop where
  | name {span v} : Rests (.name span v ctx) v
  | filled {n args a v} (filled : filledIn? n = some args) (listed : a ∈ args) (rests : Rests a v) : Rests n v
  | spread {n elts a v} (items : spread? n = some elts) (listed : a ∈ elts) (rests : Rests a v) : Rests n v

/-- All of an expression stands on one line, where the names that it rests on can be trusted. -/
structure Level (scope : Node) (l : Nat) (σ : Store) (e : Node) : Prop where
  flat : ∀ n k, e.Inside n → n.line? = some k → k = l
  clean : ∀ fuel v, Rests e v → harmlessName [] scope fuel v l = .ok true → v ∉ σ

theorem inside_of_spread {a : Node} {elts : List Node} (items : spread? n = some elts) (mem : a ∈ elts) : n.Inside a := by
  unfold spread? at items
  split at items
  · rename_i outer inner _ ctx _
    cases items
    have within : (list inner elts ctx).Inside a := .single (exists_mem_children (by simp [groups, mem]))
    exact .head (exists_mem_children (by simp [groups])) within
  · rename_i outer inner _ ctx _
    cases items
    have within : (tuple inner elts ctx).Inside a := .single (exists_mem_children (by simp [groups, mem]))
    exact .head (exists_mem_children (by simp [groups])) within
  · cases items

theorem inside_of_filled {a : Node} (filled : filledIn? n = some args) (mem : a ∈ args) : n.Inside a := by
  unfold filledIn? at filled
  split at filled
  · split at filled
    · cases filled
      exact .single (exists_mem_children (by simp [groups, mem]))
    · cases filled
  · cases filled

theorem findAnswer_none {α : Type} {ask : α → Answer Bool} {items : List α} (none : findAnswer ask items = .ok none) :
    ∀ a ∈ items, ask a = .ok false := by
  induction items with
  | nil => nofun
  | cons a rest ih =>
    obtain ⟨yes, asked, later⟩ := bind_eq_ok.mp none
    cases yes with
    | true => cases later
    | false => exact List.forall_mem_cons.mpr ⟨asked, ih later⟩

variable {σ : Store} {l : Nat}

theorem Level.of_spread {a : Node} {elts : List Node} (level : Level scope l σ n) (items : spread? n = some elts)
    (mem : a ∈ elts) : Level scope l σ a where
  flat m k within := level.flat m k ((inside_of_spread items mem).trans within)
  clean fuel v rests := level.clean fuel v (.spread items mem rests)

theorem Level.of_filled {a : Node} (level : Level scope l σ n) (filled : filledIn? n = some args) (mem : a ∈ args) :
    Level scope l σ a where
  flat m k within := level.flat m k ((inside_of_filled filled mem).trans within)
  clean fuel v rests := level.clean fuel v (.filled filled mem rests)

/-- Whether all arguments are harmless, told at the first that is not. -/
def allHarmless (judge : Node → Answer Bool) : List Node → Answer Bool
  | [] => .ok true
  | n :: ns =>
    match _found : spread? n with
    | some elts => allHarmless judge (ns ++ elts)
    | none => do if ← judge n then allHarmless judge ns else return false
termination_by args => totalSize args
decreasing_by exacts [totalSize_spread_lt _found ns, totalSize_tail_lt n ns]

section

variable {judge : Node → Answer Bool} {ns elts : List Node}

theorem allHarmless_of_spread (items : spread? n = some elts) :
    allHarmless judge (n :: ns) = allHarmless judge (ns ++ elts) := by
  rw [allHarmless]
  split
  · rename_i found
    cases items.symm.trans found
    rfl
  · rename_i found
    cases items.symm.trans found

theorem allHarmless_of_single (single : spread? n = none) :
    allHarmless judge (n :: ns) = (judge n >>= fun yes => if yes then allHarmless judge ns else .ok false) := by
  rw [allHarmless]
  split
  · rename_i found
    cases single.symm.trans found
  · rfl

/-- As many arguments have been counted as there are exactly if the loop has met none that is not harmless. -/
theorem countHarmless_eq (judge : Node → Answer Bool) (args : List Node) (counted : Nat) :
    countHarmless judge counted (counted + args.length) args = allHarmless judge args := by
  induction args using allHarmless.induct generalizing counted with
  | case1 => simp [countHarmless, allHarmless]
  | case2 n ns elts items ih =>
    have total : counted + (n :: ns).length + elts.length = counted + 1 + (ns ++ elts).length := by
      simp only [List.length_cons, List.length_append]
      omega
    rw [allHarmless_of_spread items, ← ih (counted + 1), ← total, countHarmless]
    split
    · rename_i found
      cases items.symm.trans found
      rfl
    · rename_i found
      cases items.symm.trans found
  | case3 n ns single ih =>
    have total : counted + (n :: ns).length = counted + 1 + ns.length := by
      simp only [List.length_cons]
      omega
    have short : (counted == counted + (n :: ns).length) = false := by simp
    rw [allHarmless_of_single single, ← ih (counted + 1), ← total, countHarmless]
    split
    · rename_i found
      cases single.symm.trans found
    · rw [short]
      rfl

theorem harmlessCall_succ (skip : List String) (scope : Node) (fuel : Nat) (line : Int) (args : List Node) :
    harmlessCall skip scope (fuel + 1) line (some args) =
      allHarmless (fillingHarmless (harmlessName skip scope fuel) (harmlessCall skip scope fuel) line) args := by
  rw [harmlessCall, ← countHarmless_eq _ _ 0, Nat.zero_add]

end

theorem built_of_allHarmless {judge : Node → Answer Bool} (level : ∀ a ∈ args, Level scope l σ a)
    (built : ∀ a, Level scope l σ a → judge a = .ok true → Built σ a) (harmless : allHarmless judge args = .ok true) :
    ∀ a ∈ args, Built σ a := by
  fun_induction allHarmless judge args with
  | case1 => nofun
  | case2 n ns elts items ih =>
    rw [List.forall_mem_cons] at level
    have rest := ih (List.forall_mem_append.mpr ⟨level.2, fun a mem => level.1.of_spread items mem⟩) harmless
    rw [List.forall_mem_append] at rest
    exact List.forall_mem_cons.mpr ⟨.spread items rest.2, rest.1⟩
  | case3 n ns single ih =>
    rw [List.forall_mem_cons] at level
    obtain ⟨yes, judged, rest⟩ := bind_eq_ok.mp harmless
    cases yes with
    | false => cases rest
    | true => exact List.forall_mem_cons.mpr ⟨built n level.1 judged, ih level.2 rest⟩

theorem built_of_harmlessCall (level : Level scope l σ n)
    (harmless : harmlessCall [] scope fuel l (filledIn? n) = .ok true) : Built σ n := by
  induction fuel generalizing n with
  | zero => cases harmless
  | succ fuel ih =>
    cases filled : filledIn? n with
    | none =>
      rw [filled] at harmless
      cases harmless
    | some args =>
      rw [filled, harmlessCall_succ] at harmless
      apply Built.format filled
      apply built_of_allHarmless (fun a mem => level.of_filled filled mem) _ harmless
      intro a level judged
      unfold fillingHarmless at judged
      split at judged
      · exact .text
      · exact .name (level.clean fuel _ .name judged)
      · rename_i span _ _ _
        have line : span.line = l := level.flat _ _ .refl rfl
        rw [line] at judged
        exact ih level judged
      · cases judged

theorem built_of_verdictOnOne (level : Level scope l σ e)
    (said : verdictOnOne (harmlessName [] scope fuel) (harmlessCall [] scope fuel) e = .ok (.becomes true)) :
    Built σ e := by
  unfold verdictOnOne at said
  split at said
  · exact .text
  · rename_i span id _
    obtain ⟨yes, harmless, same⟩ := map_eq_ok.mp said
    cases same
    rw [level.flat _ _ .refl rfl] at harmless
    exact .name (level.clean fuel id .name harmless)
  · rename_i span _ _ _
    obtain ⟨yes, harmless, same⟩ := map_eq_ok.mp said
    cases same
    have line : span.line = l := level.flat _ _ .refl rfl
    rw [line] at harmless
    exact built_of_harmlessCall level harmless
  · cases said

theorem of_becomes {s : Node} (judged : judgement scope fuel v s = .ok (.becomes true)) :
    (∃ e, s.assigned [] v = .ok (.one e) ∧ (Level scope (start s) σ e → Built σ e)) ∨
      ∃ ns, s.assigned [] v = .ok (.several ns) ∧ ns ≠ [] ∧ ∀ e ∈ ns, (∃ span t, e = constant span (.text t)) ∨
        ∃ span w ctx, e = name span w ctx ∧ harmlessName [] scope fuel w (start s) = .ok true := by
  obtain ⟨a, looked, said⟩ := bind_eq_ok.mp judged
  cases a with
  | nothing => cases said
  | one e => exact .inl ⟨e, looked, fun level => built_of_verdictOnOne level said⟩
  | several ns =>
    cases ns with
    | nil => cases said
    | cons first rest =>
      refine .inr ⟨first :: rest, looked, List.cons_ne_nil _ _, ?_⟩
      obtain ⟨bad, searched, same⟩ := bind_eq_ok.mp said
      have none : bad = none := by
        cases bad with
        | none => rfl
        | some _ => cases same
      intro e mem
      have passed := findAnswer_none (none ▸ searched) e mem
      split at passed
      · exact .inl ⟨_, _, rfl⟩
      · rename_i span w ctx
        obtain ⟨yes, harmless, same⟩ := map_eq_ok.mp passed
        cases yes with
        | false => cases same
        | true => exact .inr ⟨span, w, ctx, rfl, harmless⟩
      · cases passed

theorem of_unchanged {s : Node} (judged : judgement scope fuel v s = .ok .unchanged) :
    ∃ a, s.assigned [] v = .ok a ∧ a.toList = [] := by
  obtain ⟨a, looked, said⟩ := bind_eq_ok.mp judged
  refine ⟨a, looked, ?_⟩
  cases a with
  | nothing => rfl
  | one e =>
    rw [verdictOn] at said
    unfold verdictOnOne at said
    split at said
    · cases said
    · obtain ⟨yes, -, same⟩ := map_eq_ok.mp said
      cases same
    · obtain ⟨yes, -, same⟩ := map_eq_ok.mp said
      cases same
    · cases said
  | several ns =>
    cases ns with
    | nil => rfl
    | cons first rest =>
      obtain ⟨bad, -, same⟩ := bind_eq_ok.mp said
      cases bad <;> cases same

theorem mem_of_pairedItem {targets values : List Node} (paired : pairedItem v targets values = .ok (.one e)) :
    e ∈ values := by
  induction targets generalizing values with
  | nil => cases paired
  | cons target targets ih =>
    unfold pairedItem at paired
    split at paired
    · cases paired
    · rename_i same
      cases same
      split at paired
      · split at paired
        · cases paired
          exact List.mem_cons_self
        · cases paired
      · exact List.mem_of_mem_tail (ih paired)
    · cases paired

theorem inside_of_assigned {s : Node} (looked : s.assigned [] v = .ok (.one e)) : s.Inside e := by
  unfold assigned at looked
  rw [List.any_nil, if_neg Bool.false_ne_true] at looked
  split at looked
  · rename_i span value
    exact .head (exists_mem_children (by simp [groups])) (inside_of_assigned looked)
  · obtain ⟨_, -, same⟩ := map_eq_ok.mp looked
    cases same
  · split at looked
    · cases looked
    · dsimp only at looked
      split at looked <;> obtain ⟨_, -, same⟩ := bind_eq_ok.mp looked <;> split at same <;> cases same
      all_goals exact .refl
  · obtain ⟨_, -, looked⟩ := bind_eq_ok.mp looked
    obtain ⟨_, -, looked⟩ := bind_eq_ok.mp looked
    obtain ⟨_, -, looked⟩ := bind_eq_ok.mp looked
    obtain ⟨_, -, same⟩ := bind_eq_ok.mp looked
    cases same
  · obtain ⟨_, -, same⟩ := map_eq_ok.mp looked
    cases same
  iterate 3
    · obtain ⟨_, -, looked⟩ := bind_eq_ok.mp looked
      obtain ⟨_, -, same⟩ := bind_eq_ok.mp looked
      cases same
  · split at looked
    · cases looked
      exact .single (exists_mem_children (by simp [groups]))
    · cases looked
  · unfold assignedTarget at looked
    split at looked
    · split at looked
      · cases looked
        exact .single (exists_mem_children (by simp [groups]))
      · cases looked
    · split at looked
      · rename_i place values ctx
        have within : (tuple place values ctx).Inside e :=
          .single (exists_mem_children (by simp [groups, mem_of_pairedItem looked]))
        exact .head (exists_mem_children (by simp [groups])) within
      · cases looked
    · cases looked
  · cases looked

/-! ### Scopes that can be traced -/

def Leaves (s : Node) (v : String) : Prop := ∀ p ∈ s.pieces, p.gift? v = none ∧ p.binds v = false

def Partly (s : Node) (v : String) : Prop :=
  (∃ a, s.assigned [] v = .ok a ∧ a.toList ≠ []) ∧ ¬ (s.blocks = [] ∧ ∃ e, s.gift? v = some (.value e))

/-- When a name at a call can be traced through a set of names, from a store at the start of the scope. -/
structure Traceable (scope call : Node) (x : String) (names : Set String) (σ : Store) : Prop where
  member : x ∈ names
  /-- Nothing in a statement stands above it or as far down as the next one. -/
  spaced : ∀ before s behind, scope.block = before ++ s :: behind → (∀ t ∈ behind, start s < start t) ∧
    ∀ n l, s.Inside n → n.line? = some l → start s ≤ l ∧ ∀ t ∈ behind, l < start t
  /-- The names are bound by assignments that are looked up. -/
  seen : ∀ s ∈ scope.block, start s ≤ start call → ∀ p ∈ s.pieces, ∀ v ∈ names, p.Seen v
  /-- What the names are given rests on names of the set. -/
  closed : ∀ s ∈ scope.block, start s ≤ start call → ∀ v ∈ names, ∀ a, s.assigned [] v = .ok a → ∀ e ∈ a.toList,
    ∀ w, Rests e w → w ∈ names
  /-- Assignments stand on one line. -/
  flat : ∀ s ∈ scope.block, start s ≤ start call → s.blocks = [] → ∀ v ∈ names,
    (∃ e, s.assigned [] v = .ok (.one e)) → ∀ n l, s.Inside n → n.line? = some l → l = start s
  /-- A name that may or may not be given something is judged harmless before or holds nothing. -/
  entered : ∀ before s behind, scope.block = before ++ s :: behind → start s ≤ start call → ∀ v ∈ names, Partly s v →
    harmlessName [] scope depth v (start s) = .ok true ∨ v ∉ σ ∧ ∀ t ∈ before, Leaves t v
  /-- A name handed on within a compound statement is judged harmless behind it. -/
  handed : ∀ s ∈ scope.block, start s ≤ start call → s.blocks ≠ [] → ∀ v ∈ names, ∀ a, s.assigned [] v = .ok a →
    ∀ span w ctx, name span w ctx ∈ a.toList → harmlessName [] scope depth w (start s + 1 : Nat) = .ok true
  /-- A compound statement that starts on the line of the call gives the name nothing. -/
  headed : ∀ s ∈ scope.block, s.blocks ≠ [] → start s = start call → Leaves s x

section

variable {call s : Node} {x : String} {names : Set String} {before behind : List Node} {ρ : Store}

theorem not_mem_after_of_leaves {p : Node} (seen : p.Seen v)
    (leaves : p.gift? v = none ∧ p.binds v = false) (clean : v ∉ ρ) : v ∉ p.after ρ := by
  simp [after, leaves.1, leaves.2, seen.1, clean]

theorem not_mem_of_meets (seen : ∀ p ∈ s.pieces, p.Seen v) (leaves : Leaves s v) (meets : Meets s ρ ξ)
    (clean : v ∉ ρ) : v ∉ ξ := by
  induction meets with
  | refl => exact clean
  | tail _ step ih =>
    obtain ⟨p, piece, rfl⟩ := step
    exact not_mem_after_of_leaves (seen p piece) (leaves p piece) ih

theorem not_mem_of_passesAll {ss : List Node} (seen : ∀ s ∈ ss, ∀ p ∈ s.pieces, p.Seen v)
    (leaves : ∀ s ∈ ss, Leaves s v) (passed : PassesAll ss ρ ξ) (clean : v ∉ ρ) : v ∉ ξ := by
  induction ss generalizing ρ with
  | nil =>
    rw [show ξ = ρ from passed]
    exact clean
  | cons s rest ih =>
    rw [List.forall_mem_cons] at seen leaves
    obtain ⟨_, first, others⟩ := passed
    apply ih seen.2 leaves.2 others
    unfold Passes at first
    split at first
    · rw [first]
      have whole : s ∈ s.pieces := by simp [pieces_eq]
      exact not_mem_after_of_leaves (seen.1 s whole) (leaves.1 s whole) clean
    · exact not_mem_of_meets seen.1 leaves.1 first clean

theorem passesAll_concat {ss : List Node} {s : Node} {σ τ : Store} (passed : PassesAll (ss ++ [s]) σ τ) :
    ∃ ρ, PassesAll ss σ ρ ∧ Passes s ρ τ := by
  induction ss generalizing σ with
  | nil =>
    obtain ⟨ρ, last, rfl⟩ := passed
    exact ⟨σ, rfl, last⟩
  | cons t rest ih =>
    obtain ⟨ρ, first, others⟩ := passed
    obtain ⟨ξ, front, last⟩ := ih others
    exact ⟨ξ, ⟨ρ, first, front⟩, last⟩

def CleanAt (scope : Node) (names : Set String) (before : List Node) (ρ : Store) : Prop :=
  ∀ fuel v, v ∈ names → judgedAfter scope fuel v before = .ok true → v ∉ ρ

variable (traceable : Traceable scope call x names σ)

section

variable (split : scope.block = before ++ s :: behind)

include traceable split

theorem Traceable.start_lt : ∀ t ∈ before, start t < start s := by
  intro t mem
  obtain ⟨front, back, rfl⟩ := List.append_of_mem mem
  exact (traceable.spaced front t (back ++ s :: behind) (by simp [split])).1 s (by simp)

theorem Traceable.harmlessName_start (fuel : Nat) (v : String) :
    harmlessName [] scope (fuel + 1) v (start s) = judgedAfter scope fuel v before := by
  rw [harmlessName_succ, split, List.takeWhile_append_of_pos (by simpa using traceable.start_lt split),
    List.takeWhile_cons_of_neg (by simp), List.append_nil]

theorem Traceable.harmlessName_behind {l : Nat} (below : start s < l) (above : ∀ t ∈ behind, l ≤ start t) (fuel : Nat)
    (v : String) : harmlessName [] scope (fuel + 1) v l = judgedAfter scope fuel v (before ++ [s]) := by
  have first : ∀ t ∈ before ++ [s], start t < l := by
    rw [List.forall_mem_append, List.forall_mem_singleton]
    exact ⟨fun t mem => (traceable.start_lt split t mem).trans below, below⟩
  have rest : behind.takeWhile (fun n => decide ((start n : Int) < (l : Int))) = [] := by
    cases behind with
    | nil => rfl
    | cons t ts =>
      have bound := above t List.mem_cons_self
      rw [List.takeWhile_cons_of_neg]
      simp only [decide_eq_true_eq]
      omega
  have same : before ++ s :: behind = (before ++ [s]) ++ behind := by simp
  rw [harmlessName_succ, split, same, List.takeWhile_append_of_pos (by simpa using first), rest, List.append_nil]

variable (clean : CleanAt scope names before ρ)

include clean

section

variable (above : start s ≤ start call)

include above

theorem Traceable.built_given (simple : s.blocks = []) (tracked : v ∈ names)
    (judged : judgedAfter scope fuel v (before ++ [s]) = .ok true) (looked : s.assigned [] v = .ok (.one e)) :
    Built ρ e := by
  have mem : s ∈ scope.block := by simp [split]
  rcases judgedAfter_concat judged with ⟨unchanged, -⟩ | becomes
  · obtain ⟨a, again, none⟩ := of_unchanged unchanged
    rw [looked] at again
    cases again
    cases none
  · rcases of_becomes (σ := ρ) becomes with ⟨_, again, built⟩ | ⟨_, again, -⟩ <;> rw [looked] at again <;>
      cases again
    apply built
    constructor
    · intro n l within line
      apply traceable.flat s mem above simple v tracked ⟨e, looked⟩ n l _ line
      exact (inside_of_assigned looked).trans within
    · intro fuel w rests harmless
      have known := traceable.closed s mem above v tracked _ looked e (List.mem_singleton_self e) w rests
      cases fuel with
      | zero => cases harmless
      | succ fuel =>
        rw [traceable.harmlessName_start split] at harmless
        exact clean fuel w known harmless

variable (passed : PassesAll before σ ρ)

include passed

theorem Traceable.clean_entry (tracked : v ∈ names) (judged : judgedAfter scope fuel v (before ++ [s]) = .ok true)
    (other : ¬ (s.blocks = [] ∧ ∃ e, s.gift? v = some (.value e))) : v ∉ ρ := by
  rcases judgedAfter_concat judged with ⟨-, kept⟩ | becomes
  · exact clean fuel v tracked kept
  · have given : ∃ a, s.assigned [] v = .ok a ∧ a.toList ≠ [] := by
      rcases of_becomes (σ := σ) becomes with ⟨e, looked, -⟩ | ⟨ns, looked, some_, -⟩
      · exact ⟨.one e, looked, List.cons_ne_nil _ _⟩
      · exact ⟨.several ns, looked, some_⟩
    rcases traceable.entered before s behind split above v tracked ⟨given, other⟩ with harmless | ⟨unset, leaves⟩
    · rw [depth, traceable.harmlessName_start split] at harmless
      exact clean _ v tracked harmless
    · apply not_mem_of_passesAll _ leaves passed unset
      intro t mem p piece
      exact traceable.seen t (by simp [split, mem]) ((traceable.start_lt split t mem).le.trans above) p piece v tracked

theorem Traceable.clean_meets (compound : s.blocks ≠ [])
    (meets : Meets s ρ ξ) : CleanAt scope names (before ++ [s]) ξ := by
  have mem : s ∈ scope.block := by simp [split]
  have seen := traceable.seen s mem above
  induction meets with
  | refl =>
    intro fuel v tracked judged
    exact traceable.clean_entry split clean above passed tracked judged fun plain => compound plain.1
  | tail _ step ih =>
    obtain ⟨p, piece, rfl⟩ := step
    intro fuel v tracked judged
    apply (seen p piece v tracked).not_mem_after (ih fuel v tracked judged)
    intro e given
    rcases judgedAfter_concat judged with ⟨unchanged, -⟩ | becomes
    · obtain ⟨a, looked, none⟩ := of_unchanged unchanged
      have there := mem_assigned (fun q within => seen q within v tracked) looked piece given
      rw [none] at there
      cases there
    · rcases of_becomes (σ := σ) becomes with ⟨_, looked, -⟩ | ⟨ns, looked, -, harmless⟩
      · obtain ⟨block, within⟩ := List.exists_mem_of_ne_nil _ compound
        obtain ⟨ns, _, same, -⟩ := exists_of_blocks (seen s (by simp [pieces_eq]) v tracked) looked within
        cases same
      · have there : e ∈ ns := mem_assigned (fun q within => seen q within v tracked) looked piece given
        rcases harmless e there with ⟨span, t, rfl⟩ | ⟨span, w, _, rfl, -⟩
        · exact .text
        · have known : w ∈ names := traceable.closed s mem above v tracked _ looked _ there w .name
          have behindIt := traceable.handed s mem above compound v tracked _ looked span w _ there
          have below : ∀ t ∈ behind, start s + 1 ≤ start t := (traceable.spaced before s behind split).1
          rw [depth, traceable.harmlessName_behind split (Nat.lt_succ_self _) below] at behindIt
          exact .name (ih _ w known behindIt)

theorem Traceable.clean_after (simple : s.blocks = []) : CleanAt scope names (before ++ [s]) (s.after ρ) := by
  intro fuel v tracked judged
  have seen := traceable.seen s (by simp [split]) above s (by simp [pieces_eq]) v tracked
  have built : ∀ e, s.assigned [] v = .ok (.one e) → Built ρ e := by
    intro e looked
    exact traceable.built_given split clean above simple tracked judged looked
  by_cases plain : ∃ e, s.gift? v = some (.value e)
  · obtain ⟨e, given⟩ := plain
    obtain ⟨-, ⟨none, -⟩ | ⟨value, looked, same | same⟩⟩ := seen
    · rw [none] at given
      cases given
    · simp [after, same, built value looked]
    · rw [same] at given
      cases given
  · exact seen.not_mem_after
      (traceable.clean_entry split clean above passed tracked judged fun both => plain both.2) built

end

theorem Traceable.clean_level (same : start s = start call)
    (harmless : harmlessName [] scope depth x (start call) = .ok true)
    (arrived : if s.blocks = [] then ξ = ρ else Meets s ρ ξ) : x ∉ ξ := by
  have mem : s ∈ scope.block := by simp [split]
  have entry : x ∉ ρ := by
    rw [depth, ← same, traceable.harmlessName_start split] at harmless
    exact clean _ x traceable.member harmless
  split at arrived
  · rw [arrived]
    exact entry
  · rename_i compound
    apply not_mem_of_meets _ (traceable.headed s mem compound same) arrived entry
    intro p piece
    exact traceable.seen s mem same.le p piece x traceable.member

theorem Traceable.clean_below (below : start s < start call) (within : s.Inside call)
    (line : call.line? = some (start call)) (above : ∀ t ∈ behind, start call < start t)
    (passed : PassesAll before σ ρ) (harmless : harmlessName [] scope depth x (start call) = .ok true)
    (arrived : if s.blocks = [] then ξ = ρ else Meets s ρ ξ) : x ∉ ξ := by
  have mem : s ∈ scope.block := by simp [split]
  rw [depth, traceable.harmlessName_behind split below fun t there => (above t there).le] at harmless
  split at arrived
  · rename_i simple
    rw [arrived]
    apply traceable.clean_entry split clean below.le passed traceable.member harmless
    rintro ⟨-, e, given⟩
    obtain ⟨-, ⟨none, -⟩ | ⟨value, looked, -⟩⟩ :=
      traceable.seen s mem below.le s (by simp [pieces_eq]) x traceable.member
    · rw [none] at given
      cases given
    -- A statement that gives the name something stands on one line, but the call is further down.
    · have level := traceable.flat s mem below.le simple x traceable.member ⟨value, looked⟩ call _ within line
      omega
  · rename_i compound
    exact traceable.clean_meets split clean below.le passed compound arrived _ x traceable.member harmless

end

include traceable

theorem Traceable.clean_passesAll {before behind : List Node} (split : scope.block = before ++ behind)
    (first : ∀ t ∈ before, start t ≤ start call)
    {ρ : Store} (passed : PassesAll before σ ρ) : CleanAt scope names before ρ := by
  induction before using List.reverseRecOn generalizing behind ρ with
  | nil =>
    intro fuel v tracked judged
    unfold judgedAfter at judged
    split at judged <;> cases judged
  | append_singleton before s ih =>
    rw [List.append_assoc, List.singleton_append] at split
    rw [List.forall_mem_append, List.forall_mem_singleton] at first
    obtain ⟨ξ, front, last⟩ := passesAll_concat passed
    have clean := ih split first.1 front
    unfold Passes at last
    split at last
    · rename_i simple
      rw [last]
      exact traceable.clean_after split clean first.2 front simple
    · rename_i compound
      exact traceable.clean_meets split clean first.2 front compound last

theorem Traceable.clean_reaches (line : call.line? = some (start call))
    (harmless : harmlessName [] scope depth x (start call) = .ok true) {τ : Store} (reached : Reaches scope.block call σ τ) : x ∉ τ := by
  obtain ⟨before, s, behind, ρ, split, passed, p, piece, evaluates, ξ, arrived, bound⟩ := reached
  have within : s.Inside call := (inside_of_mem_pieces piece).trans evaluates.inside
  obtain ⟨below, above⟩ := (traceable.spaced before s behind split).2 call _ within line
  have first : ∀ t ∈ before, start t ≤ start call := by
    intro t mem
    exact (traceable.start_lt split t mem).le.trans below
  have clean := traceable.clean_passesAll split first passed
  have here : x ∉ ξ := by
    rcases below.eq_or_lt with same | lower
    · exact traceable.clean_level split clean same harmless arrived
    · exact traceable.clean_below split clean lower within line above passed harmless arrived
  intro there
  rcases bound x there with held | besides
  · exact here held
  · exact (traceable.seen s (by simp [split]) below p piece x traceable.member).1 besides

end

end MarkSafe

namespace Rule

variable {c : Context} {span place : Span} {func : Node} {x : String} {others keywords : List Node}

theorem harmless_of_quiet (site : c.Calls span func (.name place x ctx :: others) keywords)
    (imported : c.importsLike "django.utils.safestring")
    (called : c.name.any markSafeFunctions.contains) {settings : Value}
    (quiet : djangoMarkSafe.run c settings = .ok none) :
    MarkSafe.harmlessName [] c.scope MarkSafe.depth x span.line = .ok true := by
  dsimp only [djangoMarkSafe, plain] at quiet
  rw [site.callParts, site.theNode, imported, called] at quiet
  obtain ⟨_, same, quiet⟩ := bind_eq_ok.mp quiet
  cases same
  obtain ⟨_, same, quiet⟩ := bind_eq_ok.mp quiet
  cases same
  obtain ⟨safe, harmless, unreported⟩ := bind_eq_ok.mp quiet
  cases safe with
  | false => cases unreported
  | true => exact harmless

/-- Where a name can be traced and the call that marks it as safe is unreported, it holds text put together from
literals only, on every way to the call. -/
theorem built_of_unreported (site : c.Calls span func (.name place x ctx :: others) keywords)
    (imported : c.importsLike "django.utils.safestring" = true)
    (called : c.name.any markSafeFunctions.contains = true) {settings : Value}
    (quiet : djangoMarkSafe.run c settings = .ok none) {names : Set String} {σ : Store}
    (traceable : MarkSafe.Traceable c.scope (.call span func (.name place x ctx :: others) keywords) x names σ)
    (τ : Store)
    (reached : Reaches c.scope.block (.call span func (.name place x ctx :: others) keywords) σ τ) :
    Built τ (.name place x ctx) :=
  .name (traceable.clean_reaches rfl (harmless_of_quiet site imported called quiet) reached)

/-! ### Text that grows in a loop -/

def onLine (l : Nat) : Span := ⟨l, 0, l, 0⟩

def marking (l : Nat) : Node := .call (onLine l) (.name (onLine l) "mark_safe" .load) [.name (onLine l) "x" .load] []

def markingAfter (before : List Node) (l : Nat) : Context where
  node := some (marking l)
  call := some (marking l)
  qualname := some "django.utils.safestring.mark_safe"
  name := some "mark_safe"
  imports := some ["django.utils.safestring.mark_safe"]
  ancestors := [⟨.exprStmt (onLine l) (marking l), 0⟩, ⟨.module (before ++ [.exprStmt (onLine l) (marking l)]), 0⟩]

def addition (l : Nat) : Node :=
  .augAssign (onLine l) (.name (onLine l) "x" .store) (.operator .add) (.constant (onLine l) (.text "b"))

def growth : List Node :=
  [.assign (onLine 1) [.name (onLine 1) "x" .store] (.constant (onLine 1) (.text "a")),
    .forLoop (onLine 2) false (.name (onLine 2) "i" .store) (.name (onLine 2) "n" .load) [addition 3] []]

theorem split_three {a b c s : Node} {before behind : List Node} (split : [a, b, c] = before ++ s :: behind) :
    before = [] ∧ s = a ∧ behind = [b, c] ∨ before = [a] ∧ s = b ∧ behind = [c] ∨
      before = [a, b] ∧ s = c ∧ behind = [] := by
  rcases before with - | ⟨_, - | ⟨_, - | ⟨_, _⟩⟩⟩ <;> simp_all

theorem spaced_growth (before : List Node) (s : Node) (behind : List Node)
    (split : (markingAfter growth 4).scope.block = before ++ s :: behind) :
    (∀ t ∈ behind, MarkSafe.start s < MarkSafe.start t) ∧
      ∀ n l, s.Inside n → n.line? = some l → MarkSafe.start s ≤ l ∧ ∀ t ∈ behind, l < MarkSafe.start t := by
  have within : Node.endsBy 4 s = true ∧ (∀ t ∈ behind, MarkSafe.start s < MarkSafe.start t) ∧
      ∀ n ∈ Node.nodesTo 4 s, ∀ l ∈ n.line?, MarkSafe.start s ≤ l ∧ ∀ t ∈ behind, l < MarkSafe.start t := by
    rcases split_three split with ⟨rfl, rfl, rfl⟩ | ⟨rfl, rfl, rfl⟩ | ⟨rfl, rfl, rfl⟩ <;> decide
  exact ⟨within.2.1, fun n l way line => within.2.2 n (Node.mem_nodesTo within.1 way) l line⟩

theorem seen_growth : ∀ s ∈ (markingAfter growth 4).scope.block, ∀ p ∈ s.pieces, p.Seen "x" := by
  intro s there p piece
  constructor
  · have facts : Node.endsBy 4 p = true ∧
        (∀ h ∈ p.heads, Node.endsBy 4 h = true ∧ ∀ m ∈ Node.nodesTo 4 h, m.binds "x" = false) ∧
        ∀ m ∈ Node.nodesTo 4 p, m.shares "x" = false := by
      revert p s
      decide +kernel
    exact Node.not_bindsWithin facts.1 facts.2.1 facts.2.2
  · have met : p ∈ (markingAfter growth 4).scope.block.flatMap Node.pieces := List.mem_flatMap.mpr ⟨s, there, piece⟩
    rcases met with _ | ⟨_, _ | ⟨_, _ | ⟨_, _ | ⟨_, ⟨⟩⟩⟩⟩⟩
    · exact .inr ⟨_, rfl, .inl rfl⟩
    · exact .inl ⟨rfl, rfl⟩
    · exact .inr ⟨_, rfl, .inr rfl⟩
    · exact .inl ⟨rfl, rfl⟩

theorem traceable_growth : MarkSafe.Traceable (markingAfter growth 4).scope (marking 4) "x" {"x"} Set.univ where
  member := rfl
  spaced := spaced_growth
  seen s there _ p piece v is := by
    cases is
    exact seen_growth s there p piece
  closed s there _ v is a looked e given w rests := by
    cases is
    have text : e = .constant (onLine 1) (.text "a") ∨ e = .constant (onLine 3) (.text "b") := by
      rcases there with _ | ⟨_, _ | ⟨_, _ | ⟨_, ⟨⟩⟩⟩⟩ <;> cases looked
      · exact .inl (List.mem_singleton.mp given)
      · exact .inr (List.mem_singleton.mp given)
      · cases given
    rcases text with rfl | rfl <;> cases rests <;> contradiction
  flat s there _ simple v is one n l way line := by
    have within : ∀ s ∈ (markingAfter growth 4).scope.block, Node.endsBy 4 s = true ∧
        ∀ n ∈ Node.nodesTo 4 s, ∀ l ∈ n.line?, s.blocks = [] → l = MarkSafe.start s := by
      decide
    exact (within s there).2 n (Node.mem_nodesTo (within s there).1 way) l line simple
  entered before s behind split _ v is partly := by
    cases is
    rcases split_three split with ⟨rfl, rfl, rfl⟩ | ⟨rfl, rfl, rfl⟩ | ⟨rfl, rfl, rfl⟩
    · exact absurd ⟨rfl, _, rfl⟩ partly.2
    · exact .inl rfl
    · obtain ⟨⟨a, looked, some_⟩, -⟩ := partly
      cases looked
      exact absurd rfl some_
  handed s there _ compound v is a looked span w ctx given := by
    cases is
    rcases there with _ | ⟨_, _ | ⟨_, _ | ⟨_, ⟨⟩⟩⟩⟩ <;> cases looked <;> simp [Assigned.toList] at given
  headed s there compound same := by
    rcases there with _ | ⟨_, _ | ⟨_, _ | ⟨_, ⟨⟩⟩⟩⟩ <;> first | exact absurd rfl compound | cases same

theorem growth_is_built : djangoMarkSafe.run (markingAfter growth 4) .null = .ok none ∧
    ∀ τ, Reaches (markingAfter growth 4).scope.block (marking 4) Set.univ τ → Built τ (.name (onLine 4) "x" .load) :=
  have site : (markingAfter growth 4).Calls (onLine 4) (.name (onLine 4) "mark_safe" .load)
      [.name (onLine 4) "x" .load] [] :=
    ⟨rfl, rfl, ⟨_, rfl⟩, ⟨_, rfl⟩⟩
  have quiet : djangoMarkSafe.run (markingAfter growth 4) .null = .ok none := rfl
  ⟨quiet, built_of_unreported site (by decide +kernel) (by decide +kernel) quiet traceable_growth⟩

/-! ### What an addition hides -/

def foreign : List Node :=
  [.assign (onLine 1) [.name (onLine 1) "x" .store] (.call (onLine 1) (.name (onLine 1) "f" .load) [] []), addition 2]

/-- Only what is put behind the text is judged, so foreign text is marked as safe. -/
theorem addition_hides_foreign : djangoMarkSafe.run (markingAfter foreign 3) .null = .ok none ∧
    ∃ τ, Reaches (markingAfter foreign 3).scope.block (marking 3) ∅ τ ∧ ¬ Built τ (.name (onLine 3) "x" .load) := by
  constructor
  · rfl
  · have stored : ¬ Built ∅ (.call (onLine 1) (.name (onLine 1) "f" .load) [] []) := by
      intro built
      cases built <;> contradiction
    -- There is one way only, and the name is given what the call gives and keeps it.
    let τ : Store := (addition 2).after ((Node.assign (onLine 1) [.name (onLine 1) "x" .store]
      (.call (onLine 1) (.name (onLine 1) "f" .load) [] [])).after ∅)
    have arrives : Arrives (.exprStmt (onLine 3) (marking 3)) (marking 3) τ τ :=
      ⟨_, List.mem_cons_self, ⟨_, List.mem_cons_self, .refl⟩, τ, rfl, fun v held => .inl held⟩
    have reaches : Reaches (markingAfter foreign 3).scope.block (marking 3) ∅ τ :=
      ⟨foreign, _, [], τ, rfl, ⟨_, rfl, _, rfl, rfl⟩, arrives⟩
    refine ⟨τ, reaches, fun built => ?_⟩
    cases built with
    | name clean => exact clean (.inl stored)
    | format filled => cases filled
    | spread items => cases items

end Rule

end SourceAudit
