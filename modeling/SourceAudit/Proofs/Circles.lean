import SourceAudit.Proofs.Tracing

/-! Whether tracing text back comes to an end. Where a value is broken over lines, a name can lead back to itself. -/

namespace SourceAudit

open List

variable {func s : Node} {keywords : List Node} {q' : String × Nat} {chain : Nat → String × Nat}

variable {args elts ns : List Node} {judge : Node → Answer Bool} {n : Node} {line : Nat} {q : String × Nat}
  {span : Span} {v : String}

namespace MarkSafe

open Node

variable {α β : Type} {scope : Node}

/-! ### Answers that no longer change -/

/-- From some depth on there is an answer, always the same, and it is not that the depth is too small. -/
def Settles (ask : Nat → Answer α) : Prop :=
  ∃ fuel answer, answer ≠ .error .endless ∧ ∀ more, fuel ≤ more → ask more = answer

theorem Settles.of_const {answer : Answer α} (ended : answer ≠ .error .endless) : Settles fun _ => answer :=
  ⟨0, answer, ended, fun _ _ => rfl⟩

theorem Settles.ok (a : α) : Settles fun _ => .ok a := .of_const nofun

theorem Settles.of_succ {ask next : Nat → Answer α} (step : ∀ fuel, ask (fuel + 1) = next fuel)
    (settles : Settles next) : Settles ask := by
  obtain ⟨fuel, answer, ended, same⟩ := settles
  refine ⟨fuel + 1, answer, ended, fun more deep => ?_⟩
  obtain ⟨_, rfl⟩ := Nat.exists_eq_add_of_le' deep
  rw [← Nat.add_assoc, step]
  exact same _ (Nat.le_add_left _ _)

variable {ask : Nat → Answer α}

theorem Settles.bind {next : Nat → α → Answer β} (first : Settles ask)
    (rest : ∀ a, Settles fun fuel => next fuel a) : Settles fun fuel => ask fuel >>= next fuel := by
  obtain ⟨fuel, answer, ended, same⟩ := first
  cases answer with
  | error e =>
    refine ⟨fuel, .error e, ?_, fun more deep => ?_⟩
    · intro endless
      cases endless
      exact ended rfl
    · change ask more >>= next more = _
      rw [same more deep]
      rfl
  | ok a =>
    obtain ⟨further, result, done, still⟩ := rest a
    refine ⟨max fuel further, result, done, fun more deep => ?_⟩
    change ask more >>= next more = _
    rw [same more (by omega)]
    exact still more (by omega)

theorem Settles.map (g : α → β) (settles : Settles ask) : Settles fun fuel => g <$> ask fuel := by
  have bound := settles.bind fun a => Settles.ok (g a)
  obtain ⟨fuel, answer, ended, same⟩ := bound
  refine ⟨fuel, answer, ended, fun more deep => ?_⟩
  rw [← same more deep]
  cases ask more <;> rfl

theorem settles_settleAll {judge : Nat → Node → Answer Verdict} (each : ∀ n ∈ ns, Settles fun fuel => judge fuel n)
    (known : Bool) : Settles fun fuel => settleAll (judge fuel) known ns := by
  induction ns generalizing known with
  | nil => exact .ok known
  | cons n ns ih =>
    rw [forall_mem_cons] at each
    refine each.1.bind fun verdict => ?_
    cases verdict with
    | unchanged => exact ih each.2 known
    | becomes harmless => exact ih each.2 harmless
    | lost => exact .ok false

theorem settles_findAnswer {ask : Nat → α → Answer Bool} {items : List α}
    (each : ∀ a ∈ items, Settles fun fuel => ask fuel a) : Settles fun fuel => findAnswer (ask fuel) items := by
  induction items with
  | nil => exact .ok none
  | cons a rest ih =>
    rw [forall_mem_cons] at each
    refine each.1.bind fun yes => ?_
    cases yes with
    | true => exact .ok (some a)
    | false => exact ih each.2

theorem settles_allHarmless {judge : Nat → Node → Answer Bool} {P : Node → Prop}
    (items : ∀ n elts, P n → spread? n = some elts → ∀ e ∈ elts, P e)
    (judged : ∀ n, P n → Settles fun fuel => judge fuel n) (all : ∀ a ∈ args, P a) :
    Settles fun fuel => allHarmless (judge fuel) args := by
  induction args using allHarmless.induct with
  | case1 =>
    simp only [allHarmless]
    exact .ok true
  | case2 n ns elts found ih =>
    rw [forall_mem_cons] at all
    -- the items are judged behind all other arguments, so what is known of them has to come along
    simp only [allHarmless_of_spread found]
    exact ih (forall_mem_append.mpr ⟨all.2, items n elts all.1 found⟩)
  | case3 n ns single ih =>
    rw [forall_mem_cons] at all
    simp only [allHarmless_of_single single]
    refine (judged n all.1).bind fun yes => ?_
    cases yes with
    | true => exact ih all.2
    | false => exact .ok false

/-! ### What is asked -/

mutual

/-- The names, with their lines, that are looked up for something that is filled in at a line. -/
def asks (line : Nat) : Node → List (String × Nat)
  | .name _ id _ => [(id, line)]
  | .call span (.attr _ template "format" _) args [] => if template.isText then asksAny span.line args else []
  | .starred _ (.list _ elts _) _ => asksAny line elts
  | .starred _ (.tuple _ elts _) _ => asksAny line elts
  | _ => []

def asksAny (line : Nat) : List Node → List (String × Nat)
  | [] => []
  | n :: ns => asks line n ++ asksAny line ns

end

def asksAlone : Node → List (String × Nat)
  | .name span id _ => [(id, span.line)]
  | n@(.call span ..) => asks span.line n
  | _ => []

def asksAmong (line : Nat) : Node → List (String × Nat)
  | .name _ id _ => [(id, line)]
  | _ => []

def asksIn (s : Node) (v : String) : List (String × Nat) :=
  match s.assigned [] v with
  | .ok (.one n) => asksAlone n
  | .ok (.several ns) => ns.flatMap (asksAmong (start s))
  | _ => []

/-- The names that the statements above a line lead to from a name. -/
def references (scope : Node) (q : String × Nat) : List (String × Nat) :=
  if scope.parameterNames.contains q.1 then []
  else (scope.block.takeWhile fun s => decide ((start s : Int) < q.2)).flatMap fun s => asksIn s q.1

/-- The names with which tracing begins. -/
def openings (call argument : Node) : List (String × Nat) :=
  match argument with
  | .name _ id _ => [(id, start call)]
  | .call span .. => asks span.line argument
  | .binOp span left (.operator .mod) right =>
    if left.isText then asksAny span.line (match right with | .tuple _ elts _ => elts | n => [n]) else []
  | _ => []

theorem mem_asksAny : q ∈ asksAny line ns ↔ ∃ n ∈ ns, q ∈ asks line n := by
  induction ns with
  | nil => simp [asksAny]
  | cons n ns ih => simp [asksAny, ih]

theorem asks_of_spread (items : spread? n = some elts) (line : Nat) : asks line n = asksAny line elts := by
  unfold spread? at items
  split at items <;> cases items <;> rw [asks]

theorem asks_of_filled {given : List Node}
    (filled : filledIn? (.call span func args keywords) = some given) (line : Nat) :
    asks line (.call span func args keywords) = asksAny span.line given := by
  unfold filledIn? at filled
  split at filled
  · rename_i same
    cases same
    split at filled
    · rename_i text
      cases filled
      rw [asks, if_pos text]
    · cases filled
  · cases filled

theorem sizeOf_lt_of_filled {a : Node} (filled : filledIn? n = some args) (mem : a ∈ args) : sizeOf a < sizeOf n := by
  have small := sizeOf_lt_of_mem mem
  unfold filledIn? at filled
  split at filled
  · split at filled
    · cases filled
      simp only [call.sizeOf_spec]
      omega
    · cases filled
  · cases filled

theorem sizeOf_lt_of_spread {e : Node} (items : spread? n = some elts) (mem : e ∈ elts) : sizeOf e < sizeOf n := by
  have small := sizeOf_lt_of_mem mem
  unfold spread? at items
  split at items <;> cases items <;> simp <;> omega

/-! ### Statements never fail for lack of depth -/

theorem Settles.ne_endless {answer : Answer α} (settles : Settles fun _ => answer) : answer ≠ .error .endless := by
  obtain ⟨fuel, _, ended, is⟩ := settles
  exact (is fuel (Nat.le_refl fuel)).trans_ne ended

theorem pairedItem_ne_endless (v : String) (targets values : List Node) :
    pairedItem v targets values ≠ .error .endless := by
  fun_induction pairedItem v targets values with
  | case1 | case2 | case3 | case5 => nofun
  | case4 _ _ _ _ _ _ ih => exact ih

theorem assignedTarget_ne_endless (v : String) (targets : List Node) (value : Node) :
    assignedTarget v targets value ≠ .error .endless := by
  unfold assignedTarget
  split
  · nofun
  · split
    · exact pairedItem_ne_endless _ _ _
    · nofun
  · nofun

theorem assigned_withStmt (items body : List Node) : (withStmt span false items body).assigned [] v =
    match items.getLast? with
    | none => .ok .nothing
    | some last =>
      let given found := if last.bindsName v then .one (withStmt span false items body) else .several found
      if items.all (bindsName v) then .ok (given []) else assignedIn [] v body >>= fun found => .ok (given found) := rfl

theorem withStmt_settles {items body : List Node} (inside : Settles fun _ => assignedIn [] v body) :
    Settles fun _ => (withStmt span false items body).assigned [] v := by
  rw [assigned_withStmt]
  cases items.getLast? with
  | none => exact .ok Assigned.nothing
  | some last =>
    by_cases all : items.all (bindsName v) = true
    · simp only [if_pos all]
      exact .ok _
    · simp only [if_neg all]
      exact inside.bind fun found => .ok _

mutual

theorem assigned_settles (v : String) (n : Node) : Settles fun _ => n.assigned [] v := by
  cases n with
  | exprStmt span value => exact assigned_settles v value
  | functionDef span async name parameters body decorators returns =>
    cases async with
    | true => exact .ok Assigned.nothing
    | false => exact (assignedIn_settles v body).map Assigned.several
  | withStmt span async items body =>
    cases async with
    | true => exact .ok Assigned.nothing
    | false => exact withStmt_settles (assignedIn_settles v body)
  | tryStmt span star body handlers orelse finalbody =>
    cases star with
    | true => exact .ok Assigned.nothing
    | false =>
      exact (assignedIn_settles v body).bind fun _ => (assignedIn_settles v handlers).bind fun _ =>
        (assignedIn_settles v orelse).bind fun _ => (assignedIn_settles v finalbody).bind fun _ => .ok _
  | exceptHandler span type name body => exact (assignedIn_settles v body).map Assigned.several
  | forLoop span async target iter body orelse =>
    cases async with
    | true => exact .ok Assigned.nothing
    | false => exact (assignedIn_settles v body).bind fun _ => (assignedIn_settles v orelse).bind fun _ => .ok _
  | ifStmt span test body orelse | whileLoop span test body orelse =>
    exact (assignedIn_settles v body).bind fun _ => (assignedIn_settles v orelse).bind fun _ => .ok _
  | augAssign span target op value =>
    cases target with
    | name place id => exact .ok _
    | _ => exact .ok Assigned.nothing
  | assign span targets value => exact .of_const (assignedTarget_ne_endless v targets value)
  | _ => exact .ok Assigned.nothing
termination_by sizeOf n

theorem assignedIn_settles (v : String) (ns : List Node) : Settles fun _ => assignedIn [] v ns := by
  cases ns with
  | nil => exact .ok []
  | cons n ns => exact (assigned_settles v n).bind fun a => (assignedIn_settles v ns).bind fun rest => .ok _
termination_by sizeOf ns

end

/-! ### Where tracing ends -/

def Answerable (scope : Node) (q : String × Nat) : Prop := Settles fun fuel => harmlessName [] scope fuel q.1 q.2

theorem settles_filledIn {line : Int}
    (filled : ∀ args, filledIn? n = some args → Settles fun fuel => harmlessCall [] scope fuel line (some args)) :
    Settles fun fuel => harmlessCall [] scope fuel line (filledIn? n) := by
  cases given : filledIn? n with
  | none => exact .of_succ (fun _ => harmlessCall.eq_2 ..) (.ok false)
  | some args => exact filled args given

theorem settles_fillings (size : Nat) : ∀ (line : Nat) (args : List Node),
    (∀ a ∈ args, sizeOf a < size ∧ ∀ q ∈ asks line a, Answerable scope q) →
    Settles fun fuel => harmlessCall [] scope fuel line (some args) := by
  -- the induction is for nested calls, whose arguments are smaller than the call
  induction size using Nat.strong_induction_on with
  | _ size ih =>
    intro line args all
    refine .of_succ (fun fuel => harmlessCall_succ [] scope fuel line args) (settles_allHarmless ?_ ?_ all)
    · rintro n elts ⟨small, answered⟩ items e mem
      refine ⟨(sizeOf_lt_of_spread items mem).trans small, fun q asked => answered q ?_⟩
      rw [asks_of_spread items]
      exact mem_asksAny.mpr ⟨e, mem, asked⟩
    · rintro n ⟨small, answered⟩
      cases n with
      | constant span c =>
        cases c with
        | text t => exact .ok true
        | _ => exact .ok false
      | name span id => exact answered (id, line) (by simp [asks])
      | call span func given keywords =>
        refine settles_filledIn fun args filled => ih _ small span.line args fun a mem => ?_
        refine ⟨sizeOf_lt_of_filled filled mem, fun q asked => answered q ?_⟩
        rw [asks_of_filled filled]
        exact mem_asksAny.mpr ⟨a, mem, asked⟩
      | _ => exact .ok false

theorem settles_harmlessCall (answered : ∀ q ∈ asksAny line args, Answerable scope q) :
    Settles fun fuel => harmlessCall [] scope fuel line (some args) := by
  refine settles_fillings (sizeOf args) line args fun a mem => ?_
  exact ⟨sizeOf_lt_of_mem mem, fun q asked => answered q (mem_asksAny.mpr ⟨a, mem, asked⟩)⟩

theorem settles_call (answered : ∀ q ∈ asks line (.call span func args keywords), Answerable scope q) :
    Settles fun fuel => harmlessCall [] scope fuel span.line (filledIn? (.call span func args keywords)) := by
  refine settles_filledIn fun given filled => settles_harmlessCall fun q asked => answered q ?_
  rw [asks_of_filled filled]
  exact asked

theorem settles_verdictOnOne (answered : ∀ q ∈ asksAlone n, Answerable scope q) :
    Settles fun fuel => verdictOnOne (harmlessName [] scope fuel) (harmlessCall [] scope fuel) n := by
  cases n with
  | constant span c =>
    cases c with
    | text t => exact .ok (Verdict.becomes true)
    | _ => exact .ok Verdict.lost
  | name span id => exact (answered (id, span.line) (by simp [asksAlone])).map Verdict.becomes
  | call span func args keywords => exact (settles_call answered).map Verdict.becomes
  | _ => exact .ok Verdict.lost

theorem settles_verdictOn_several (answered : ∀ q ∈ ns.flatMap (asksAmong line), Answerable scope q) :
    Settles fun fuel => verdictOn (harmlessName [] scope fuel) (harmlessCall [] scope fuel) line (.several ns) := by
  cases ns with
  | nil => exact .ok Verdict.unchanged
  | cons first rest =>
    refine Settles.bind (settles_findAnswer fun n mem => ?_) fun bad => .ok _
    have named (q : String × Nat) (own : q ∈ asksAmong line n) : Answerable scope q :=
      answered q (mem_flatMap.mpr ⟨n, mem, own⟩)
    cases n with
    | constant span c =>
      cases c with
      | text t => exact .ok false
      | _ => exact .ok true
    | name span id => exact (named (id, line) (by simp [asksAmong])).map not
    | _ => exact .ok true

theorem settles_judgement (answered : ∀ q ∈ asksIn s v, Answerable scope q) :
    Settles fun fuel => judgement scope fuel v s := by
  have ended := (assigned_settles v s).ne_endless
  unfold asksIn at answered
  unfold judgement
  cases looked : s.assigned [] v with
  | error e =>
    rw [looked] at ended
    exact .of_const fun endless => ended (by cases endless; rfl)
  | ok a =>
    rw [looked] at answered
    cases a with
    | nothing => exact .ok Verdict.unchanged
    | one n => exact settles_verdictOnOne answered
    | several ns => exact settles_verdictOn_several answered

theorem answerable_of_acc (acc : Acc (fun q' q => q' ∈ references scope q) q) : Answerable scope q := by
  induction acc with
  | intro q _ ih =>
    refine .of_succ (fun fuel => harmlessName_succ fuel q.1 q.2) ?_
    unfold judgedAfter
    by_cases given : scope.parameterNames.contains q.1 = true
    · simp only [if_pos given]
      exact .ok false
    · simp only [if_neg given]
      refine settles_settleAll (fun s visible => settles_judgement fun q' asked => ih q' ?_) false
      unfold references
      rw [if_neg given]
      exact mem_flatMap.mpr ⟨s, visible, asked⟩

theorem settles_traced {call argument : Node} (answered : ∀ q ∈ openings call argument, Answerable scope q) :
    Settles fun fuel => traced fuel scope call argument := by
  cases argument with
  | name span id => exact answered (id, start call) (by simp [openings])
  | call span func args keywords => exact settles_call answered
  | binOp span left op right =>
    cases op with
    | operator op =>
      cases op with
      | mod =>
        unfold openings at answered
        unfold traced
        dsimp only at answered ⊢
        by_cases text : left.isText = true
        · rw [if_pos text] at answered
          simp only [if_pos text]
          exact settles_harmlessCall answered
        · simp only [if_neg text]
          exact .ok false
      | _ => exact .ok false
    | _ => exact .ok false
  | _ => exact .ok false

/-! ### Lines that fall -/

/-- What a statement gives to a name is looked up no later than on its first line. -/
def Compact (scope : Node) : Prop :=
  ∀ s ∈ scope.block, ∀ v n, s.assigned [] v = .ok (.one n) → ∀ q ∈ asksAlone n, q.2 ≤ start s

theorem lt_of_mem_references (compact : Compact scope) (referred : q' ∈ references scope q) : q'.2 < q.2 := by
  unfold references at referred
  split at referred
  · cases referred
  · obtain ⟨s, visible, asked⟩ := mem_flatMap.mp referred
    have above : start s < q.2 := by simpa using mem_takeWhile_imp visible
    have there : s ∈ scope.block := (takeWhile_sublist _).subset visible
    unfold asksIn at asked
    split at asked
    · rename_i n looked
      exact Nat.lt_of_le_of_lt (compact s there q.1 n looked q' asked) above
    · obtain ⟨n, _, own⟩ := mem_flatMap.mp asked
      unfold asksAmong at own
      split at own
      · cases mem_singleton.mp own
        exact above
      · cases own
    · cases asked

theorem acc_of_compact (compact : Compact scope) (q : String × Nat) : Acc (fun q' q => q' ∈ references scope q) q :=
  Subrelation.accessible (fun referred => lt_of_mem_references compact referred) ((measure Prod.snd).wf.apply q)

/-! ### Chains that never end -/

/-- The first statement above the line that gives the name anything gives it another name, looked up where it stands. -/
def Leads (scope : Node) (q q' : String × Nat) : Prop :=
  ∃ before s behind span ctx, scope.block = before ++ s :: behind ∧ scope.parameterNames.contains q.1 = false ∧
    (∀ p ∈ before ++ [s], start p < q.2) ∧ (∀ p ∈ before, ∃ a, p.assigned [] q.1 = .ok a ∧ a.toList = []) ∧
    s.assigned [] q.1 = .ok (.one (.name span q'.1 ctx)) ∧ span.line = q'.2

theorem settleAll_append_endless {judge : Node → Answer Verdict} {before behind : List Node}
    (unchanged : ∀ p ∈ before, judge p = .ok .unchanged) (endless : judge s = .error .endless) (known : Bool) :
    settleAll judge known (before ++ s :: behind) = .error .endless := by
  induction before with
  | nil =>
    rw [nil_append, settleAll, endless]
    rfl
  | cons p before ih =>
    rw [forall_mem_cons] at unchanged
    rw [cons_append, settleAll, unchanged.1]
    exact ih unchanged.2

theorem harmlessName_of_leads (leads : Leads scope q q') {fuel : Nat}
    (endless : harmlessName [] scope fuel q'.1 q'.2 = .error .endless) :
    harmlessName [] scope (fuel + 1) q.1 q.2 = .error .endless := by
  obtain ⟨before, s, behind, span, _, split, other, above, none, looked, line⟩ := leads
  have visible : (scope.block.takeWhile fun n => decide ((start n : Int) < q.2)) =
      before ++ s :: behind.takeWhile fun n => decide ((start n : Int) < q.2) := by
    rw [split, takeWhile_append_of_pos, takeWhile_cons_of_pos]
    · simpa using above s (by simp)
    · intro p mem
      simpa using above p (by simp [mem])
  -- what stands above the first gift changes nothing, so its question is reached whatever was known
  rw [harmlessName_succ, judgedAfter, other, visible]
  refine settleAll_append_endless (fun p mem => ?_) ?_ false
  · obtain ⟨a, given, empty⟩ := none p mem
    rw [judgement, given]
    cases a with
    | nothing => rfl
    | one n => cases empty
    | several ns =>
      cases empty
      rfl
  · rw [judgement, looked]
    change Verdict.becomes <$> harmlessName [] scope fuel q'.1 span.line = _
    rw [line, endless]
    rfl

theorem harmlessName_of_chain (leads : ∀ i, Leads scope (chain i) (chain (i + 1)))
    (fuel : Nat) : ∀ i, harmlessName [] scope fuel (chain i).1 (chain i).2 = .error .endless := by
  induction fuel with
  | zero => exact fun i => rfl
  | succ fuel ih => exact fun i => harmlessName_of_leads (leads i) (ih (i + 1))

/-- Tracing ends if no chain of references goes on forever, as where nothing is looked up below its statement's first
line. It never ends where first references lead on forever. -/
theorem traced_settles (scope call argument : Node) :
    ((∀ chain : Nat → String × Nat, chain 0 ∈ openings call argument →
        ∃ i, chain (i + 1) ∉ references scope (chain i)) → Settles fun fuel => traced fuel scope call argument) ∧
    (Compact scope → Settles fun fuel => traced fuel scope call argument) ∧
    ∀ chain : Nat → String × Nat, (∃ place ctx, argument = .name place (chain 0).1 ctx) → start call = (chain 0).2 →
      (∀ i, Leads scope (chain i) (chain (i + 1))) → ∀ fuel, traced fuel scope call argument = .error .endless := by
  refine ⟨fun finite => ?_, fun compact => ?_, ?_⟩
  · refine settles_traced fun q opening => answerable_of_acc ?_
    by_contra circular
    -- a name without an answer would start a chain that the assumption rules out
    obtain ⟨chain, first, next⟩ := not_acc_iff_exists_descending_chain.mp circular
    obtain ⟨i, stops⟩ := finite chain (first ▸ opening)
    exact stops (next i)
  · exact settles_traced fun q _ => answerable_of_acc (acc_of_compact compact q)
  · rintro chain ⟨place, ctx, rfl⟩ line leads fuel
    change harmlessName [] scope fuel (chain 0).1 (start call) = .error .endless
    rw [line]
    exact harmlessName_of_chain leads fuel 0

end MarkSafe

namespace Rule

open MarkSafe

def renewed : List Node :=
  [.assign (onLine 1) [.name (onLine 1) "x" .store] (.constant (onLine 1) (.text "a")),
    .assign (onLine 2) [.name (onLine 2) "x" .store] (.name (onLine 2) "x" .load)]

theorem eq_of_assigned {place : Span} {id : String} {value : Node}
    (looked : (Node.assign span [.name place id ctx] value).assigned [] v = .ok (.one n)) : n = value := by
  change Except.ok (if id == v then Assigned.one value else .nothing) = _ at looked
  split at looked <;> cases looked
  rfl

theorem compact_renewed : Compact (markingAfter renewed 3).scope := by
  intro s there v n looked q asked
  rcases there with _ | ⟨_, _ | ⟨_, _ | ⟨_, ⟨⟩⟩⟩⟩
  · cases eq_of_assigned looked
    cases asked
  · cases eq_of_assigned looked
    cases mem_singleton.mp asked
    decide
  · cases looked

theorem renewed_settles : djangoMarkSafe.run (markingAfter renewed 3) .null = .ok none ∧
    Settles fun fuel => traced fuel (markingAfter renewed 3).scope (marking 3) (.name (onLine 3) "x" .load) :=
  ⟨rfl, (traced_settles _ _ _).2.1 compact_renewed⟩

def broken : List Node := [.assign ⟨2, 0, 3, 6⟩ [.name (onLine 2) "x" .store] (.name (onLine 3) "x" .load)]

theorem leads_broken (l : Nat) (below : 2 < l) : Leads (markingAfter broken 4).scope ("x", l) ("x", 3) := by
  refine ⟨[], _, _, onLine 3, .load, rfl, rfl, ?_, nofun, rfl, rfl⟩
  intro p mem
  cases mem_singleton.mp mem
  exact below

/-- Seen from the second line of the value, the statement is one of those above. -/
theorem broken_endless : (∃ fault, djangoMarkSafe.run (markingAfter broken 4) .null = .error fault) ∧
    ∀ fuel, traced fuel (markingAfter broken 4).scope (marking 4) (.name (onLine 4) "x" .load) = .error .endless := by
  have endless (fuel : Nat) :
      traced fuel (markingAfter broken 4).scope (marking 4) (.name (onLine 4) "x" .load) = .error .endless := by
    cases fuel with
    | zero => rfl
    | succ fuel =>
      exact harmlessName_of_leads (leads_broken 4 (by decide))
        (harmlessName_of_chain (fun _ => leads_broken 3 (by decide)) fuel 0)
  have site : (markingAfter broken 4).Calls (onLine 4) (.name (onLine 4) "mark_safe" .load)
      [.name (onLine 4) "x" .load] [] :=
    ⟨rfl, rfl, ⟨_, rfl⟩, ⟨_, rfl⟩⟩
  refine ⟨fails_djangoMarkSafe site .null (by decide +kernel) (by decide +kernel) (.inr ?_), endless⟩
  exact ⟨_, _, .endless, rfl, rfl, endless depth⟩

end Rule

end SourceAudit
