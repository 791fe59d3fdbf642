import SourceAudit.Proofs.Provenance

/-! Asynchronous functions. No rule looks at one, so they lose the issues that plain functions themselves have. -/

namespace SourceAudit

open List

/-! ### Trees apart from which functions are asynchronous -/

namespace Node

mutual

/-- The tree with all functions in its blocks made plain. -/
def sync : Node → Node
  | module body => module (syncAll body)
  | functionDef span _ id args body decorators returns =>
    functionDef span false id args (syncAll body) decorators returns
  | classDef span id bases keywords body decorators => classDef span id bases keywords (syncAll body) decorators
  | forLoop span async target iter body orelse => forLoop span async target iter (syncAll body) (syncAll orelse)
  | whileLoop span test body orelse => whileLoop span test (syncAll body) (syncAll orelse)
  | ifStmt span test body orelse => ifStmt span test (syncAll body) (syncAll orelse)
  | withStmt span async items body => withStmt span async items (syncAll body)
  | matchStmt span subject cases => matchStmt span subject (syncAll cases)
  | tryStmt span star body handlers orelse finalbody =>
    tryStmt span star (syncAll body) (syncAll handlers) (syncAll orelse) (syncAll finalbody)
  | exceptHandler span type id body => exceptHandler span type id (syncAll body)
  | matchCase pattern guard body => matchCase pattern guard (syncAll body)
  | n => n

def syncAll : List Node → List Node
  | [] => []
  | n :: ns => n.sync :: syncAll ns

end

def blockKinds : List String :=
  ["Module", "FunctionDef", "AsyncFunctionDef", "ClassDef", "For", "AsyncFor", "While", "If", "With", "AsyncWith",
    "Match", "Try", "TryStar", "ExceptHandler", "match_case"]

def isAsync : Node → Bool
  | functionDef _ async .. => async
  | _ => false

theorem syncAll_eq (ns : List Node) : syncAll ns = ns.map sync := by
  induction ns with
  | nil => rfl
  | cons n ns ih => rw [syncAll, ih, map_cons]

theorem sync_or_block (n : Node) : n.sync = n ∨ n.kind ∈ blockKinds := by
  cases n with
  | functionDef _ async | forLoop _ async | withStmt _ async | tryStmt _ async =>
    cases async <;> simp [kind, blockKinds]
  | module | classDef | whileLoop | ifStmt | matchStmt | exceptHandler | matchCase =>
    simp [kind, blockKinds]
  | _ => exact .inl rfl

theorem sync_sync (n : Node) : n.sync.sync = n.sync := by
  refine sync.induct (fun n => n.sync.sync = n.sync) (fun ns => syncAll (syncAll ns) = syncAll ns) ?_ ?_ ?_ ?_ ?_ ?_ ?_
    ?_ ?_ ?_ ?_ ?_ ?_ ?_ n
  all_goals
    intros
    simp only [sync, syncAll, *]

theorem span_sync (n : Node) : n.sync.span? = n.span? := by cases n <;> rfl

theorem groups_sync (n : Node) :
    n.sync.groups.map (List.map (Option.map sync)) = n.groups.map (List.map (Option.map sync)) := by
  have again (ns : List Node) : (syncAll ns).map (Option.map sync ∘ some) = ns.map (Option.map sync ∘ some) := by
    simp [syncAll_eq, sync_sync]
  cases n with
  | module | functionDef | classDef | forLoop | whileLoop | ifStmt | withStmt | matchStmt | tryStmt | exceptHandler
  | matchCase => simp only [sync, groups, map_cons, map_nil, map_map, again]
  | _ => rfl

theorem map_withNext (h : Node → Node) (group : List (Option Node)) :
    (withNext group).map (Prod.map h (Option.map h)) = withNext (group.map (Option.map h)) := by
  fun_induction withNext group with
  | case1 => rfl
  | case2 rest ih => exact ih
  | case3 n rest ih =>
    rw [map_cons, map_cons, ih, Option.map_some, withNext]
    cases rest <;> rfl

theorem children_sync (n : Node) :
    n.sync.children.map (Prod.map sync (Option.map sync)) = n.children.map (Prod.map sync (Option.map sync)) := by
  simp only [children, map_flatMap, map_withNext, ← flatMap_map, groups_sync]

theorem lines_sync (n : Node) (next : Option Node) : n.sync.lines (next.map sync) = n.lines next := by
  have behind : (next.map sync).bind line? = next.bind line? := by
    cases next with
    | none => rfl
    | some m => exact congrArg (Option.map Span.line) m.span_sync
  rw [lines, lines, span_sync]
  cases spanned : n.span? with
  | some span => rfl
  | none =>
    have range : n.sync.headRange = n.headRange := by
      cases n with
      | matchStmt => cases spanned
      | _ => rfl
    simp only [partLines, reaching, range, behind]

end Node

def Context.synced (c : Context) : Context := { c with ancestors := c.ancestors.map (Ancestor.mapped Node.sync) }

namespace Stop

/-- The stop in the tree with all functions made plain. -/
def sync (s : Stop) : Stop := s.mapped Node.sync

theorem parent_sync (s : Stop) : s.sync.parent? = s.parent?.map Node.sync := by
  simp only [parent?, sync, mapped]
  cases s.visit.ancestors <;> rfl

theorem check_sync {s : Stop} (plain : s.visit.node.isAsync = false) : s.sync.check? = s.check? := by
  have shown : s.sync.visit.node = s.visit.node.sync := rfl
  rw [check?, check?, shown, parent_sync]
  cases node : s.visit.node with
  | functionDef span async =>
    rw [node] at plain
    rw [show async = false from plain]
    rfl
  | constant span value =>
    cases s.parent? with
    | none => rfl
    | some parent => cases parent <;> rfl
  | importFrom span module => cases module <;> rfl
  | _ => rfl

theorem lineRange_sync (s : Stop) : s.sync.checkedContext.lineRange = s.checkedContext.lineRange := by
  obtain ⟨⟨node, next, ancestors, _, _⟩, _⟩ := s
  have own := congrArg (fun l : List Nat => some (l.map Int.ofNat)) (node.lines_sync next)
  cases node with
  | functionDef span async => cases async <;> exact own
  | constant span value =>
    cases ancestors with
    | nil => cases value <;> exact own
    | cons a ancestors => exact congrArg (fun l : List Nat => some (l.map Int.ofNat)) (a.node.lines_sync none)
  | importFrom span module => cases module <;> exact own
  | _ => exact own

theorem checkedContext_sync {s : Stop} (plain : s.visit.node.isAsync = false) :
    s.sync.checkedContext = { s.checkedContext.synced with
      node := s.checkedContext.node.map Node.sync
      qualname := s.sync.checkedContext.qualname } := by
  rw [Context.synced, ← s.lineRange_sync]
  obtain ⟨⟨node, _, ancestors, _, _⟩, _⟩ := s
  cases node with
  | functionDef span async =>
    obtain rfl : async = false := plain
    rfl
  | constant span value => cases ancestors <;> cases value <;> rfl
  | importFrom span module => cases module <;> rfl
  | _ => rfl

theorem qualname_sync {s : Stop} (leaf : s.visit.node.kind ∉ Node.blockKinds) :
    s.sync.checkedContext.qualname = s.checkedContext.qualname := by
  obtain ⟨⟨node, _, ancestors, _, _⟩, _⟩ := s
  cases node with
  | functionDef span async => cases async <;> simp [Node.kind, Node.blockKinds] at leaf
  | constant span value => cases ancestors <;> cases value <;> rfl
  | importFrom span module => cases module <;> rfl
  | _ => rfl

theorem check_of_block {s : Stop} {check : String} (asked : s.check? = some check)
    (block : s.visit.node.kind ∈ Node.blockKinds) : check ∈ Node.blockKinds := by
  rw [check?] at asked
  cases node : s.visit.node with
  | classDef => rw [node] at asked; cases asked
  | importFrom | constant =>
    rw [node] at block
    simp [Node.kind, Node.blockKinds] at block
  | _ =>
    rw [node] at asked block
    exact Option.some.inj asked ▸ block

end Stop

/-! ### Rules that do not tell them apart -/

namespace Rule

theorem calledName_sync (n : Node) : n.sync.calledName = n.calledName := by cases n <;> rfl

theorem run_password_synced (c : Context) (settings : Value) :
    hardcodedPasswordString.run c.synced settings = hardcodedPasswordString.run c settings := by
  have around : (c.ancestors.map (Ancestor.mapped Node.sync)).map Ancestor.node =
      (c.ancestors.map Ancestor.node).map Node.sync := by
    rw [map_map, map_map]
    rfl
  have known : c.synced.theNode = c.theNode := rfl
  dsimp only [hardcodedPasswordString, plain]
  rw [known]
  dsimp only [Context.synced]
  cases c.theNode with
  | error fault => rfl
  | ok node =>
    dsimp only [bind, Except.bind]
    cases node.textOf? with
    | none => rfl
    | some t =>
      dsimp only
      rw [around]
      cases c.ancestors.map Ancestor.node with
      | nil => rfl
      | cons n outer =>
        cases n with
        | subscript =>
          cases outer with
          | nil => rfl
          | cons m outer =>
            cases m with
            | assign span targets value =>
              cases value with
              | constant span value => cases value <;> rfl
              | _ => rfl
            | _ => rfl
        | _ => rfl

theorem chainWrapper_synced (around : List Ancestor) :
    chainWrapper? (around.map (Ancestor.mapped Node.sync)) = (chainWrapper? around).map Node.sync := by
  induction around with
  | nil => rfl
  | cons a around ih =>
    obtain ⟨n, _⟩ := a
    cases n with
    | binOp => exact ih
    | _ => rfl

theorem chainAround_synced (around : List Ancestor) (inner : List Node) :
    Node.chainAround inner (around.map (Ancestor.mapped Node.sync)) = Node.chainAround inner around := by
  induction around generalizing inner with
  | nil => rfl
  | cons a around ih =>
    obtain ⟨n, _⟩ := a
    cases n with
    | binOp => exact ih _
    | _ => rfl

theorem assemblyOf_synced (node : Node) (t : Text) (around : List Ancestor) :
    assemblyOf node t (around.map (Ancestor.mapped Node.sync)) =
      { assemblyOf node t around with wrapper := (assemblyOf node t around).wrapper.map Node.sync } := by
  have first (rest : List Ancestor) : (rest.map (Ancestor.mapped Node.sync)).head?.map Ancestor.node =
      (rest.head?.map Ancestor.node).map Node.sync := by
    cases rest <;> rfl
  cases around with
  | nil => rfl
  | cons a rest =>
    obtain ⟨n, slot⟩ := a
    cases n with
    | binOp span left op right =>
      have wrapper := chainWrapper_synced (⟨.binOp span left op right, slot⟩ :: rest)
      rw [map_cons] at wrapper ⊢
      change assemblyOf node t (⟨.binOp span left op right, slot⟩ :: _) = _
      change chainWrapper? (⟨.binOp span left op right, slot⟩ :: _) = _ at wrapper
      simp only [assemblyOf, Node.outerChainText, chainAround_synced, wrapper]
    | attr span value id ctx =>
      change assemblyOf node t (⟨.attr span value id ctx, slot⟩ :: rest.map (Ancestor.mapped Node.sync)) = _
      simp only [assemblyOf, ← map_drop, first]
      split <;> rfl
    | joinedStr span values =>
      change assemblyOf node t (⟨.joinedStr span values, slot⟩ :: rest.map (Ancestor.mapped Node.sync)) = _
      simp only [assemblyOf, first]
      split <;> rfl
    | _ => rfl

theorem run_sql_synced (c : Context) (settings : Value) :
    hardcodedSql.run c.synced settings = hardcodedSql.run c settings := by
  have known : c.synced.theNode = c.theNode := rfl
  dsimp only [hardcodedSql, plain]
  rw [known]
  cases c.theNode with
  | error fault => rfl
  | ok node =>
    have assembled := assemblyOf_synced node (node.textOf?.getD []) c.ancestors
    dsimp only [bind, Except.bind]
    generalize assemblyOf node (node.textOf?.getD []) c.ancestors = a at assembled ⊢
    simp only [show c.synced.ancestors = c.ancestors.map (Ancestor.mapped Node.sync) from rfl, assembled]
    obtain ⟨_, wrapper, _⟩ := a
    cases wrapper with
    | none => rfl
    | some call => simp only [Option.map_some, calledName_sync]

/-- The rule finds the same where functions are plain, around a place and in the block of a place. -/
structure Unmoved (r : Rule) : Prop where
  around : ∀ c settings, r.run c.synced settings = r.run c settings
  block : (∃ check ∈ r.checks, check ∈ Node.blockKinds) → ∀ c qualname settings,
    r.run { c with node := c.node.map Node.sync, qualname } settings = r.run c settings

theorem unmoved_passwordDefault : hardcodedPasswordDefault.Unmoved where
  around _ _ := rfl
  block _ c qualname settings := by
    dsimp only [hardcodedPasswordDefault, plain]
    cases c.node with
    | none => rfl
    | some n => cases n <;> rfl

theorem unmoved_badDefaults : sslWithBadDefaults.Unmoved where
  around _ _ := rfl
  block _ c qualname settings := by
    have names : Context.defaultNames { c with node := c.node.map Node.sync, qualname } = c.defaultNames := by
      dsimp only [Context.defaultNames]
      cases c.node with
      | none => rfl
      | some n =>
        cases n with
        | functionDef span async id args => cases args <;> rfl
        | _ => rfl
    dsimp only [sslWithBadDefaults, configured]
    rw [names]

theorem unmoved_idleHandler {id name text : String} {idle : Node → Bool} (same : ∀ n, idle n.sync = idle n) :
    (idleHandler id name idle text).Unmoved where
  around _ _ := rfl
  block _ c qualname settings := by
    dsimp only [idleHandler, configured]
    cases c.node with
    | none => rfl
    | some n =>
      cases n with
      | exceptHandler span type id body =>
        rcases body with _ | ⟨_, _ | ⟨_, _⟩⟩
        · rfl
        · simp only [Option.map_some, Node.sync, Node.syncAll, same]
        · rfl
      | _ => rfl

theorem unmoved_catalogue : ∀ r ∈ Catalogue.rules, r = djangoMarkSafe ∨ r.Unmoved := by
  intro r mem
  simp only [Catalogue.rules, mem_cons, not_mem_nil] at mem
  repeat' obtain rfl | mem := mem
  all_goals
    first
    | with_reducible exact .inl rfl
    | exact .inr ⟨run_password_synced, fun block => absurd block (by decide)⟩
    | exact .inr ⟨run_sql_synced, fun block => absurd block (by decide)⟩
    | with_reducible exact .inr unmoved_passwordDefault
    | with_reducible exact .inr unmoved_badDefaults
    | exact .inr ⟨fun _ _ => rfl, fun block => absurd block (by decide)⟩
    | exact .inr (unmoved_idleHandler fun n => by cases n <;> rfl)

theorem unmoved_standard {r : ActiveRule} (running : r ∈ RuleSet.standard) :
    r.rule = djangoMarkSafe ∨ r.rule.Unmoved := by
  rcases mem_append.mp running with mem | banned
  · obtain ⟨rule, known, rfl⟩ := mem_map.mp mem
    exact unmoved_catalogue rule known
  · rw [mem_singleton.mp banned]
    exact .inr ⟨fun _ _ => rfl, fun block => absurd block (by decide)⟩

def marksSafe (c : Context) : Bool :=
  c.importsLike "django.utils.safestring" && c.name.any markSafeFunctions.contains &&
    match c.callParts with
    | .ok (argument :: _, _) => !argument.isText
    | _ => false

theorem run_markSafe_congr {c : Context} {ancestors : List Ancestor} (settings : Value)
    (same : marksSafe c = true → Context.scope { c with ancestors } = c.scope) :
    djangoMarkSafe.run { c with ancestors } settings = djangoMarkSafe.run c settings := by
  have imported : Context.importsLike { c with ancestors } "django.utils.safestring" =
      c.importsLike "django.utils.safestring" := rfl
  have known : Context.theNode { c with ancestors } = c.theNode := rfl
  have parts : Context.callParts { c with ancestors } = c.callParts := rfl
  dsimp only [djangoMarkSafe, plain]
  rw [imported, known, parts]
  -- the scope is looked for only where something is declared safe, so the branches are taken apart first
  cases declared : c.importsLike "django.utils.safestring" && c.name.any markSafeFunctions.contains with
  | false => simp only [Bool.not_false, if_true]
  | true =>
    simp only [Bool.not_true, Bool.false_eq_true, if_false, bind, Except.bind]
    cases c.theNode with
    | error fault => dsimp only
    | ok call =>
      rcases shown : c.callParts with fault | ⟨_ | ⟨argument, _⟩, _⟩
      · dsimp only
      · dsimp only
      · cases text : argument.isText with
        | true => simp only [text, if_true]
        | false =>
          have scope := same (by simp [marksSafe, declared, shown, text])
          unfold Context.scope at scope
          rw [scope]

end Rule

/-! ### Places and files -/

namespace Document

variable {d : Document} {s s' : Stop} {visit : Nat} {r : ActiveRule}

theorem seen_of_run {c : Context} {node : Option Node} {ancestors : List Ancestor} {qualname : Option String}
    (ran : r.rule.run { c with node, ancestors, qualname } r.settings = r.rule.run c r.settings) :
    Finding.seen { c with node, ancestors, qualname } r = Finding.seen c r := by
  unfold Finding.seen Finding.look
  rw [ran]
  rfl

theorem sight_sync (d : Document) (visit : Nat) (plain : s.visit.node.isAsync = false) :
    d.sight s.sync visit = { (d.sight s visit).synced with
      node := (d.sight s visit).node.map Node.sync
      qualname := (d.sight s.sync visit).qualname } :=
  congrArg (fun c : Context => d.place { c with visit := some visit }) (Stop.checkedContext_sync plain)

theorem sight_leaf (d : Document) (visit : Nat) (plain : s.visit.node.isAsync = false)
    (leaf : s.visit.node.kind ∉ Node.blockKinds) : d.sight s.sync visit = (d.sight s visit).synced := by
  have node : (d.sight s visit).node.map Node.sync = (d.sight s visit).node := by
    rw [(d.known_sight s visit).1, Option.map_some, s.visit.node.sync_or_block.resolve_right leaf]
  have name : (d.sight s.sync visit).qualname = (d.sight s visit).qualname := Stop.qualname_sync leaf
  rw [sight_sync d visit plain, node, name]
  rfl

theorem seen_sync (plain : s.visit.node.isAsync = false) (unmoved : r.rule.Unmoved) {check : String}
    (asked : s.check? = some check) (own : check ∈ r.rule.checks) :
    Finding.seen (d.sight s.sync visit) r = Finding.seen (d.sight s visit) r := by
  by_cases block : s.visit.node.kind ∈ Node.blockKinds
  · have inside := unmoved.block ⟨check, own, Stop.check_of_block asked block⟩ (d.sight s visit).synced
    rw [sight_sync d visit plain]
    exact seen_of_run (c := d.sight s visit) ((inside _ r.settings).trans (unmoved.around _ _))
  · rw [sight_leaf d visit plain block]
    exact seen_of_run (c := d.sight s visit) (unmoved.around _ _)

section

variable (same : s.sync = s'.sync) (plain : s.visit.node.isAsync = false) (plain' : s'.visit.node.isAsync = false)

include same plain plain'

theorem seen_markSafe (own : r.rule = Rule.djangoMarkSafe) (asked : s.check? = some "Call")
    (asked' : s'.check? = some "Call")
    (scopes : Rule.marksSafe s.checkedContext = true → s.checkedContext.scope = s'.checkedContext.scope) :
    Finding.seen (d.sight s visit) r = Finding.seen (d.sight s' visit) r := by
  have leaf {u : Stop} (call : u.check? = some "Call") : u.visit.node.kind ∉ Node.blockKinds :=
    fun block => absurd (Stop.check_of_block call block) (by decide)
  have alike : (d.sight s visit).synced = (d.sight s' visit).synced := by
    rw [← d.sight_leaf visit plain (leaf asked), ← d.sight_leaf visit plain' (leaf asked'), same]
  have here : d.sight s visit = { d.sight s' visit with ancestors := (d.sight s visit).ancestors } :=
    congrArg (fun c : Context => { c with ancestors := (d.sight s visit).ancestors }) alike
  have marks : Rule.marksSafe (d.sight s visit) = Rule.marksSafe (d.sight s' visit) :=
    show Rule.marksSafe (d.sight s visit).synced = Rule.marksSafe (d.sight s' visit).synced by rw [alike]
  rw [here]
  apply seen_of_run (c := d.sight s' visit)
  rw [own]
  exact Rule.run_markSafe_congr _ fun marked => scopes (marks.trans marked)

theorem foundAt_congr (scopes : s.check? = some "Call" → Rule.marksSafe s.checkedContext = true →
      s.checkedContext.scope = s'.checkedContext.scope) :
    d.foundAt .standard s visit = d.foundAt .standard s' visit := by
  have asked : s.check? = s'.check? := by rw [← Stop.check_sync plain, same, Stop.check_sync plain']
  unfold foundAt
  rw [← asked]
  cases checked : s.check? with
  | none => rfl
  | some check =>
    apply filterMap_congr
    intro r chosen
    obtain ⟨running, own⟩ := mem_filter.mp chosen
    rw [contains_iff_mem] at own
    rcases Rule.unmoved_standard running with marking | unmoved
    · rw [marking] at own
      obtain rfl : check = "Call" := mem_singleton.mp own
      exact seen_markSafe same plain plain' marking checked (asked ▸ checked) (scopes checked)
    · rw [← seen_sync plain unmoved checked own, same, seen_sync plain' unmoved (asked ▸ checked) own]

end

theorem foundAt_async (async : s.visit.node.isAsync) : d.foundAt .standard s visit = [] := by
  have noRule : RuleSet.standard.forCheck "AsyncFunctionDef" = [] := by
    decide +kernel
  have asked : s.check? = some "AsyncFunctionDef" := by
    rw [Stop.check?]
    cases node : s.visit.node with
    | functionDef span own =>
      rw [node] at async
      rw [show own = true from async]
      rfl
    | _ => rw [node] at async; cases async
  simp only [foundAt, asked, noRule, filterMap_nil]

theorem stops_sync {t t' : Node} (same : t.sync = t'.sync) : (d.stops t).map Stop.sync = (d.stops t').map Stop.sync := by
  have start : Walker.Alike { scope := d.module.toOption.getD "" } { scope := d.module.toOption.getD "" } := ⟨rfl, rfl⟩
  refine (Walker.below_mapped (fun b n => ?_) (fun n m equal => ?_) t t' [] [] _ _ same rfl start).1
  · cases n with
    | importFrom span module => cases module <;> rfl
    | _ => rfl
  · rw [← n.children_sync, equal, m.children_sync]

def pairs (d : Document) (t t' : Node) : List ((Stop × Stop) × Nat) := ((d.stops t).zip (d.stops t')).zipIdx

theorem sync_of_mem_zip {l l' : List Stop} (same : l.map Stop.sync = l'.map Stop.sync) :
    ∀ p ∈ l.zip l', p.1.sync = p.2.sync := by
  induction l generalizing l' with
  | nil => nofun
  | cons s l ih =>
    cases l' with
    | nil => nofun
    | cons s' l' =>
      rw [map_cons, map_cons, List.cons.injEq] at same
      exact forall_mem_cons.mpr ⟨same.1, ih same.2⟩

theorem flatMap_pairs {t t' : Node} (same : t.sync = t'.sync) {β : Type} (f : Stop → Nat → List β) :
    ((d.stops t).zipIdx.flatMap fun p => f p.1 p.2) = (d.pairs t t').flatMap (fun p => f p.1.1 p.2) ∧
      ((d.stops t').zipIdx.flatMap fun p => f p.1 p.2) = (d.pairs t t').flatMap fun p => f p.1.2 p.2 := by
  have lengths : (d.stops t).length = (d.stops t').length := by simpa using congrArg List.length (d.stops_sync same)
  have first : ((d.stops t).zip (d.stops t')).map Prod.fst = d.stops t := map_fst_zip (by omega)
  have second : ((d.stops t).zip (d.stops t')).map Prod.snd = d.stops t' := map_snd_zip (by omega)
  constructor
  · rw [← first, zipIdx_map, flatMap_map]
    rfl
  · rw [← second, zipIdx_map, flatMap_map]
    rfl

theorem kept_eq (d : Document) (ss : Suppressions) (t : Node) : Outcome.issuesKept ss (d.findings .standard t) =
    ((d.stops t).zipIdx.flatMap fun p => Outcome.issuesKept ss (d.foundAt .standard p.1 p.2)) ++
      Outcome.issuesKept ss ((RuleSet.standard.forCheck "File").filterMap (Finding.seen (d.place fileContext))) := by
  simp only [findings_eq, Outcome.issuesKept, filter_append, map_append, filter_flatMap, map_flatMap]

/-- Making functions asynchronous leaves the issues of a file exactly if none was kept for such a function itself, where
calls that declare something safe keep their scope. -/
theorem issues_async_iff (d : Document) {t t' : Node} (same : t.sync = t'.sync)
    (only : ∀ p ∈ d.pairs t t', p.1.1.visit.node.isAsync = true → p.1.2.visit.node.isAsync = true)
    (scopes : ∀ p ∈ d.pairs t t', p.1.1.check? = some "Call" → Rule.marksSafe p.1.1.checkedContext = true →
      p.1.1.checkedContext.scope = p.1.2.checkedContext.scope) (ss : Suppressions) :
    Outcome.issuesKept ss (d.findings .standard t') = Outcome.issuesKept ss (d.findings .standard t) ↔
      ∀ p ∈ d.pairs t t', p.1.2.visit.node.isAsync = true →
        Outcome.issuesKept ss (d.foundAt .standard p.1.1 p.2) = [] := by
  obtain ⟨first, second⟩ := d.flatMap_pairs same fun s i => Outcome.issuesKept ss (d.foundAt .standard s i)
  have lost {s : Stop} {i : Nat} (async : s.visit.node.isAsync = true) :
      Outcome.issuesKept ss (d.foundAt .standard s i) = [] := by
    rw [foundAt_async async]
    rfl
  have left : ∀ p ∈ d.pairs t t', p.1.2.visit.node.isAsync = false →
      Outcome.issuesKept ss (d.foundAt .standard p.1.2 p.2) =
        Outcome.issuesKept ss (d.foundAt .standard p.1.1 p.2) := by
    intro p listed plain'
    have plain : p.1.1.visit.node.isAsync = false :=
      Bool.eq_false_iff.mpr fun async => by simp [only p listed async] at plain'
    have alike := sync_of_mem_zip (d.stops_sync same) p.1 (fst_mem_of_mem_zipIdx listed)
    rw [foundAt_congr alike plain plain' (scopes p listed)]
  rw [kept_eq, kept_eq, append_cancel_right_eq, first, second, Lists.flatMap_eq_iff]
  · refine forall₂_congr fun p listed => ?_
    cases async : p.1.2.visit.node.isAsync with
    | false => exact ⟨fun _ => nofun, fun _ => left p listed async⟩
    | true =>
      rw [lost async]
      exact ⟨fun none _ => none.symm, fun none => (none rfl).symm⟩
  · intro p listed
    cases async : p.1.2.visit.node.isAsync with
    | false => exact .inl (left p listed async)
    | true => exact .inr (lost async)

/-! ### A function with a secret, and one with an assertion -/

def unopened : Document := { name := "a.py", bytes := [], contents := none, module := .error (.invalid "a.py") }

def oneFunction (parameters defaults : List Node) (statement : Node) (async : Bool) : Node :=
  .module [.functionDef ⟨1, 0, 2, 12⟩ async "f" (.arguments [] parameters none [] [] none defaults) [statement] []
    none]

def asserting : Bool → Node := oneFunction [] [] (.assertStmt ⟨2, 4, 2, 12⟩ (.constant ⟨2, 11, 2, 12⟩ (.int 1)) none)

theorem asserting_async :
    (Outcome.issuesKept [] (unopened.findings .standard (asserting false))).map Issue.testId = ["B101"] ∧
      Outcome.issuesKept [] (unopened.findings .standard (asserting true)) =
        Outcome.issuesKept [] (unopened.findings .standard (asserting false)) := by
  have checked : ((unopened.pairs (asserting false) (asserting true)).all fun p =>
      !p.1.1.visit.node.isAsync && p.1.1.check? != some "Call" && (!p.1.2.visit.node.isAsync ||
        (Outcome.issuesKept [] (unopened.foundAt .standard p.1.1 p.2)).isEmpty)) = true := by
    decide +kernel
  simp only [List.all_eq_true, Bool.and_eq_true, Bool.or_eq_true, Bool.not_eq_true', bne_iff_ne, List.isEmpty_iff]
    at checked
  refine ⟨by decide +kernel, (issues_async_iff unopened ?_ ?_ ?_ []).mpr ?_⟩
  · rfl
  · intro p listed async
    simp [(checked p listed).1.1] at async
  · intro p listed call
    exact absurd call (checked p listed).1.2
  · intro p listed async
    exact (checked p listed).2.resolve_left (by simp [async])

def withSecret : Bool → Node :=
  oneFunction [.arg ⟨1, 6, 1, 14⟩ "password" none] [.constant ⟨1, 15, 1, 18⟩ (.text "x")] (.pass ⟨2, 4, 2, 8⟩)

/-- A secret is not found when the function is asynchronous. -/
theorem withSecret_async :
    (Outcome.issuesKept [] (unopened.findings .standard (withSecret false))).map Issue.testId = ["B107"] ∧
      Outcome.issuesKept [] (unopened.findings .standard (withSecret true)) = [] := by
  rw [← List.isEmpty_iff]
  decide +kernel

end Document

end SourceAudit
