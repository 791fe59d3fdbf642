import SourceAudit.Proofs.Processes

/-! Environments of templates: which keyword decides whether they escape. -/

namespace SourceAudit

open List

variable {ns : List Node} {name : String} {value : Node}

namespace Node

/-- The nodes that lie so many steps below some nodes, from the left. -/
def level : Nat → List Node → List Node
  | 0, ns => ns
  | d + 1, ns => level d (ns.flatMap fun n => n.children.map Prod.fst)

theorem le_foldl_max {α : Type} (f : α → Nat) (items : List α) (least : Nat) :
    least ≤ items.foldl (fun h a => max h (f a)) least ∧
      ∀ a ∈ items, f a ≤ items.foldl (fun h a => max h (f a)) least := by
  induction items generalizing least with
  | nil => simp
  | cons a rest ih =>
    have ⟨start, each⟩ := ih (max least (f a))
    refine ⟨?_, forall_mem_cons.mpr ⟨?_, each⟩⟩ <;>
    · rw [foldl_cons]
      omega

theorem height_pos (n : Node) : 0 < n.height := by
  rw [height]
  exact (le_foldl_max (fun i : { i // i ∈ n.children } => i.1.1.height + 1) n.children.attach 1).1

theorem height_lt_of_mem_children {n child : Node} {next : Option Node} (below : (child, next) ∈ n.children) :
    child.height < n.height := by
  rw [height.eq_def n]
  exact (le_foldl_max (fun i : { i // i ∈ n.children } => i.1.1.height + 1) n.children.attach 1).2
    ⟨(child, next), below⟩ (mem_attach _ _)

theorem level_eq_nil {d : Nat} (low : ∀ n ∈ ns, n.height ≤ d) : level d ns = [] := by
  induction d generalizing ns with
  | zero =>
    apply eq_nil_iff_forall_not_mem.mpr
    intro n mem
    have positive := n.height_pos
    have flat := low n mem
    omega
  | succ d ih =>
    apply ih
    intro child mem
    obtain ⟨n, present, mem⟩ := mem_flatMap.mp mem
    obtain ⟨⟨_, _⟩, below, rfl⟩ := mem_map.mp mem
    have higher := height_lt_of_mem_children below
    dsimp only
    have bound := low n present
    omega

end Node

namespace Rule

/-- The value is that of the first keyword of the name on the first level that has one. -/
def Nearest (name : String) (ns : List Node) (value : Node) : Prop :=
  ∃ d, keywordNamed name (Node.level d ns) = some value ∧ ∀ e < d, keywordNamed name (Node.level e ns) = none

theorem keywordNamed_levels (name : String) (fuel : Nat) (ns : List Node) :
    keywordNamed name (Node.levels (fuel + 1) ns) = (keywordNamed name ns).or
      (keywordNamed name (Node.levels fuel (ns.flatMap fun n => n.children.map Prod.fst))) := by
  rw [Node.levels]
  cases ns with
  | nil => cases fuel <;> rfl
  | cons n ns => exact List.findSome?_append

theorem keywordNamed_levels_eq_none_iff {fuel : Nat} :
    keywordNamed name (Node.levels fuel ns) = none ↔ ∀ d < fuel, keywordNamed name (Node.level d ns) = none := by
  induction fuel generalizing ns with
  | zero => exact ⟨fun _ _ none => absurd none (Nat.not_lt_zero _), fun _ => rfl⟩
  | succ fuel ih => rw [keywordNamed_levels, Option.or_eq_none_iff, ih, Nat.forall_lt_succ_left]; rfl

theorem keywordNamed_levels_eq_some {fuel d : Nat} (near : d < fuel)
    (found : keywordNamed name (Node.level d ns) = some value)
    (before : ∀ e < d, keywordNamed name (Node.level e ns) = none) :
    keywordNamed name (Node.levels fuel ns) = some value := by
  induction fuel generalizing d ns with
  | zero => omega
  | succ fuel ih =>
    rw [keywordNamed_levels, Option.or_eq_some_iff]
    cases d with
    | zero => exact .inl found
    | succ d =>
      refine .inr ⟨before 0 (by omega), ih (d := d) (by omega) found fun e nearer => ?_⟩
      exact before (e + 1) (by omega)

theorem keywordNamed_deep {n : Node} {d : Nat} (deep : n.height ≤ d) : keywordNamed name (Node.level d [n]) = none := by
  rw [Node.level_eq_nil (forall_mem_singleton.mpr deep)]
  rfl

theorem autoescape_eq (call : Node) :
    autoescape? call = (keywordNamed "autoescape" (Node.levels call.height [call])).map escaping := by
  unfold autoescape? keywordNamed
  induction Node.levels call.height [call] with
  | nil => rfl
  | cons n ns ih =>
    rw [List.findSome?_cons, List.findSome?_cons, ih]
    cases n with
    | keyword span arg value => cases named : arg == some "autoescape" <;> simp only [named] <;> rfl
    | _ => rfl

theorem autoescape_eq_none_iff {call : Node} :
    autoescape? call = none ↔ ∀ d, keywordNamed "autoescape" (Node.level d [call]) = none := by
  rw [autoescape_eq, Option.map_eq_none_iff, keywordNamed_levels_eq_none_iff]
  refine ⟨fun none d => ?_, fun none d _ => none d⟩
  by_cases near : d < call.height
  · exact none d near
  · exact keywordNamed_deep (Nat.le_of_not_lt near)

theorem autoescape_of_nearest {call : Node} (nearest : Nearest "autoescape" [call] value) :
    autoescape? call = some (escaping value) := by
  obtain ⟨d, found, before⟩ := nearest
  have near : d < call.height := by
    by_contra deep
    rw [keywordNamed_deep (Nat.le_of_not_lt deep)] at found
    cases found
  rw [autoescape_eq, keywordNamed_levels_eq_some near found before]
  rfl

def escapingIssue : Option Escaping → Option Issue
  | some .off => some (finding .high .high 94
      ("Using jinja2 templates with autoescape=False is dangerous and can lead to XSS. Use " ++
        "autoescape=True or use the select_autoescape function to mitigate XSS vulnerabilities."))
  | some .on => none
  | some .unclear => some (finding .high .medium 94
      ("Using jinja2 templates with autoescape=False is dangerous and can lead to XSS. Ensure " ++
        "autoescape=True or use the select_autoescape function to mitigate XSS vulnerabilities."))
  | none => some (finding .high .high 94
      ("By default, jinja2 sets autoescape to False. Consider using autoescape=True or use the " ++
        "select_autoescape function to mitigate XSS vulnerabilities."))

theorem escapingIssue_eq_default_iff {answer : Option Escaping} :
    escapingIssue answer = escapingIssue none ↔ answer = none := by
  refine ⟨fun same => ?_, congrArg _⟩
  rcases answer with _ | _ | _ | _
  · rfl
  all_goals exact absurd (congrArg (Option.map Issue.text) same) (by decide)

variable {c : Context} {span : Span} {func : Node} {args keywords : List Node}

def MakesEnvironment (c : Context) : Prop :=
  ∃ qualname, c.qualname = some qualname ∧ "jinja2" ∈ splitString '.' qualname ∧
    (splitString '.' qualname).getLast? = some "Environment"

theorem run_jinjaAutoescape (site : c.Calls span func args keywords) (called : MakesEnvironment c) (settings : Value) :
    jinjaAutoescape.run c settings = .ok (escapingIssue (autoescape? (.call span func args keywords))) := by
  obtain ⟨qualname, named, library, made⟩ := called
  have decided : ((splitString '.' qualname).contains "jinja2" &&
      (splitString '.' qualname).getLast? == some "Environment") = true := by
    simpa [made] using library
  dsimp only [jinjaAutoescape, plain]
  rw [named, site.theNode]
  refine (if_pos decided).trans ?_
  dsimp only [bind, Except.bind]
  rcases autoescape? (.call span func args keywords) with _ | _ | _ | _ <;> rfl

theorem map_fst_withNext (ns : List Node) : (Node.withNext (ns.map some)).map Prod.fst = ns := by
  induction ns with
  | nil => rfl
  | cons n ns ih => exact congrArg (n :: ·) ih

theorem level_succ_call (d : Nat) :
    Node.level (d + 1) [.call span func args keywords] = Node.level d (func :: args ++ keywords) := by
  rw [Node.level]
  simp [Node.children, Node.groups, map_fst_withNext, Node.withNext]

theorem Nearest.call (nearest : Nearest name (func :: args ++ keywords) value) :
    Nearest name [.call span func args keywords] value := by
  obtain ⟨d, found, before⟩ := nearest
  refine ⟨d + 1, by rw [level_succ_call, found], fun e near => ?_⟩
  cases e with
  | zero => rfl
  | succ e => rw [level_succ_call, before e (by omega)]

theorem keywordNamed_own (plain : ∀ n ∈ func :: args, n.keywordName = none) :
    keywordNamed name (func :: args ++ keywords) = keywordNamed name keywords := by
  have others : keywordNamed name (func :: args) = none := by
    rw [keywordNamed_eq, Option.map_eq_none_iff, List.find?_eq_none]
    intro n mem
    simp [plain n mem]
  calc
    keywordNamed name (func :: args ++ keywords)
      = (keywordNamed name (func :: args)).or (keywordNamed name keywords) := List.findSome?_append
    _ = keywordNamed name keywords := by rw [others, Option.none_or]

/-- The keyword of an environment itself decides; without one, the nearest of the name in the arguments. What holds by
default is reported only if there is none. -/
theorem environment_judged (site : c.Calls span func args keywords) (called : MakesEnvironment c)
    (plain : ∀ n ∈ func :: args, n.keywordName = none) (settings : Value) :
    (∀ value, keywordNamed "autoescape" keywords = some value →
      jinjaAutoescape.run c settings = .ok (escapingIssue (some (escaping value)))) ∧
    (keywordNamed "autoescape" keywords = none →
      (jinjaAutoescape.run c settings = .ok (escapingIssue none) ↔
        ∀ d, keywordNamed "autoescape" (Node.level d (func :: args ++ keywords)) = none) ∧
      ∀ value, Nearest "autoescape" (func :: args ++ keywords) value →
        jinjaAutoescape.run c settings = .ok (escapingIssue (some (escaping value)))) := by
  have nearest {value : Node} (near : Nearest "autoescape" (func :: args ++ keywords) value) :
      jinjaAutoescape.run c settings = .ok (escapingIssue (some (escaping value))) := by
    rw [run_jinjaAutoescape site called, autoescape_of_nearest near.call]
  refine ⟨fun value own => nearest ⟨0, ?_, nofun⟩, fun _ => ⟨?_, fun value => nearest⟩⟩
  · exact (keywordNamed_own plain).trans own
  · rw [run_jinjaAutoescape site called, Except.ok.injEq, escapingIssue_eq_default_iff, autoescape_eq_none_iff]
    refine ⟨fun none d => level_succ_call d ▸ none (d + 1), fun none d => ?_⟩
    cases d with
    | zero => rfl
    | succ d => rw [level_succ_call, none d]

def environment (keywords : List Node) : Context :=
  let call := Node.call onSecond (.attr onSecond (.name onSecond "jinja2" .load) "Environment" .load) [] keywords
  { node := some call, call := some call, qualname := some "jinja2.Environment", name := some "Environment" }

def autoescaping (set : Bool) : Node := .keyword onSecond (some "autoescape") (.constant onSecond (.bool set))

def loading (set : Bool) : Node :=
  .keyword onSecond (some "loader") (.call onSecond (.name onSecond "make" .load) [] [autoescaping set])

theorem calls_environment (keywords : List Node) : (environment keywords).Calls onSecond
    (.attr onSecond (.name onSecond "jinja2" .load) "Environment" .load) [] keywords :=
  ⟨rfl, rfl, ⟨_, rfl⟩, ⟨_, rfl⟩⟩

theorem makesEnvironment_environment (keywords : List Node) : MakesEnvironment (environment keywords) :=
  ⟨_, rfl, by decide, by decide⟩

theorem ownKeyword_decides :
    jinjaAutoescape.run (environment [loading false, autoescaping true]) .null = .ok none :=
  (environment_judged (calls_environment _) (makesEnvironment_environment _) (by simp [Node.keywordName]) .null).1
    (.constant onSecond (.bool true)) rfl

/-- What a loader is made with changes what is said of an environment. -/
theorem loader_decides : keywordNamed "autoescape" [loading true] = none ∧
    jinjaAutoescape.run (environment [loading true]) .null = .ok none ∧
    jinjaAutoescape.run (environment [loading false]) .null = .ok (escapingIssue (some .off)) := by
  have nested (set : Bool) : jinjaAutoescape.run (environment [loading set]) .null =
      .ok (escapingIssue (some (escaping (.constant onSecond (.bool set))))) := by
    rw [run_jinjaAutoescape (calls_environment _) (makesEnvironment_environment _), autoescape_of_nearest]
    refine Nearest.call ⟨2, rfl, fun d near => ?_⟩
    match d with
    | 0 | 1 => rfl
  exact ⟨rfl, nested true, nested false⟩

end Rule

end SourceAudit
