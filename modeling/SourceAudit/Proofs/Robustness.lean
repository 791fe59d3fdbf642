import SourceAudit.Proofs.Answering
import SourceAudit.Proofs.Failures
import SourceAudit.Proofs.Walk

/-! Which files the standard rules cope with, and what the messages tell about others. -/

namespace SourceAudit

open List

variable {check : String} {r : ActiveRule} {s : Stop} {span : Span} {func : Node} {args keywords : List Node}

/-! ### The rules that run when nothing is chosen -/

theorem Settings.option_standard {name : String} (plain : splitString '.' name = [name])
    (absent : name ≠ "plugin_name_pattern" ∧ name ≠ "include") : Settings.standard.option name = .ok .null := by
  have pattern : ("plugin_name_pattern" == name) = false := beq_eq_false_iff_ne.mpr absent.1.symm
  have files : ("include" == name) = false := beq_eq_false_iff_ne.mpr absent.2.symm
  have missing : Settings.standard.content.holds (.str name) = .ok false := by
    simp only [Settings.standard, Value.holds, any_cons, any_nil, Value.equals_str, pattern, files]
    rfl
  rw [Settings.option, plain, Settings.follow, missing]
  rfl

namespace RuleSet

/-- The rules that run when nothing is chosen, with the settings that hold then. -/
def standard : RuleSet :=
  Catalogue.rules.map (fun r => ⟨r, r.defaults⟩) ++ [⟨Rule.blacklist (Banned.byCheck.map Prod.fst), Banned.data⟩]

theorem plain_blocks : ∀ r ∈ Catalogue.rules, (r.settings.map Prod.fst).all (fun block =>
    splitString '.' block == [block] && block != "plugin_name_pattern" && block != "include") = true := by
  decide +kernel

theorem configure_standard {r : Rule} (mem : r ∈ Catalogue.rules) :
    configure Settings.standard.option r = .ok ⟨r, r.defaults⟩ := by
  have plain := plain_blocks r mem
  unfold configure Rule.defaults
  cases block : r.settings with
  | none => rfl
  | some own =>
    rw [block] at plain
    simp only [Option.map_some, Option.all_some, Bool.and_eq_true, beq_iff_eq, bne_iff_ne] at plain
    dsimp only
    rw [Settings.option_standard plain.1.1 ⟨plain.1.2, plain.2⟩]
    rfl

theorem selected_standard : ({} : Profile).selected = Profile.allIds := by simp [Profile.selected, Profile.spellOut]

theorem banned_selected {b : Banned} (mem : b ∈ Banned.all) : Profile.allIds.contains (b.id : Text) = true := by
  rw [contains_iff_mem]
  exact mem_append_right _ (mem_map_of_mem mem)

theorem bannedData_standard : ({} : Profile).bannedData = Banned.data := by
  have whole : ∀ entry ∈ Banned.byCheck, (∀ b ∈ entry.2, b ∈ Banned.all) ∧ entry.2.isEmpty = false := by
    simp only [Banned.byCheck, Banned.all, forall_mem_cons, not_mem_nil, false_implies, implies_true, and_true]
    exact ⟨⟨fun b mem => mem, by decide⟩, ⟨fun b mem => mem_append_right _ mem, by decide⟩,
      fun b mem => mem_append_right _ mem, by decide⟩
  have absent : ({} : Profile).blacklist.truthy = false := rfl
  rw [Profile.bannedData, absent, selected_standard, Banned.data]
  simp only [Bool.false_eq_true, if_false, Value.dict.injEq]
  refine Eq.trans (filterMap_congr ?_) (congrFun filterMap_eq_map Banned.byCheck)
  rintro ⟨check, bs⟩ mem
  obtain ⟨known, nonempty⟩ := whole _ mem
  have kept : (bs.filter fun b => Profile.allIds.contains (b.id : Text)) = bs :=
    filter_eq_self.mpr fun b member => banned_selected (known b member)
  simp only [kept, nonempty, Bool.false_eq_true, if_false, Function.comp]

theorem ofProfile_standard : ofProfile {} Settings.standard.option = .ok standard := by
  have all : (Catalogue.rules.filter fun r => ({} : Profile).selected.contains (r.id : Text)) = Catalogue.rules := by
    rw [selected_standard]
    apply filter_eq_self.mpr
    intro r mem
    rw [contains_iff_mem]
    exact mem_append_left _ (mem_append_left _ (mem_map_of_mem mem))
  have names : (Banned.byCheck.map fun e => (Value.str e.1).display.toStringLossy) = Banned.byCheck.map Prod.fst :=
    map_congr_left fun e _ => Text.toStringLossy_ofString e.1
  rw [ofProfile_eq_ok, all, bannedData_standard]
  refine ⟨_, _, Answers.mapM_of_ok fun r mem => configure_standard mem, ?_, rfl⟩
  have truthy : Banned.data.truthy = true := rfl
  unfold banned
  rfl

theorem mem_forCheck_standard :
    r ∈ standard.forCheck check ↔ (∃ rule ∈ Catalogue.rules, check ∈ rule.checks ∧ r = ⟨rule, rule.defaults⟩) ∨
      check ∈ Banned.byCheck.map Prod.fst ∧ r = ⟨Rule.blacklist (Banned.byCheck.map Prod.fst), Banned.data⟩ := by
  rw [forCheck, mem_filter, standard, mem_append, mem_singleton, mem_map, contains_iff_mem]
  constructor
  · rintro ⟨⟨rule, mem, rfl⟩ | rfl, checked⟩
    · exact .inl ⟨rule, mem, checked, rfl⟩
    · exact .inr ⟨checked, rfl⟩
  · rintro (⟨rule, mem, checked, rfl⟩ | ⟨checked, rfl⟩)
    · exact ⟨.inl ⟨rule, mem, rfl⟩, checked⟩
    · exact ⟨.inr rfl, checked⟩

end RuleSet

/-- Whether the nodes are nested at most so deep. -/
def Node.nestsWithin : Nat → Node → Bool
  | 0, _ => false
  | depth + 1, n => n.children.all fun c => c.1.nestsWithin depth

namespace Stop

/-- The stop is a call that keeps some rule from an answer. -/
def Hazardous (s : Stop) : Prop :=
  ∃ span func args keywords, s.visit.node = .call span func args keywords ∧ s.context.Hazard span func args keywords

/-- At a call, no text that is marked as safe has to be traced further than the rule goes. -/
def TracesInTime (s : Stop) : Prop :=
  ∀ span func args keywords, s.visit.node = .call span func args keywords →
    s.context.TracesInTime (.call span func args keywords) args

/-- The kinds of places that rules look at, by what is found there. -/
inductive Shows (s : Stop) : String → Prop where
  | call {span : Span} {func : Node} {args keywords : List Node}
      (node : s.visit.node = .call span func args keywords) : Shows s "Call"
  | text {span : Span} {t : Text} (node : s.visit.node = .constant span (.text t)) : Shows s "Str"
  | function {span : Span} {async : Bool} {id : String} {parameters : Node} {body decorators : List Node}
      {returns : Option Node} (node : s.visit.node = .functionDef span async id parameters body decorators returns) :
      Shows s "FunctionDef"
  | handler {span : Span} {type : Option Node} {id : Option String} {body : List Node}
      (node : s.visit.node = .exceptHandler span type id body) : Shows s "ExceptHandler"
  | assertion {span : Span} {test : Node} {message : Option Node} (node : s.visit.node = .assertStmt span test message) :
      Shows s "Assert"
  | imports {span : Span} {names : List Node} (node : s.visit.node = .importStmt span names) : Shows s "Import"
  | importsFrom {check : String} {span : Span} {module : Option String} {names : List Node} {level : Nat}
      (node : s.visit.node = .importFrom span module names level) (kind : check = "Import" ∨ check = "ImportFrom") :
      Shows s check

def kinds : List String := ["Call", "Str", "FunctionDef", "ExceptHandler", "Assert", "Import", "ImportFrom", "File"]

theorem shows_of_kind (known : s.visit.node.kind ∈ kinds) : s.Shows s.visit.node.kind := by
  cases node : s.visit.node with
  | call => exact .call node
  | exceptHandler => exact .handler node
  | assertStmt => exact .assertion node
  | importStmt => exact .imports node
  | importFrom => exact .importsFrom node (.inr rfl)
  | functionDef span async =>
    rw [node] at known
    cases async with
    | false => exact .function node
    | true => simp [Node.kind, kinds] at known
  | forLoop span flag | withStmt span flag | tryStmt span flag =>
    rw [node] at known
    cases flag <;> simp [Node.kind, kinds] at known
  | operator op =>
    rw [node] at known
    cases op <;> exact absurd known (by decide)
  | _ =>
    rw [node] at known
    simp [Node.kind, kinds] at known

theorem shows_of_check (asked : s.check? = some check) (known : check ∈ kinds) : s.Shows check := by
  unfold check? at asked
  split at asked
  · simp at asked
  · rename_i node
    rw [← Option.some.inj asked]
    exact .importsFrom node (.inl rfl)
  · rename_i node
    split at asked
    · simp at asked
    · split at asked
      · rw [← Option.some.inj asked]
        exact .text node
      · rw [← Option.some.inj asked] at known
        exact absurd known (by decide)
      · simp at asked
  · rw [← Option.some.inj asked] at known ⊢
    exact shows_of_kind known

end Stop

/-! ### What rules see at a stop -/

namespace Walker

theorem mem_along {α : Type} {visit : α → Walker → List Stop × Walker} {items : List α} {w : Walker}
    (met : s ∈ (along visit items w).1) :
    ∃ a ∈ items, ∃ before, s ∈ (visit a before).1 ∧ (visit a before).1 ⊆ (along visit items w).1 := by
  induction items generalizing w with
  | nil => simp [along] at met
  | cons a rest ih =>
    simp only [along, mem_append] at met
    rcases met with here | later
    · exact ⟨a, mem_cons_self, w, here, subset_append_left _ _⟩
    · obtain ⟨b, mem, before, met, within⟩ := ih later
      exact ⟨b, mem_cons_of_mem a mem, before, met, List.Subset.trans within (subset_append_right _ _)⟩

theorem enclosed_of_mem_below (n : Node) : ∀ (ancestors : List Ancestor) (w : Walker),
    ∀ s ∈ (below ancestors n w).1, s.visit.ancestors ≠ [] := by
  induction n using Node.induction_on_children with
  | step n ih =>
    intro ancestors w s met
    rw [below_eq] at met
    obtain ⟨⟨⟨c, next⟩, slot⟩, mem, _, met, -⟩ := mem_along met
    have child : n.children[slot]? = some (c, next) := mem_zipIdx_iff_getElem?.mp mem
    rcases mem_cons.mp met with rfl | inner
    · exact cons_ne_nil _ _
    · exact ih c next (mem_of_getElem? child) _ _ s inner

end Walker

namespace Stop

theorem exists_checkedContext_eq (s : Stop) : ∃ lines, s.checkedContext = { s.context with lineRange := some lines } := by
  have known : ∃ lines, s.context.lineRange = some lines := by
    unfold context
    dsimp only
    split <;> exact ⟨_, rfl⟩
  obtain ⟨lines, range⟩ := known
  unfold checkedContext
  split
  · exact ⟨_, rfl⟩
  · exact ⟨lines, by rw [← range]⟩

theorem known_context (s : Stop) : s.context.node = some s.visit.node ∧ s.context.ancestors = s.visit.ancestors ∧
    s.context.aliases = some s.bindings.aliases ∧ s.context.line = s.visit.node.span?.map (fun p => (p.line : Int)) ∧
    s.context.column = s.visit.node.span?.map (fun p => (p.column : Int)) := by
  unfold context
  dsimp only
  split <;> exact ⟨rfl, rfl, rfl, rfl, rfl⟩

theorem calls_context (node : s.visit.node = .call span func args keywords) :
    s.context.Calls span func args keywords := by
  unfold context
  rw [node]
  exact ⟨rfl, rfl, ⟨_, rfl⟩, ⟨_, rfl⟩⟩

theorem text_context {t : Text} (node : s.visit.node = .constant span (.text t)) : s.context.text = some t := by
  unfold context
  rw [node]

theorem exists_span_of_shows (shown : s.Shows check) : ∃ span, s.visit.node.span? = some span := by
  cases shown with
  | call node | text node | function node | handler node | assertion node | imports node | importsFrom node =>
    rw [node]
    exact ⟨_, rfl⟩

end Stop

namespace Document

variable {d : Document} {tree : Node}

def sight (d : Document) (s : Stop) (visit : Nat) : Context := d.place { s.checkedContext with visit := some visit }

theorem known_sight (d : Document) (s : Stop) (visit : Nat) :
    (d.sight s visit).node = some s.visit.node ∧ (d.sight s visit).ancestors = s.visit.ancestors ∧
    (d.sight s visit).aliases = some s.bindings.aliases := by
  obtain ⟨_, same⟩ := s.exists_checkedContext_eq
  obtain ⟨node, ancestors, aliases, -⟩ := s.known_context
  rw [sight, same]
  exact ⟨node, ancestors, aliases⟩

theorem placed_sight (shown : s.Shows check) (visit : Nat) : (d.sight s visit).Placed := by
  obtain ⟨lines, same⟩ := s.exists_checkedContext_eq
  obtain ⟨_, stands⟩ := Stop.exists_span_of_shows shown
  obtain ⟨-, -, -, line, column⟩ := s.known_context
  rw [stands] at line column
  rw [sight, same]
  exact ⟨⟨d.name, rfl⟩, ⟨_, line⟩, ⟨lines, rfl⟩, ⟨_, column⟩⟩

theorem calls_sight (node : s.visit.node = .call span func args keywords) (visit : Nat) :
    (d.sight s visit).Calls span func args keywords := by
  obtain ⟨_, same⟩ := s.exists_checkedContext_eq
  have site := Stop.calls_context node
  rw [sight, same]
  exact ⟨site.node, site.call, site.qualname, site.name⟩

theorem text_sight {t : Text} (node : s.visit.node = .constant span (.text t)) (visit : Nat) :
    (d.sight s visit).text = some t := by
  obtain ⟨_, same⟩ := s.exists_checkedContext_eq
  rw [sight, same]
  exact Stop.text_context node

theorem hazard_sight_iff (s : Stop) (visit : Nat) :
    (d.sight s visit).Hazard span func args keywords ↔ s.context.Hazard span func args keywords := by
  obtain ⟨_, same⟩ := s.exists_checkedContext_eq
  rw [sight, same]
  exact ⟨.transfer rfl rfl rfl rfl, .transfer rfl rfl rfl rfl⟩

theorem safe_sight (node : s.visit.node = .call span func args keywords) (safe : ¬ s.Hazardous) (visit : Nat) :
    ¬ (d.sight s visit).Hazard span func args keywords := by
  intro hazard
  exact safe ⟨span, func, args, keywords, node, (hazard_sight_iff s visit).mp hazard⟩

theorem timely_sight (timely : s.TracesInTime) (node : s.visit.node = .call span func args keywords) (visit : Nat) :
    (d.sight s visit).TracesInTime (.call span func args keywords) args := by
  obtain ⟨_, same⟩ := s.exists_checkedContext_eq
  rw [sight, same]
  exact timely span func args keywords node

theorem mem_looks_iff {rules : RuleSet} {l : Context × ActiveRule} :
    l ∈ d.looks rules tree ↔ (∃ s visit check, (s, visit) ∈ (d.stops tree).zipIdx ∧ s.check? = some check ∧
        ∃ r ∈ rules.forCheck check, (d.sight s visit, r) = l) ∨
      ∃ r ∈ rules.forCheck "File", (d.place fileContext, r) = l := by
  rw [looks, mem_append, mem_flatMap, mem_map]
  apply or_congr_left
  constructor
  · rintro ⟨⟨s, visit⟩, met, here⟩
    cases asked : s.check? with
    | none => simp [asked] at here
    | some check =>
      simp only [asked, mem_map] at here
      exact ⟨s, visit, check, met, asked, here⟩
  · rintro ⟨s, visit, check, met, asked, here⟩
    refine ⟨(s, visit), met, ?_⟩
    simp only [asked, mem_map]
    exact here

end Document

/-! ### Which files rules cope with -/

namespace RuleSet

theorem kinds_catalogue : ∀ r ∈ Catalogue.rules, ∀ check ∈ r.checks,
    check ∈ Stop.kinds ∧ check ≠ "Import" ∧ check ≠ "ImportFrom" := by
  decide +kernel

theorem kinds_banned : ∀ check ∈ Banned.byCheck.map Prod.fst, check ∈ ["Call", "Import", "ImportFrom"] := by decide

end RuleSet

namespace Document

variable {o : ScanOptions} {d : Document} {tree : Node}

theorem answered_catalogue (shown : s.Shows check) (enclosed : s.visit.ancestors ≠ []) (safe : ¬ s.Hazardous)
    (timely : s.TracesInTime) (visit : Nat) {rule : Rule} (mem : rule ∈ Catalogue.rules)
    (checked : check ∈ rule.checks) :
    Answered (rule.run (d.sight s visit) rule.defaults) := by
  obtain ⟨here, around, aliases⟩ := d.known_sight s visit
  cases shown with
  | call node =>
    exact Rule.answered_call (calls_sight node visit) (safe_sight node safe visit) (timely_sight timely node visit)
      rule mem checked
  | text node =>
    rw [node] at here
    rw [← around] at enclosed
    exact Rule.answered_text here (text_sight node visit) enclosed rule mem checked
  | function node =>
    rw [node] at here
    exact Rule.answered_function here aliases rule mem checked
  | handler node =>
    rw [node] at here
    exact Rule.answered_handler here rule mem checked
  | assertion node => exact Rule.answered_assertion rule mem checked
  | imports node => exact absurd rfl (RuleSet.kinds_catalogue rule mem _ checked).2.1
  | importsFrom node kind =>
    obtain ⟨-, whole, part⟩ := RuleSet.kinds_catalogue rule mem _ checked
    exact absurd kind (by simp [whole, part])

theorem answered_banned (shown : s.Shows check) (safe : ¬ s.Hazardous) (visit : Nat)
    (checked : check ∈ Banned.byCheck.map Prod.fst) : Answered (Rule.blacklistRun (d.sight s visit) Banned.data) := by
  obtain ⟨here, -⟩ := d.known_sight s visit
  cases shown with
  | call node => exact Rule.answered_blacklist_call (calls_sight node visit) (safe_sight node safe visit)
  | imports node =>
    rw [node] at here
    exact Rule.answered_blacklist_import here
  | importsFrom node kind =>
    rw [node] at here
    exact Rule.answered_blacklist_importFrom here
  | text | function | handler | assertion => exact absurd (RuleSet.kinds_banned _ checked) (by decide)

theorem shows_of_chosen (asked : s.check? = some check) (chosen : r ∈ RuleSet.standard.forCheck check) :
    s.Shows check := by
  apply Stop.shows_of_check asked
  rcases RuleSet.mem_forCheck_standard.mp chosen with ⟨rule, mem, checked, -⟩ | ⟨checked, -⟩
  · exact (RuleSet.kinds_catalogue rule mem check checked).1
  · have only : ∀ kind ∈ ["Call", "Import", "ImportFrom"], kind ∈ Stop.kinds := by decide
    exact only check (RuleSet.kinds_banned check checked)

theorem hazardous_of_failsAt (asked : s.check? = some check) (enclosed : s.visit.ancestors ≠ [])
    (timely : s.TracesInTime) (chosen : r ∈ RuleSet.standard.forCheck check)
    {visit : Nat} (fails : r.FailsAt (d.sight s visit)) :
    s.Hazardous := by
  have shown := shows_of_chosen asked chosen
  by_contra safe
  rcases RuleSet.mem_forCheck_standard.mp chosen with ⟨_, mem, checked, rfl⟩ | ⟨checked, rfl⟩
  · exact not_answered_iff.mpr fails (answered_catalogue shown enclosed safe timely visit mem checked)
  · exact not_answered_iff.mpr fails (answered_banned shown safe visit checked)

theorem exists_failsAt (hazardous : s.Hazardous) (visit : Nat) :
    s.check? = some "Call" ∧ ∃ r ∈ RuleSet.standard.forCheck "Call", r.FailsAt (d.sight s visit) := by
  obtain ⟨_, _, _, _, node, hazard⟩ := hazardous
  have asked : s.check? = some "Call" := by
    unfold Stop.check?
    rw [node]
    rfl
  refine ⟨asked, ?_⟩
  rcases Rule.someFails_of_hazard (calls_sight node visit) ((d.hazard_sight_iff s visit).mpr hazard) with
    ⟨rule, mem, checked, failed⟩ | failed
  · exact ⟨⟨rule, rule.defaults⟩, RuleSet.mem_forCheck_standard.mpr (.inl ⟨rule, mem, checked, rfl⟩), failed⟩
  · exact ⟨_, RuleSet.mem_forCheck_standard.mpr (.inr ⟨by decide, rfl⟩), failed⟩

theorem exists_failsAt_file (stored : d.contents = some d.bytes) :
    (∃ r ∈ RuleSet.standard.forCheck "File", r.FailsAt (d.place fileContext)) ↔ Source.textLines? d.bytes = none := by
  constructor
  · rintro ⟨r, chosen, fails⟩
    rcases RuleSet.mem_forCheck_standard.mp chosen with ⟨rule, mem, checked, rfl⟩ | ⟨checked, -⟩
    · cases decoded : Source.textLines? d.bytes with
      | none => rfl
      | some lines =>
        have answered := Rule.answered_file (c := d.place fileContext) stored decoded rule mem checked
        exact absurd answered (not_answered_iff.mpr fails)
    · exact absurd (RuleSet.kinds_banned _ checked) (by decide)
  · intro undecodable
    refine ⟨⟨Rule.trojanSource, Rule.trojanSource.defaults⟩, ?_, .undecodable, ?_⟩
    · exact RuleSet.mem_forCheck_standard.mpr (.inl ⟨_, by simp [Catalogue.rules], by decide, rfl⟩)
    · have opened : (d.place fileContext).contents = some d.bytes := stored
      dsimp only [Rule.trojanSource, Rule.plain]
      rw [opened]
      dsimp only
      rw [undecodable]
      rfl

/-- The tree is not deeply nested, and no text that is marked as safe has to be traced further than the rule goes.
Otherwise a rule may run out of the thousand calls that can be nested. -/
structure Shallow (d : Document) (tree : Node) : Prop where
  nested : tree.nestsWithin 50 = true
  timely : ∀ s ∈ d.stops tree, s.TracesInTime

theorem exists_failing_look_iff (stored : d.contents = some d.bytes) (shallow : d.Shallow tree) :
    (∃ l ∈ d.looks RuleSet.standard tree, l.2.FailsAt l.1) ↔
      (∃ s ∈ d.stops tree, s.Hazardous) ∨ Source.textLines? d.bytes = none := by
  rw [← exists_failsAt_file stored]
  constructor
  · rintro ⟨l, mem, fails⟩
    rcases mem_looks_iff.mp mem with ⟨s, visit, _, met, asked, r, chosen, rfl⟩ | ⟨r, chosen, rfl⟩
    · have member : s ∈ d.stops tree := mem_of_getElem? (mem_zipIdx_iff_getElem?.mp met)
      have enclosed := Walker.enclosed_of_mem_below tree [] _ s member
      exact .inl ⟨s, member, hazardous_of_failsAt asked enclosed (shallow.timely s member) chosen fails⟩
    · exact .inr ⟨r, chosen, fails⟩
  · rintro (⟨s, member, hazardous⟩ | ⟨r, chosen, fails⟩)
    · obtain ⟨visit, met⟩ := mem_iff_getElem?.mp member
      obtain ⟨asked, r, chosen, fails⟩ := exists_failsAt (d := d) hazardous visit
      refine ⟨(d.sight s visit, r), mem_looks_iff.mpr (.inl ?_), fails⟩
      exact ⟨s, visit, "Call", mem_zipIdx_iff_getElem?.mpr met, asked, r, chosen, rfl⟩
    · exact ⟨_, mem_looks_iff.mpr (.inr ⟨r, chosen, rfl⟩), fails⟩

theorem known_looks : ∀ l ∈ d.looks RuleSet.standard tree, l.1.Placed ∧ Ranks (l.2.rule.run l.1 l.2.settings) := by
  intro l mem
  constructor
  · rcases mem_looks_iff.mp mem with ⟨s, visit, _, _, asked, r, chosen, rfl⟩ | ⟨r, chosen, rfl⟩
    · exact placed_sight (shows_of_chosen asked chosen) visit
    · exact ⟨⟨d.name, rfl⟩, ⟨0, rfl⟩, ⟨[0, 1], rfl⟩, ⟨0, rfl⟩⟩
  · rcases mem_append.mp (mem_rules_of_mem_looks mem) with own | extra
    · obtain ⟨rule, catalogued, same⟩ := mem_map.mp own
      rw [← same]
      exact Rule.ranks_catalogue rule catalogued
    · rw [mem_singleton.mp extra]
      exact Rule.ranks_blacklist

def unnamedImport : Document :=
  let bytes := Utf8.encode "import importlib\nimportlib.import_module(**options)\n".toList
  { name := "./t.py", bytes, contents := some bytes, module := .ok "t" }

theorem exists_tree_unnamedImport : ∃ tree, Source.parse unnamedImport.bytes = .ok tree := by
  have parses : (Source.parse unnamedImport.bytes).toOption.isSome = true := by decide +kernel
  cases parsed : Source.parse unnamedImport.bytes with
  | error fault => simp [parsed, Except.toOption] at parses
  | ok tree => exact ⟨tree, rfl⟩

theorem shallow_unnamedImport {tree : Node} (parsed : Source.parse unnamedImport.bytes = .ok tree) :
    unnamedImport.Shallow tree := by
  have facts : (Source.parse unnamedImport.bytes).toOption.all (fun tree => tree.nestsWithin 50 &&
      (unnamedImport.stops tree).all fun s => !s.context.importsLike "django.utils.safestring") = true := by
    decide +kernel
  rw [parsed, Except.toOption, Option.all_some, Bool.and_eq_true, all_eq_true] at facts
  refine ⟨facts.1, fun s met span func args keywords _ imported => ?_⟩
  have elsewhere := facts.2 s met
  simp [imported] at elsewhere

theorem scan_unnamedImport : ∃ out, unnamedImport.scan { rules := RuleSet.standard } = (out, none) ∧
    out.log.TellsOfFailure ∧ out.log.map (fun m => m.text.toStringLossy) =
      ["Bandit internal error running: blacklist on file ./t.py at line 2"] := by
  have ends : (unnamedImport.scan { rules := RuleSet.standard }).2.isNone = true ∧
      (unnamedImport.scan { rules := RuleSet.standard }).1.log.any Message.tellsOfFailure = true ∧
      (unnamedImport.scan { rules := RuleSet.standard }).1.log.map (fun m => m.text.toStringLossy) =
        ["Bandit internal error running: blacklist on file ./t.py at line 2"] := by
    decide +kernel
  generalize unnamedImport.scan { rules := RuleSet.standard } = result at ends
  obtain ⟨out, _⟩ := result
  obtain ⟨whole, tells, said⟩ := ends
  obtain rfl := Option.isNone_iff_eq_none.mp whole
  exact ⟨out, rfl, any_eq_true.mp tells, said⟩

end Document

end SourceAudit
