import SourceAudit.Proofs.Ranking
import SourceAudit.Proofs.Looks

/-! Rules side by side: a run with fewer has those results of a run with more that bear its ids. -/

namespace SourceAudit

open Answers List

variable {p : Profile} {option : String → Answer Value} {settings : Settings} {targets : List String}

def Issue.ofBlacklist (i : Issue) : Bool := i.testName == "blacklist"

def Issue.among (ids : List Text) (i : Issue) : Bool := !i.ofBlacklist && ids.contains i.testId

namespace ActiveRule

def ofBlacklist (r : ActiveRule) : Bool := r.rule.testName == "blacklist"

def among (ids : List Text) (r : ActiveRule) : Bool := !r.ofBlacklist && ids.contains r.rule.id

theorem ofBlacklist_of_listed {r : ActiveRule} (mem : r.rule ∈ Catalogue.rules) : r.ofBlacklist = false := by
  have others : ∀ r ∈ Catalogue.rules, (r.testName == "blacklist") = false := by decide +kernel
  exact others r.rule mem

end ActiveRule

namespace RuleSet

def Catalogued (rules : RuleSet) : Prop := ∀ r ∈ rules, r.rule ∈ Catalogue.rules ∨ r.ofBlacklist = true

theorem ofBlacklist_of_banned {data : Value} {rules : RuleSet} (made : banned data = .ok rules) :
    ∀ r ∈ rules, r.ofBlacklist = true := by
  intro r present
  obtain ⟨_, -, rfl⟩ := eq_of_mem_banned made present
  exact beq_self_eq_true _

theorem exists_banned (plain : p.blacklist.truthy = false) : ∃ rules, banned p.bannedData = .ok rules := by
  simp only [Profile.bannedData, plain, Bool.false_eq_true, if_false, banned]
  split
  · exact ⟨_, rfl⟩
  · exact ⟨_, rfl⟩

theorem catalogued_ofProfile {rules : RuleSet} (chosen : ofProfile p option = .ok rules) : rules.Catalogued := by
  intro r present
  rcases of_mem_ofProfile chosen present with mem | ⟨_, -, rfl⟩
  · exact .inl mem
  · exact .inr (beq_self_eq_true _)

theorem filter_append_banned {active extra : RuleSet} (own : ∀ r ∈ active, r.ofBlacklist = false)
    (added : ∀ r ∈ extra, r.ofBlacklist = true) (ids : List Text) :
    (active ++ extra).filter (fun r => !r.ofBlacklist) = active ∧
      (active ++ extra).filter (ActiveRule.among ids) = active.filter fun r => ids.contains r.rule.id := by
  constructor
  · have kept : active.filter (fun r => !r.ofBlacklist) = active := by simpa [filter_eq_self] using own
    have dropped : extra.filter (fun r => !r.ofBlacklist) = [] := by simpa [filter_eq_nil_iff] using added
    rw [filter_append, kept, dropped, append_nil]
  · have kept : active.filter (ActiveRule.among ids) = active.filter fun r => ids.contains r.rule.id := by
      apply filter_congr
      intro r present
      simp [ActiveRule.among, own r present]
    have dropped : extra.filter (ActiveRule.among ids) = [] := by
      rw [filter_eq_nil_iff]
      intro r present
      simp [ActiveRule.among, added r present]
    rw [filter_append, kept, dropped, append_nil]

theorem mapM_configure_of_within {q : Profile} (within : ∀ id ∈ p.selected, id ∈ q.selected) {active : RuleSet}
    (configured : (Catalogue.rules.filter fun r => q.selected.contains r.id).mapM (configure option) = .ok active) :
    (Catalogue.rules.filter fun r => p.selected.contains r.id).mapM (configure option) =
      .ok (active.filter fun r => p.selected.contains r.rule.id) := by
  have kept : ∀ rule r, configure option rule = .ok r →
      p.selected.contains (Text.ofString r.rule.id) = p.selected.contains (Text.ofString rule.id) := by
    intro rule r set
    rw [rule_configure set]
  rw [← mapM_filter kept configured, filter_filter]
  congr 2
  funext r
  by_cases selected : Text.ofString r.id ∈ p.selected
  · simp [selected, within _ selected]
  · simp [selected]

/-- The rules of one set are those with the given ids in the other. Neither set can break off a scan. -/
structure Part (ids : List Text) (narrow wide : RuleSet) : Prop where
  same : narrow.filter (fun r => !r.ofBlacklist) = wide.filter (ActiveRule.among ids)
  catalogued : narrow.Catalogued ∧ wide.Catalogued
  placed : narrow.Placed ∧ wide.Placed

theorem exists_part_of_within {q : Profile} (plain : p.blacklist.truthy = false ∧ q.blacklist.truthy = false)
    (within : ∀ id ∈ p.selected, id ∈ q.selected) {wide : RuleSet} (chosen : ofProfile q option = .ok wide) :
    ∃ narrow, ofProfile p option = .ok narrow ∧ Part p.selected narrow wide := by
  obtain ⟨active, _, configured, made, rfl⟩ := ofProfile_eq_ok.mp chosen
  obtain ⟨added, given⟩ := exists_banned plain.1
  have fewer := mapM_configure_of_within within configured
  have narrow := ofProfile_eq_ok.mpr ⟨_, added, fewer, given, rfl⟩
  have own : ∀ r ∈ active, r.ofBlacklist = false := fun r present =>
    ActiveRule.ofBlacklist_of_listed (exists_of_mem_active configured present).1
  refine ⟨_, narrow, ?_, ⟨catalogued_ofProfile narrow, catalogued_ofProfile chosen⟩,
    placed_ofProfile narrow plain.1, placed_ofProfile chosen plain.2⟩
  rw [(filter_append_banned own (ofBlacklist_of_banned made) _).2]
  exact (filter_append_banned (fun r kept => own r (mem_filter.mp kept).1) (ofBlacklist_of_banned given)
    p.selected).1

end RuleSet

namespace Document

variable {d : Document} {tree : Node} {rules narrow wide : RuleSet} {ids : List Text}

theorem filter_looks (choose : ActiveRule → Bool) :
    (d.looks rules tree).filter (fun l => choose l.2) = d.looks (rules.filter choose) tree := by
  have fewer (check : String) :
      (RuleSet.forCheck (rules.filter choose) check) = (rules.forCheck check).filter choose := by
    simp [RuleSet.forCheck, filter_filter, Bool.and_comm]
  simp only [looks, filter_append, filter_flatMap, fewer, filter_map]
  congr 2
  funext stop
  obtain ⟨s, visit⟩ := stop
  cases s.check? with
  | none => rfl
  | some check => simp [filter_map, Function.comp_def]

theorem filter_findings {keep : Finding → Bool} {choose : ActiveRule → Bool}
    (agree : ∀ r ∈ rules, ∀ c f, Finding.seen c r = some f → keep f = choose r) :
    (d.findings rules tree).filter keep = d.findings (rules.filter choose) tree := by
  rw [findings, findings, ← filter_looks, filterMap_filter, filter_filterMap]
  apply filterMap_congr
  intro l mem
  cases found : Finding.seen l.1 l.2 with
  | none => simp
  | some f => simp [Option.filter, agree l.2 (mem_rules_of_mem_looks mem) l.1 f found]

theorem among_of_seen (catalogued : rules.Catalogued) {r : ActiveRule} (present : r ∈ rules) {c : Context}
    {f : Finding} (found : Finding.seen c r = some f) : f.issue.among ids = r.among ids := by
  have named : f.issue.ofBlacklist = r.ofBlacklist := by
    rw [Issue.ofBlacklist, Finding.testName_of_seen found, ActiveRule.ofBlacklist]
  rcases catalogued r present with mem | banned
  · rw [Issue.among, named, Finding.testId_of_seen mem found, ActiveRule.among]
  · rw [Issue.among, named, ActiveRule.among, banned]
    rfl

theorem filter_findings_of_part (part : RuleSet.Part ids narrow wide) :
    (d.findings narrow tree).filter (fun f => !f.issue.ofBlacklist) =
      (d.findings wide tree).filter fun f => f.issue.among ids := by
  have left : (d.findings narrow tree).filter (fun f => !f.issue.ofBlacklist) =
      d.findings (narrow.filter fun r => !r.ofBlacklist) tree := filter_findings fun r _ c f found => by
    rw [Issue.ofBlacklist, Finding.testName_of_seen found, ActiveRule.ofBlacklist]
  have right : (d.findings wide tree).filter (fun f => f.issue.among ids) =
      d.findings (wide.filter (ActiveRule.among ids)) tree := filter_findings fun r present c f found =>
    among_of_seen part.catalogued.2 present found
  rw [left, right, part.same]

theorem filter_issuesKept (ss : Suppressions) (fs : List Finding) (keep : Issue → Bool) :
    (Outcome.issuesKept ss fs).filter keep = Outcome.issuesKept ss (fs.filter fun f => keep f.issue) := by
  simp only [Outcome.issuesKept, filter_map, filter_filter, Function.comp_def, Bool.and_comm]

theorem skip_scan_eq {o p : ScanOptions} (calm : o.debug = false ∧ p.debug = false)
    (placed : o.rules.Placed ∧ p.rules.Placed) (heed : o.heedComments = p.heedComments) {d e : Document}
    (same : d.bytes = e.bytes) : (d.scan o).2 = (e.scan p).2 := by
  have trees (ss : Suppressions) (first second : Outcome) :
      (d.scanTree o ss first).2 = (e.scanTree p ss second).2 := by
    cases parsed : Source.parse d.bytes with
    | error why => simp [scanTree, parsed, same ▸ parsed]
    | ok tree =>
      obtain ⟨_, scanned⟩ := scanTree_of_parses calm.1 placed.1 parsed ss first
      obtain ⟨_, again⟩ := scanTree_of_parses calm.2 placed.2 (same ▸ parsed) ss second
      rw [scanned, again]
  unfold scan
  rw [heed, same]
  cases Source.lineEncoding? e.bytes with
  | none => rfl
  | some encoding =>
    simp only
    split
    · split
      · rfl
      · rfl
      · exact trees _ _ _
      · exact trees _ _ _
    · exact trees _ _ _

theorem filter_issues_of_part (part : RuleSet.Part ids narrow wide) {heed : Bool} {few many : Outcome}
    (scanned : d.scan { rules := narrow, heedComments := heed } = (few, none))
    (again : d.scan { rules := wide, heedComments := heed } = (many, none)) :
    few.issues.filter (fun i => !i.ofBlacklist) = many.issues.filter (Issue.among ids) := by
  obtain ⟨tree, parsed, first⟩ := issues_of_scan scanned
  obtain ⟨other, reparsed, second⟩ := issues_of_scan again
  obtain rfl : tree = other := Except.ok.inj (parsed.symm.trans reparsed)
  rw [first, second, filter_issuesKept, filter_issuesKept, filter_findings_of_part part]
  rfl

end Document

namespace Session

variable {t : FileTree} {input : Input} {narrow wide : RuleSet} {ids : List Text}

variable (t input) in
theorem filter_fate (part : RuleSet.Part ids narrow wide) (heed : Bool) (name : String) :
    (∀ scan, ((fate t input { rules := narrow, heedComments := heed } name).issues scan).filter
        (fun i => !i.ofBlacklist) =
      ((fate t input { rules := wide, heedComments := heed } name).issues scan).filter (Issue.among ids)) ∧
      (fate t input { rules := narrow, heedComments := heed } name).score?.toList.length =
        (fate t input { rules := wide, heedComments := heed } name).score?.toList.length := by
  cases opened : document t input name with
  | error why => simp [fate, opened, Fate.issues, Fate.score?]
  | ok d =>
    have alike := Document.skip_scan_eq (o := { rules := narrow, heedComments := heed })
      (p := { rules := wide, heedComments := heed }) ⟨rfl, rfl⟩ part.placed rfl (rfl : d.bytes = d.bytes)
    rcases scanned : d.scan { rules := narrow, heedComments := heed } with ⟨_, _ | why⟩ <;>
      rcases again : d.scan { rules := wide, heedComments := heed } with ⟨_, _ | why⟩
    · have same := Document.filter_issues_of_part part scanned again
      simp only [fate, opened, scanned, again, Fate.issues, filter_map]
      exact ⟨fun scan => congrArg _ same, rfl⟩
    · simp [scanned, again] at alike
    · simp [scanned, again] at alike
    · simp only [fate, opened, scanned, again]
      exact ⟨fun _ => rfl, rfl⟩

variable (t input) in
theorem filter_collect_of_part (part : RuleSet.Part ids narrow wide) (heed : Bool) (names : List String) (scan : Nat) :
    (Fate.collect scan (names.map (fate t input { rules := narrow, heedComments := heed }))).filter
        (fun i => !i.ofBlacklist) =
      (Fate.collect scan (names.map (fate t input { rules := wide, heedComments := heed }))).filter
        (Issue.among ids) := by
  induction names generalizing scan with
  | nil => rfl
  | cons name rest ih =>
    obtain ⟨issues, numbered⟩ := filter_fate t input part heed name
    rw [map_cons, map_cons, Fate.collect, Fate.collect, filter_append, filter_append, issues, numbered, ih]

theorem create_eq_ok {profile : Value} {s : Session} (read : Profile.ofValue profile = .ok p) :
    create settings profile = .ok s ↔
      ∃ rules, RuleSet.ofProfile p settings.option = .ok rules ∧ { settings, rules } = s := by
  simp only [create, read, bind_eq_ok, pure_eq_ok, Except.ok.injEq, exists_eq_left']

variable {log : Log} {recursive : Bool} {excluded : String}

theorem discover_of_settings {s other found : Session}
    (discovered : s.discover t targets recursive excluded = .ok (found, log)) (same : other.settings = s.settings) :
    other.discover t targets recursive excluded =
      .ok ({ other with settings := found.settings, targets := found.targets }, log) := by
  simp only [discover, same, bind_eq_ok, pure_eq_ok, Prod.mk.injEq] at discovered ⊢
  obtain ⟨⟨_, settings⟩, mem, value, given, patterns, read, ⟨_, _⟩, searched, rfl, rfl⟩ := discovered
  exact ⟨_, mem, value, given, patterns, read, _, searched, rfl, rfl⟩

theorem results_of_create {profile : Value} {s found : Session} (created : create settings profile = .ok s)
    (discovered : s.discover t targets recursive excluded = .ok (found, log)) (now : FileTree)
    (input : Input) (heed : Bool) : (runWith now input { found with heedComments := heed }).1.results =
      Fate.collect 0 (found.targets.files.map (fate now input { rules := s.rules, heedComments := heed })) := by
  obtain ⟨unused, separate⟩ := separate_of_discover (fresh_of_create created) discovered
  obtain ⟨same, -, -⟩ := discover_eq_ok discovered
  have calm : s.debug = false := by
    simp only [create, bind_eq_ok, pure_eq_ok] at created
    obtain ⟨-, -, rules, -, rfl⟩ := created
    rfl
  have options : ({ found with heedComments := heed } : Session).options =
      { rules := s.rules, heedComments := heed } := by rw [same, Session.options, calm]
  have ran : Ran now input { found with heedComments := heed }
      (runWith now input { found with heedComments := heed }).1 :=
    ran_runWith now input ⟨unused.skipped, unused.results, unused.scores, unused.metrics⟩
      ⟨separate.distinct, separate.noBlock⟩
  rw [ran.results, options]

/-- With a profile that selects less, a session can be created if it can with more, finds the same files, and has the
results of the other one that belong to its rules. -/
theorem runWith_independent {settings : Settings} {less more : Value} {p q : Profile}
    (read : Profile.ofValue less = .ok p ∧ Profile.ofValue more = .ok q)
    (plain : p.blacklist.truthy = false ∧ q.blacklist.truthy = false)
    (within : ∀ id ∈ p.selected, id ∈ q.selected) {wide found : Session}
    (created : create settings more = .ok wide) {targets : List String} {recursive : Bool} {excluded : String}
    {log : Log} (discovered : wide.discover t targets recursive excluded = .ok (found, log))
    (now : FileTree) (input : Except OpenError Bytes) (heed : Bool) :
    ∃ narrow other, create settings less = .ok narrow ∧
      narrow.discover t targets recursive excluded = .ok (other, log) ∧
      (runWith now input { other with heedComments := heed }).1.results.filter (fun i => !i.ofBlacklist) =
        (runWith now input { found with heedComments := heed }).1.results.filter (Issue.among p.selected) := by
  obtain ⟨many, chosen, made⟩ := (create_eq_ok read.2).mp created
  obtain ⟨few, selected, part⟩ := RuleSet.exists_part_of_within plain within chosen
  have fewer : create settings less = .ok { settings, rules := few } :=
    (create_eq_ok read.1).mpr ⟨few, selected, rfl⟩
  have rules : wide.rules = many := by rw [← made]
  have kept : ({ settings, rules := few } : Session).settings = wide.settings := by rw [← made]
  have again := discover_of_settings discovered kept
  refine ⟨_, _, fewer, again, ?_⟩
  rw [results_of_create fewer again, results_of_create created discovered, rules]
  exact filter_collect_of_part now input part heed found.targets.files 0

def assertionsOnly : Value := .dict [(.str "include", .list [.str "B101"])]

theorem runWith_mixedTree_independent : ∃ wide found narrow other : Session,
    create .standard (.dict []) = .ok wide ∧ create .standard assertionsOnly = .ok narrow ∧
    wide.discover mixedTree ["-", "a.py", "b.py"] false "" = .ok (found, []) ∧
    narrow.discover mixedTree ["-", "a.py", "b.py"] false "" = .ok (other, []) ∧
    (runWith mixedTree (.ok []) { other with heedComments := false }).1.results.map Issue.testId =
      ["B101", "B101"] ∧
    (runWith mixedTree (.ok []) { other with heedComments := false }).1.results.filter (fun i => !i.ofBlacklist) =
      (runWith mixedTree (.ok []) { found with heedComments := false }).1.results.filter (Issue.among ["B101"]) := by
  obtain ⟨wide, created, discovered⟩ := exists_found_mixed
  have read : Profile.ofValue assertionsOnly = .ok { includes := ["B101"] } ∧ Profile.ofValue (.dict []) = .ok {} :=
    ⟨rfl, rfl⟩
  have within : ∀ id ∈ Profile.selected { includes := ["B101"] }, id ∈ Profile.selected {} := by decide +kernel
  have ends : (create .standard assertionsOnly).toOption.map (fun s => (runWith mixedTree (.ok [])
      { s with targets := mixedTargets, heedComments := false }).1.results.map Issue.testId) =
      some ["B101", "B101"] := by decide +kernel
  obtain ⟨narrow, other, fewer, again, same⟩ :=
    runWith_independent read ⟨rfl, rfl⟩ within created discovered mixedTree (.ok []) false
  have found : other = { narrow with targets := mixedTargets } := by
    obtain ⟨_, -, made⟩ := (create_eq_ok read.1).mp fewer
    obtain ⟨_, -, begun⟩ := (create_eq_ok read.2).mp created
    have kept : narrow.settings = wide.settings := by rw [← made, ← begun]
    rw [discover_of_settings discovered kept] at again
    rw [← (Prod.mk.inj (Except.ok.inj again)).1, ← kept]
  simp only [fewer, Except.toOption, Option.map_some, Option.some.injEq] at ends
  exact ⟨wide, _, narrow, other, created, fewer, discovered, again, by rw [found, ends], same⟩

end Session

end SourceAudit
