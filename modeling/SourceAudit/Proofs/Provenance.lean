import SourceAudit.Proofs.Exclusion
import SourceAudit.Proofs.Independence
import SourceAudit.Proofs.Robustness

/-! Where the bytes of a file come from: standard input or a file, which one rule opens once more. -/

namespace SourceAudit

open List Finding Issue Outcome RuleSet Document Stop

variable {r : ActiveRule} {c : Context} {bytes : Bytes} {t : FileTree} {s : Session} {target : String} {log : Log}

namespace Rule

theorem controlIn_eq (line : List Char) :
    controlIn line = (directionControls.find? (line.contains ·)).map fun p => (p, line.idxOf p + 1) := by
  unfold controlIn
  induction directionControls with
  | nil => rfl
  | cons p ps ih =>
    rw [findSome?_cons, find?_cons]
    by_cases present : p ∈ line
    · have first : line.findIdx? (· == p) = some (line.idxOf p) :=
        findIdx?_eq_some_of_exists ⟨p, present, beq_self_eq_true p⟩
      rw [first, contains_iff_mem.mpr present]
      rfl
    · have none : line.findIdx? (· == p) = none := by
        rw [findIdx?_eq_none_iff]
        intro other mem
        exact beq_false_of_ne fun same => present (same ▸ mem)
      rw [none, ih, show line.contains p = false by simpa using present]
      rfl

theorem controlIn_eq_none_iff {line : List Char} : controlIn line = none ↔ ∀ p ∈ line, p ∉ directionControls := by
  rw [controlIn_eq, Option.map_eq_none_iff, find?_eq_none]
  constructor
  · intro none p present control
    exact none p control (contains_iff_mem.mpr present)
  · intro free p control present
    exact free p (contains_iff_mem.mp present) control

end Rule

/-! ### Issues apart from their source -/

def Issue.unnamed (i : Issue) : Issue := { i with filename := "", input := none }

def Issue.ofControls (i : Issue) : Bool := i.testName == Rule.trojanSource.testName

theorem Issue.map_unnamed_iff {first second : List Issue}
    (firstSplit : first = first.filter (fun i => !i.ofControls) ++ first.filter ofControls)
    (secondSplit : second = second.filter (fun i => !i.ofControls) ++ second.filter ofControls)
    (others : (first.filter fun i => !i.ofControls).map unnamed = (second.filter fun i => !i.ofControls).map unnamed) :
    first.map unnamed = second.map unnamed ↔
      (first.filter ofControls).map unnamed = (second.filter ofControls).map unnamed := by
  have parts {l : List Issue} (split : l = l.filter (fun i => !i.ofControls) ++ l.filter ofControls) :
      l.map unnamed = (l.filter fun i => !i.ofControls).map unnamed ++ (l.filter ofControls).map unnamed := by
    rw [← map_append, ← split]
  rw [parts firstSplit, parts secondSplit, others, append_right_inj]

namespace Finding

def unnamed (f : Finding) : Finding := { f with issue := f.issue.unnamed }

theorem map_issuesKept (ss : Suppressions) (fs : List Finding) :
    (Outcome.issuesKept ss fs).map Issue.unnamed = Outcome.issuesKept ss (fs.map unnamed) := by
  simp only [Outcome.issuesKept, filter_map, map_map, verdict]
  rfl

theorem complete_place (r : Rule) (c : Context) (d e : Document) (node : Option Node) (ancestors : List Ancestor)
    (qualname : Option String) (raw : Issue) :
    Issue.unnamed <$> complete r (d.place { c with node, ancestors, qualname }) raw =
      Issue.unnamed <$> complete r (e.place c) raw := by
  simp only [complete, Document.place, need, shownName]
  cases raw.line.or c.line with
  | none => rfl
  | some line =>
    cases c.lineRange with
    | none => rfl
    | some lines =>
      cases (if raw.column == -1 then c.column else some raw.column) with
      | none => rfl
      | some column => rfl

theorem seen_congr {c' : Context} {g : Issue → Issue} (ran : r.rule.run c r.settings = r.rule.run c' r.settings)
    (lines : c.lineRange = c'.lineRange)
    (completed : ∀ raw, g <$> complete r.rule c raw = g <$> complete r.rule c' raw) :
    (seen c r).map (fun f => { f with issue := g f.issue }) = (seen c' r).map fun f => { f with issue := g f.issue } := by
  unfold seen look
  rw [ran, lines]
  cases r.rule.run c' r.settings with
  | error fault => rfl
  | ok result =>
    cases result with
    | none => rfl
    | some raw =>
      have alike := completed raw
      change ((need c'.lineRange >>= fun lines => complete r.rule c raw >>= fun issue =>
          pure (some (Finding.mk issue raw.line lines))).toOption.join).map _ =
        ((need c'.lineRange >>= fun lines => complete r.rule c' raw >>= fun issue =>
          pure (some (Finding.mk issue raw.line lines))).toOption.join).map _
      generalize complete r.rule c raw = first at alike ⊢
      generalize complete r.rule c' raw = second at alike ⊢
      cases c'.lineRange with
      | none => rfl
      | some lines =>
        cases first <;> cases second
        · rfl
        · exact nomatch alike
        · exact nomatch alike
        · exact congrArg (fun i => some (Finding.mk i raw.line lines)) (Except.ok.inj alike)

theorem seen_place {d e : Document} {node : Option Node} {ancestors : List Ancestor} {qualname : Option String}
    (alike : r.rule.run (d.place { c with node, ancestors, qualname }) r.settings = r.rule.run (e.place c) r.settings) :
    (seen (d.place { c with node, ancestors, qualname }) r).map unnamed = (seen (e.place c) r).map unnamed :=
  seen_congr alike rfl (complete_place r.rule c d e node ancestors qualname)

theorem seen_eq_none (quiet : ∀ raw, r.rule.run c r.settings ≠ .ok (some raw)) : seen c r = none := by
  cases found : seen c r with
  | none => rfl
  | some f =>
    obtain ⟨raw, ran, -⟩ := exists_of_seen found
    exact absurd ran (quiet raw)

end Finding

/-! ### Rules that do not look at the file -/

/-- The rule asks neither for the file nor, at a function, for the names around it. -/
structure ActiveRule.Blind (r : ActiveRule) : Prop where
  file : ∀ (c : Context) (filename : Option FileName) (contents input : Option Bytes),
    r.rule.run { c with filename, contents, input } r.settings = r.rule.run c r.settings
  scope : "FunctionDef" ∈ r.rule.checks → ∀ (c : Context) (qualname : Option String),
    r.rule.run { c with qualname } r.settings = r.rule.run c r.settings

def ActiveRule.opening : ActiveRule := ⟨Rule.trojanSource, Rule.trojanSource.defaults⟩

namespace RuleSet

def blind : RuleSet := standard.filter fun r => r.rule.testName != Rule.trojanSource.testName

theorem blind_catalogue : ∀ r ∈ Catalogue.rules, r.testName ≠ Rule.trojanSource.testName →
    (⟨r, r.defaults⟩ : ActiveRule).Blind := by
  intro r mem other
  simp only [Catalogue.rules, mem_cons, not_mem_nil] at mem
  repeat' obtain rfl | mem := mem
  -- no rule but the one on functions is asked where the names around a place are known
  all_goals
    first
    | exact absurd rfl other
    | exact ⟨fun _ _ _ _ => rfl, fun function => absurd function (by decide)⟩
    | exact ⟨fun _ _ _ _ => rfl, fun _ _ _ => rfl⟩

theorem blind_blacklist : (⟨Rule.blacklist (Banned.byCheck.map Prod.fst), Banned.data⟩ : ActiveRule).Blind :=
  ⟨fun _ _ _ _ => rfl, fun function => absurd function (by decide)⟩

theorem blind_of_mem (present : r ∈ blind) : r.Blind := by
  obtain ⟨running, other⟩ := mem_filter.mp present
  rcases mem_append.mp running with mem | banned
  · obtain ⟨rule, known, rfl⟩ := mem_map.mp mem
    exact blind_catalogue rule known (by simpa using other)
  · rw [mem_singleton.mp banned]
    exact blind_blacklist

end RuleSet

/-! ### Places apart from the names around them -/

def Ancestor.mapped (h : Node → Node) (a : Ancestor) : Ancestor := { a with node := h a.node }

namespace Stop

theorem check_ne_file {s : Stop} {check : String} (asked : s.check? = some check) : check ≠ "File" := by
  intro file
  cases shows_of_check asked (file ▸ by decide) with
  | importsFrom _ kind => rcases kind with rfl | rfl <;> exact absurd file (by decide)
  | _ => exact absurd file (by decide)

def unscoped (s : Stop) : Stop := { s with visit := { s.visit with scope := "" } }

def mapped (h : Node → Node) (s : Stop) : Stop :=
  { visit := ⟨h s.visit.node, s.visit.next.map h, s.visit.ancestors.map (Ancestor.mapped h), s.visit.depth, ""⟩
    bindings := s.bindings }

theorem mapped_id : mapped id = unscoped := by
  have around : Ancestor.mapped id = id := rfl
  funext s
  simp [mapped, unscoped, around]

theorem checkedContext_unscoped (s : Stop) :
    s.checkedContext = { s.unscoped.checkedContext with qualname := s.checkedContext.qualname } ∧
      (s.check? ≠ some "FunctionDef" → s.checkedContext = s.unscoped.checkedContext) := by
  obtain ⟨⟨node, _, _, _, _⟩, _⟩ := s
  cases node with
  | functionDef span async name =>
    cases async with
    | true => exact ⟨rfl, fun _ => rfl⟩
    | false => exact ⟨rfl, fun other => absurd rfl other⟩
  | importFrom span module => cases module <;> exact ⟨rfl, fun _ => rfl⟩
  | constant span value => cases value <;> exact ⟨rfl, fun _ => rfl⟩
  | _ => exact ⟨rfl, fun _ => rfl⟩

end Stop

namespace Walker

/-- Two walkers that differ in the names around them at most. -/
def Alike (w v : Walker) : Prop := w.depth = v.depth ∧ w.bindings = v.bindings

/-- Walks over trees that look alike through a map of nodes make the same stops, seen through the map. -/
theorem below_mapped {h : Node → Node} (imports : ∀ (b : Bindings) (n : Node), b.after (h n) = b.after n)
    (inner : ∀ n m, h n = h m → n.children.map (Prod.map h (Option.map h)) = m.children.map (Prod.map h (Option.map h)))
    (n : Node) : ∀ (m : Node) (around around' : List Ancestor) (w v : Walker), h n = h m →
    around.map (Ancestor.mapped h) = around'.map (Ancestor.mapped h) → w.Alike v →
    (below around n w).1.map (mapped h) = (below around' m v).1.map (mapped h) ∧
      (below around n w).2.Alike (below around' m v).2 := by
  induction n using Node.induction_on_children with
  | step n ih =>
    intro m around around' w v same outer alike
    have children := inner n m same
    have each := fun item (mem : item ∈ n.children) => ih item.1 item.2 mem
    rw [below_eq, below_eq]
    -- on the children that are left on both sides; the walkers are alike before each pair of them
    generalize n.children = items at children each
    generalize m.children = items' at children
    generalize 0 = slot
    induction items generalizing items' slot w v with
    | nil =>
      obtain rfl := map_eq_nil_iff.mp children.symm
      exact ⟨rfl, alike⟩
    | cons item rest later =>
      cases items' with
      | nil => cases children
      | cons item' rest' =>
        obtain ⟨c, next⟩ := item
        obtain ⟨c', next'⟩ := item'
        rw [map_cons, map_cons, List.cons.injEq, Prod.map, Prod.map, Prod.mk.injEq] at children
        obtain ⟨⟨equal, behind⟩, others⟩ := children
        obtain ⟨depth, bindings⟩ := alike
        have after : w.bindings.after c = v.bindings.after c' := by rw [bindings, ← imports _ c, equal, imports]
        have entered : (w.enter c).Alike (v.enter c') := ⟨congrArg (· + 1) depth, after⟩
        have outer' : (⟨n, slot⟩ :: around).map (Ancestor.mapped h) =
            (⟨m, slot⟩ :: around').map (Ancestor.mapped h) := by
          simp [Ancestor.mapped, same, outer]
        obtain ⟨stops, back⟩ := each (c, next) mem_cons_self c' _ _ _ _ equal outer' entered
        have left : (visitChild around n ((c, next), slot) w).2.Alike
            (visitChild around' m ((c', next'), slot) v).2 := ⟨congrArg (· - 1) back.1, back.2⟩
        have here : (visitChild around n ((c, next), slot) w).1.map (mapped h) =
            (visitChild around' m ((c', next'), slot) v).1.map (mapped h) := by
          simp only [visitChild, map_cons, stops]
          simp [mapped, equal, behind, outer', depth, entered.2]
        obtain ⟨further, last⟩ := later _ _ left
          (fun item mem => each item (mem_cons_of_mem _ mem)) rest' others (slot + 1)
        exact ⟨by simp [along, zipIdx_cons, here, further], last⟩

end Walker

namespace Document

def foundAt (rules : RuleSet) (d : Document) (s : Stop) (visit : Nat) : List Finding :=
  match s.check? with
  | some check => (rules.forCheck check).filterMap (Finding.seen (d.sight s visit))
  | none => []

theorem findings_eq (rules : RuleSet) (d : Document) (tree : Node) :
    d.findings rules tree = ((d.stops tree).zipIdx.flatMap fun (s, visit) => d.foundAt rules s visit) ++
      (rules.forCheck "File").filterMap (seen (d.place fileContext)) := by
  rw [findings, looks, filterMap_append, filterMap_flatMap, filterMap_map]
  congr 2
  funext stop
  obtain ⟨s, visit⟩ := stop
  dsimp only [foundAt]
  cases s.check? with
  | none => rfl
  | some check => exact filterMap_map

theorem foundAt_unscoped (d e : Document) (s : Stop) (visit : Nat) :
    (d.foundAt .blind s visit).map Finding.unnamed = (e.foundAt .blind s.unscoped visit).map Finding.unnamed := by
  have asked : s.unscoped.check? = s.check? := rfl
  unfold foundAt
  rw [asked]
  cases checked : s.check? with
  | none => rfl
  | some check =>
    simp only [map_filterMap]
    apply filterMap_congr
    intro r chosen
    obtain ⟨present, own⟩ := mem_filter.mp chosen
    have sighted := blind_of_mem present
    obtain ⟨known, other⟩ := s.checkedContext_unscoped
    generalize place : { s.unscoped.checkedContext with visit := some visit } = c
    have seen : d.sight s visit = d.place { c with qualname := s.checkedContext.qualname } := by
      rw [sight, known, ← place]
    rw [seen, sight, place]
    apply seen_place
    calc r.rule.run (d.place { c with qualname := s.checkedContext.qualname }) r.settings
      _ = r.rule.run { c with qualname := s.checkedContext.qualname } r.settings := sighted.file _ _ _ _
      _ = r.rule.run c r.settings := by
        by_cases function : check = "FunctionDef"
        · subst function
          exact sighted.scope (contains_iff_mem.mp own) c _
        · rw [other (by simpa [checked] using function), ← place]
      _ = r.rule.run (e.place c) r.settings := (sighted.file c _ _ _).symm

theorem findings_blind (d e : Document) (tree : Node) :
    (d.findings .blind tree).map Finding.unnamed = (e.findings .blind tree).map Finding.unnamed := by
  have noneWhole : RuleSet.blind.forCheck "File" = [] := by
    rw [← List.isEmpty_iff]
    decide +kernel
  have common (f : Document) : (f.findings .blind tree).map Finding.unnamed =
      ((f.stops tree).map Stop.unscoped).zipIdx.flatMap fun (s, visit) =>
        (d.foundAt .blind s visit).map Finding.unnamed := by
    simp only [findings_eq, noneWhole, filterMap_nil, append_nil, map_flatMap, zipIdx_map, flatMap_map]
    congr 1
    funext ⟨s, visit⟩
    exact foundAt_unscoped f d s visit
  have alike : (d.stops tree).map Stop.unscoped = (e.stops tree).map Stop.unscoped := by
    have start : Walker.Alike { scope := d.module.toOption.getD "" } { scope := e.module.toOption.getD "" } :=
      ⟨rfl, rfl⟩
    rw [← mapped_id]
    exact (Walker.below_mapped (fun _ _ => rfl) (fun _ _ same => same ▸ rfl) tree tree [] [] _ _ rfl rfl start).1
  rw [common d, common e, alike]

theorem findings_standard (d : Document) (tree : Node) :
    d.findings .standard tree = d.findings .blind tree ++ (seen (d.place fileContext) .opening).toList := by
  have whole : standard.forCheck "File" = [.opening] := rfl
  have noneWhole : RuleSet.blind.forCheck "File" = [] := rfl
  have wholeOnly : ∀ r ∈ standard, r.rule.testName = Rule.trojanSource.testName → r.rule.checks = ["File"] := by
    decide +kernel
  have same (s : Stop) (visit : Nat) : d.foundAt .standard s visit = d.foundAt .blind s visit := by
    unfold foundAt
    cases checked : s.check? with
    | none => rfl
    | some check =>
      have place := check_ne_file checked
      have chosen : standard.forCheck check = RuleSet.blind.forCheck check := by
        simp only [forCheck, RuleSet.blind, filter_filter]
        apply filter_congr
        intro r running
        by_cases named : r.rule.testName = Rule.trojanSource.testName
        · simp [wholeOnly r running named, place]
        · simp [named]
      simp only [chosen]
  have alone (find : ActiveRule → Option Finding) (r : ActiveRule) : [r].filterMap find = (find r).toList := by
    cases found : find r <;> simp [found]
  simp only [findings_eq, whole, noneWhole, same, alone, filterMap_nil, append_nil]

theorem ofControls_of_seen {f : Finding} (found : seen c r = some f) :
    f.issue.ofControls = (r.rule.testName == Rule.trojanSource.testName) := by
  rw [ofControls, testName_of_seen found]

theorem issues_standard {d : Document} {heed : Bool} {out : Outcome} {tree : Node}
    (parsed : Source.parse d.bytes = .ok tree)
    (done : d.scan { rules := .standard, heedComments := heed } = (out, none)) :
    let o : ScanOptions := { rules := .standard, heedComments := heed }
    out.issues.filter (fun i => !i.ofControls) = issuesKept (d.heeded o) (d.findings .blind tree) ∧
      out.issues.filter ofControls = issuesKept (d.heeded o)
        (seen (d.place fileContext) .opening).toList ∧
      out.issues = out.issues.filter (fun i => !i.ofControls) ++ out.issues.filter ofControls := by
  intro o
  obtain ⟨again, reparsed, issues⟩ := issues_of_scan done
  obtain rfl : tree = again := Except.ok.inj (parsed.symm.trans reparsed)
  have kept {fs : List Finding} {b : Bool} (all : ∀ f ∈ fs, f.issue.ofControls = b) :
      ∀ i ∈ issuesKept (d.heeded o) fs, i.ofControls = b := by
    intro i present
    obtain ⟨f, mem, rfl⟩ := mem_map.mp present
    exact all f (mem_of_mem_filter mem)
  have others : ∀ i ∈ issuesKept (d.heeded o) (d.findings .blind tree), i.ofControls = false := by
    refine kept fun f found => ?_
    obtain ⟨l, mem, seen⟩ := mem_filterMap.mp found
    have chosen := mem_filter.mp (mem_rules_of_mem_looks mem)
    rw [ofControls_of_seen seen]
    simpa using chosen.2
  have last : ∀ i ∈ issuesKept (d.heeded o)
      (seen (d.place fileContext) .opening).toList,
      i.ofControls = true := by
    refine kept fun f found => ?_
    rw [ofControls_of_seen (Option.mem_toList.mp found)]
    rfl
  have split : out.issues = issuesKept (d.heeded o) (d.findings .blind tree) ++
      issuesKept (d.heeded o)
        (seen (d.place fileContext) .opening).toList := by
    rw [issues, findings_standard]
    simp [issuesKept, o]
  have first : out.issues.filter (fun i => !i.ofControls) =
      issuesKept (d.heeded o) (d.findings .blind tree) := by
    rw [split, filter_append, filter_eq_self.mpr fun i present => by simp [others i present],
      filter_eq_nil_iff.mpr fun i present => by simp [last i present], append_nil]
  have second : out.issues.filter ofControls = issuesKept (d.heeded o)
      (seen (d.place fileContext) .opening).toList := by
    rw [split, filter_append, filter_eq_nil_iff.mpr fun i present => by simp [others i present],
      filter_eq_self.mpr last, nil_append]
  exact ⟨first, second, by rw [first, second, ← split]⟩

theorem seen_opening_of_closed {d : Document} (closed : d.contents = none) :
    seen (d.place fileContext) .opening = none := by
  have fails : ActiveRule.opening.rule.run (d.place fileContext) ActiveRule.opening.settings =
      .error .noSuchFile := by
    simp only [ActiveRule.opening, Rule.trojanSource, Rule.plain, place, closed]
    rfl
  exact seen_eq_none fun raw ran => nomatch fails.symm.trans ran

def OneWay (bytes : Bytes) : Prop :=
  ∀ lines, Source.textLines? bytes = some lines → ∀ line ∈ lines, ∀ c ∈ line, c ∉ Rule.directionControls

instance (bytes : Bytes) : Decidable (OneWay bytes) :=
  let free (line : List Char) : Bool := line.all fun c => !Rule.directionControls.contains c
  decidable_of_iff ((Source.textLines? bytes).all (·.all free) = true) (by
    cases read : Source.textLines? bytes <;> simp [OneWay, read, free])

theorem seen_opening_of_oneWay {d : Document} (opened : d.contents = some bytes) (plain : OneWay bytes) :
    Finding.seen (d.place fileContext) .opening = none := by
  cases read : Source.textLines? bytes with
  | none =>
    have fails : ActiveRule.opening.rule.run (d.place fileContext) ActiveRule.opening.settings =
        .error .undecodable := by
      simp only [ActiveRule.opening, Rule.trojanSource, Rule.plain, place, opened, read]
      rfl
    exact Finding.seen_eq_none fun raw ran => nomatch fails.symm.trans ran
  | some lines =>
    have nothing : ActiveRule.opening.rule.run (d.place fileContext) ActiveRule.opening.settings = .ok none := by
      simp only [ActiveRule.opening, Rule.trojanSource, Rule.plain, place, opened, read]
      rw [List.findSome?_eq_none_iff.mpr]
      · rfl
      · rintro ⟨line, number⟩ mem
        have present : line ∈ lines := (mem_zipIdx mem).2.2 ▸ getElem_mem _
        simp [Rule.controlIn_eq_none_iff.mpr (plain lines read line present)]
    exact Finding.seen_eq_none fun raw ran => nomatch nothing.symm.trans ran

/-- The issues that the scan of a file adds to the results. -/
def reported (heed : Bool) (d : Document) : List Issue :=
  match d.scan { rules := .standard, heedComments := heed } with
  | (out, none) => out.issues
  | (_, some _) => []

variable {d e : Document} (heed : Bool)

theorem reported_split (d : Document) : d.reported heed =
    (d.reported heed).filter (fun i => !i.ofControls) ++ (d.reported heed).filter Issue.ofControls := by
  unfold reported
  split
  · rename_i out done
    obtain ⟨_, parsed, -⟩ := issues_of_scan done
    exact (issues_standard parsed done).2.2
  · rfl

theorem reported_alike (same : d.bytes = e.bytes) : ((d.reported heed).filter fun i => !i.ofControls).map Issue.unnamed =
      ((e.reported heed).filter fun i => !i.ofControls).map Issue.unnamed := by
  have placed : RuleSet.standard.Placed := RuleSet.placed_ofProfile RuleSet.ofProfile_standard rfl
  have ending := skip_scan_eq (o := { rules := .standard, heedComments := heed })
    (p := { rules := .standard, heedComments := heed }) ⟨rfl, rfl⟩ ⟨placed, placed⟩ rfl same
  unfold reported
  rcases scanned : d.scan { rules := .standard, heedComments := heed } with ⟨_, _ | why⟩ <;>
    rcases again : e.scan { rules := .standard, heedComments := heed } with ⟨_, _ | why⟩
  · obtain ⟨_, parsed, -⟩ := issues_of_scan scanned
    have comments : d.heeded { rules := .standard, heedComments := heed } =
        e.heeded { rules := .standard, heedComments := heed } := by simp only [heeded, same]
    simp only [(issues_standard parsed scanned).1, (issues_standard (same ▸ parsed) again).1, Finding.map_issuesKept,
      comments, findings_blind d e]
  · simp [scanned, again] at ending
  · simp [scanned, again] at ending
  · rfl

theorem reported_controls (nothing : Finding.seen (d.place fileContext) .opening = none) :
    (d.reported heed).filter Issue.ofControls = [] := by
  unfold reported
  split
  · rename_i out done
    obtain ⟨_, parsed, -⟩ := issues_of_scan done
    rw [(issues_standard parsed done).2.1, nothing]
    rfl
  · rfl

end Document

/-! ### Sessions -/

namespace Session

def marked (scan : Nat) (i : Issue) : Issue := { i with origin := i.origin.map ({ · with scan }) }

theorem filter_map_marked {keep : Issue → Bool} {scan : Nat} (natural : ∀ i, keep (marked scan i) = keep i)
    (issues : List Issue) : (issues.map (marked scan)).filter keep = (issues.filter keep).map (marked scan) := by
  rw [filter_map, show keep ∘ marked scan = keep from funext natural]

theorem map_unnamed_marked (scan : Nat) (issues : List Issue) :
    (issues.map (marked scan)).map Issue.unnamed = (issues.map Issue.unnamed).map (marked scan) := by
  simp only [map_map]
  rfl

theorem issues_fate {input : Input} {name : String} {d : Document}
    (opened : document t input name = .ok d) (heed : Bool) (scan : Nat) :
    (fate t input { rules := .standard, heedComments := heed } name).issues scan =
      (d.reported heed).map (marked scan) := by
  simp only [fate, opened, Document.reported]
  rcases d.scan { rules := .standard, heedComments := heed } with ⟨_, _ | _⟩ <;> rfl

theorem files_single {found : Session} (same : s.settings = .standard) (file : t.isFolder target = false)
    (done : s.discover t [target] false "" = .ok (found, log)) :
    found.targets.files = [Targets.scannedName target] := by
  have free (path : String) : ¬ s.Bars t "" path := by
    rintro ⟨entry, inForce, -⟩
    have none : entry ∈ ([] : List Value) :=
      (Targets.mem_exclusions (by rw [same, exclusions_standard]; rfl) entry).mpr inForce
    simp at none
  have members (f : String) : f ∈ found.targets.files ↔ f ∈ [Targets.scannedName target] := by
    rw [(mem_targets_discover done f).1]
    simp [Targets.Found, file, free]
  obtain ⟨-, distinct, -⟩ := discover_eq_ok done
  exact perm_singleton.mp ((perm_ext_iff_of_nodup distinct (nodup_singleton _)).mpr members)

theorem scannedName_ne_input (named : target ≠ "-") : (Targets.scannedName target == "-") = false := by
  rw [Targets.scannedName, if_neg (by simpa using named), beq_eq_false_iff_ne]
  intro same
  have slash : '/' ∈ "-".toList := same ▸ Path.slash_mem_join (by decide)
  simp at slash

theorem rules_of_created (created : create .standard (.dict []) = .ok s) :
    s.rules = .standard ∧ s.settings = .standard := by
  have read : Profile.ofValue (.dict []) = .ok {} := rfl
  obtain ⟨rules, chosen, rfl⟩ := (create_eq_ok read).mp created
  exact ⟨Except.ok.inj (chosen.symm.trans RuleSet.ofProfile_standard), rfl⟩

theorem results_single {found : Session} (created : create .standard (.dict []) = .ok s)
    (file : t.isFolder target = false) (done : s.discover t [target] false "" = .ok (found, log)) {d : Document}
    (opened : document t (.ok bytes) (Targets.scannedName target) = .ok d) (heed : Bool) :
    (run t bytes { found with heedComments := heed }).1.results = (d.reported heed).map (marked 0) := by
  obtain ⟨rules, settings⟩ := rules_of_created created
  rw [run, results_of_create created done, files_single settings file done, rules]
  simp [Fate.collect, issues_fate opened]

/-- From standard input and from a file a session gets the same results exactly if the rule that opens the file finds
the same: nothing in standard input, unless there is a file of its name, and in a file without such characters. -/
theorem results_input_iff {s : Session} (created : create .standard (.dict []) = .ok s) {t : FileTree}
    (stream : t.isFolder "-" = false) {target : String} (named : target ≠ "-") (file : t.isFolder target = false)
    {bytes : Bytes} (content : t.read (Targets.scannedName target) = .ok bytes) (heed : Bool) :
    ∃ piped opened log later, s.discover t ["-"] false "" = .ok (piped, log) ∧
      s.discover t [target] false "" = .ok (opened, later) ∧
      let fromInput := (run t bytes { piped with heedComments := heed }).1.results
      let fromFile := (run t bytes { opened with heedComments := heed }).1.results
      (fromInput.filter fun i => !i.ofControls).map Issue.unnamed =
          (fromFile.filter fun i => !i.ofControls).map Issue.unnamed ∧
        (fromInput.map Issue.unnamed = fromFile.map Issue.unnamed ↔
          (fromInput.filter Issue.ofControls).map Issue.unnamed =
            (fromFile.filter Issue.ofControls).map Issue.unnamed) ∧
        ((∀ other, t.read Issue.inputName ≠ .ok other) → fromInput.filter Issue.ofControls = []) ∧
        (Document.OneWay bytes → fromFile.filter Issue.ofControls = []) := by
  obtain ⟨-, settings⟩ := rules_of_created created
  obtain ⟨⟨piped, log⟩, streamed, -⟩ := answered_discover_standard settings t ["-"] false ""
  obtain ⟨⟨opened, later⟩, found, -⟩ := answered_discover_standard settings t [target] false ""
  refine ⟨piped, opened, log, later, streamed, found, ?_⟩
  -- the two documents, and what is reported about them
  obtain ⟨input, isInput, inputBytes, inputContents⟩ : ∃ d, document t (.ok bytes) (Targets.scannedName "-") = .ok d ∧
      d.bytes = bytes ∧ d.contents = (t.read inputName).toOption := ⟨_, rfl, rfl, rfl⟩
  obtain ⟨onDisk, isFile, fileBytes, fileContents⟩ : ∃ d,
      document t (.ok bytes) (Targets.scannedName target) = .ok d ∧ d.bytes = bytes ∧ d.contents = some bytes := by
    rw [document, scannedName_ne_input named, content]
    exact ⟨_, rfl, rfl, rfl⟩
  rw [results_single created stream streamed isInput, results_single created file found isFile]
  have split (d : Document) : (d.reported heed).map (marked 0) =
      ((d.reported heed).map (marked 0)).filter (fun i => !i.ofControls) ++
        ((d.reported heed).map (marked 0)).filter ofControls := by
    rw [filter_map_marked fun _ => rfl, filter_map_marked fun _ => rfl, ← map_append, ← reported_split]
  have others : (((input.reported heed).map (marked 0)).filter fun i => !i.ofControls).map Issue.unnamed =
      (((onDisk.reported heed).map (marked 0)).filter fun i => !i.ofControls).map Issue.unnamed := by
    rw [filter_map_marked fun _ => rfl, filter_map_marked fun _ => rfl, map_unnamed_marked, map_unnamed_marked,
      Document.reported_alike heed (inputBytes.trans fileBytes.symm)]
  refine ⟨others, Issue.map_unnamed_iff (split input) (split onDisk) others, fun missing => ?_, fun plain => ?_⟩
  · have closed : input.contents = none := by
      cases read : t.read inputName with
      | ok there => exact absurd read (missing there)
      | error why => rw [inputContents, read, Except.toOption]
    rw [filter_map_marked fun _ => rfl,
      reported_controls heed (seen_opening_of_closed closed), map_nil]
  · rw [filter_map_marked fun _ => rfl,
      reported_controls heed (seen_opening_of_oneWay fileContents plain), map_nil]

def oneFile (bytes : Bytes) : FileTree := { files := [(["a.py"], bytes)], folders := [[]] }

theorem isFolder_oneFile (bytes : Bytes) :
    (oneFile bytes).isFolder "-" = false ∧ (oneFile bytes).isFolder "a.py" = false := by
  constructor <;> cbv

theorem read_oneFile (bytes : Bytes) : (oneFile bytes).read (Targets.scannedName "a.py") = .ok bytes := by
  have name : Targets.scannedName "a.py" = "./a.py" := by decide +kernel
  have steps : Path.steps "./a.py" = ["a.py"] := by decide +kernel
  have relative : Path.isAbsolute "./a.py" = false := by decide +kernel
  have plain : FileTree.namesFolder "./a.py" = false := by decide +kernel
  have placed : (oneFile bytes).place "./a.py" = .ok ["a.py"] := by
    rw [FileTree.place, steps, relative]
    rfl
  rw [name, FileTree.read, placed]
  rfl

def reportedIds (bytes : Bytes) : Option (List String × List String) := do
  let input ← (document (oneFile bytes) (.ok bytes) (Targets.scannedName "-")).toOption
  let onDisk ← (document (oneFile bytes) (.ok bytes) (Targets.scannedName "a.py")).toOption
  return ((input.reported true).map Issue.testId, (onDisk.reported true).map Issue.testId)

theorem ids_of_results {piped opened : Session} (created : create .standard (.dict []) = .ok s) {later : Log}
    (streamed : s.discover (oneFile bytes) ["-"] false "" = .ok (piped, log))
    (found : s.discover (oneFile bytes) ["a.py"] false "" = .ok (opened, later)) {inputIds fileIds : List String}
    (ends : reportedIds bytes = some (inputIds, fileIds)) :
    (run (oneFile bytes) bytes { piped with heedComments := true }).1.results.map testId = inputIds ∧
      (run (oneFile bytes) bytes { opened with heedComments := true }).1.results.map testId = fileIds := by
  obtain ⟨stream, file⟩ := isFolder_oneFile bytes
  simp only [reportedIds, Option.bind_eq_bind, Option.bind_eq_some_iff, Option.pure_def, Option.some.injEq,
    Prod.mk.injEq] at ends
  obtain ⟨_, isInput, _, isFile, rfl, rfl⟩ := ends
  have made {name : String} {d : Document}
      (some_ : (document (oneFile bytes) (.ok bytes) name).toOption = some d) :
      document (oneFile bytes) (.ok bytes) name = .ok d := by
    cases opens : document (oneFile bytes) (.ok bytes) name with
    | error why => simp [opens, Except.toOption] at some_
    | ok d => simpa [opens, Except.toOption] using some_
  rw [results_single created stream streamed (made isInput), results_single created file found (made isFile)]
  simp only [map_map]
  exact ⟨rfl, rfl⟩

def plainSource : Bytes := Utf8.encode "assert 1\n".toList

theorem results_input_plainSource : ∃ s piped opened log later, create .standard (.dict []) = .ok s ∧
    s.discover (oneFile plainSource) ["-"] false "" = .ok (piped, log) ∧
    s.discover (oneFile plainSource) ["a.py"] false "" = .ok (opened, later) ∧
    (run (oneFile plainSource) plainSource { piped with heedComments := true }).1.results.map Issue.testId =
      ["B101"] ∧
    (run (oneFile plainSource) plainSource { piped with heedComments := true }).1.results.map Issue.unnamed =
      (run (oneFile plainSource) plainSource { opened with heedComments := true }).1.results.map Issue.unnamed := by
  obtain ⟨s, created, -⟩ := exists_created_standard
  obtain ⟨stream, file⟩ := isFolder_oneFile plainSource
  obtain ⟨piped, opened, log, later, streamed, found, -, agree, closed, plain⟩ :=
    results_input_iff created stream (by decide) file (read_oneFile plainSource) true
  have missing : ∀ other, (oneFile plainSource).read inputName ≠ .ok other := by
    have absent : (oneFile plainSource).read inputName = .error .missing := by cbv
    simp [absent]
  have oneWay : Document.OneWay plainSource := by decide +kernel
  have ids := (ids_of_results created streamed found
    (by decide +kernel : reportedIds plainSource = some (["B101"], ["B101"]))).1
  exact ⟨s, piped, opened, log, later, created, streamed, found, ids,
    agree.mpr (by rw [closed missing, plain oneWay])⟩

def turnedSource : Bytes := Utf8.encode "assert 1  # \u202e\n".toList

/-- What is found in a file is not found in the same bytes from standard input. -/
theorem turnedSource_differs : ∃ s piped opened log later, create .standard (.dict []) = .ok s ∧
    s.discover (oneFile turnedSource) ["-"] false "" = .ok (piped, log) ∧
    s.discover (oneFile turnedSource) ["a.py"] false "" = .ok (opened, later) ∧
    (run (oneFile turnedSource) turnedSource { piped with heedComments := true }).1.results.map Issue.testId =
      ["B101"] ∧
    (run (oneFile turnedSource) turnedSource { opened with heedComments := true }).1.results.map Issue.testId =
      ["B101", "B613"] := by
  obtain ⟨s, created, settings⟩ := exists_created_standard
  obtain ⟨⟨piped, log⟩, streamed, -⟩ := answered_discover_standard settings (oneFile turnedSource) ["-"] false ""
  obtain ⟨⟨opened, later⟩, found, -⟩ := answered_discover_standard settings (oneFile turnedSource) ["a.py"] false ""
  exact ⟨s, piped, opened, log, later, created, streamed, found, ids_of_results created streamed found
    (by decide +kernel : reportedIds turnedSource = some (["B101"], ["B101", "B613"]))⟩

end Session

end SourceAudit
