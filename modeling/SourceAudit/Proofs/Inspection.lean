import SourceAudit.Proofs.Answers
import SourceAudit.Scan.Document

/-! What an inspection and the scan of a file bring about, said without their steps: the findings of every rule at every
place. -/

namespace SourceAudit

open Answers List

variable {c : Context} {r : ActiveRule} {f : Finding} {α : Type} {looks : List (Context × ActiveRule)}

def Score.addIssue (s : Score) (i : Issue) : Score :=
  match Issue.rankOf i.severity, Issue.rankOf i.confidence with
  | .error _, _ => s
  | .ok severity, .error _ => s.addSeverity severity
  | .ok severity, .ok confidence => (s.addSeverity severity).addConfidence confidence

namespace Outcome

def quiet (o : Outcome) : Outcome := { o with log := [] }

def record (ss : Suppressions) (o : Outcome) (f : Finding) : Outcome :=
  match f.verdict ss with
  | .kept => { o with issues := o.issues ++ [f.issue], score := o.score.addIssue f.issue }
  | .silenced => { o with nosec := o.nosec + 1 }
  | .skipped => { o with skipped := o.skipped + 1 }

theorem quiet_record (ss : Suppressions) (o : Outcome) (f : Finding) : (o.record ss f).quiet = o.quiet.record ss f := by
  unfold record
  split <;> rfl

theorem quiet_foldl_record (ss : Suppressions) (o : Outcome) (fs : List Finding) :
    (fs.foldl (record ss) o).quiet = fs.foldl (record ss) o.quiet := by
  induction fs generalizing o with
  | nil => rfl
  | cons f rest ih => rw [foldl_cons, foldl_cons, ih, quiet_record]

/-- The issues of the findings that comments leave alone. -/
def issuesKept (ss : Suppressions) (fs : List Finding) : List Issue :=
  (fs.filter fun f => f.verdict ss == .kept).map Finding.issue

theorem foldl_record (ss : Suppressions) (o : Outcome) (fs : List Finding) : fs.foldl (record ss) o = { o with
    issues := o.issues ++ issuesKept ss fs
    score := (issuesKept ss fs).foldl Score.addIssue o.score
    nosec := o.nosec + (fs.countP fun f => f.verdict ss == .silenced : Nat)
    skipped := o.skipped + (fs.countP fun f => f.verdict ss == .skipped : Nat) } := by
  induction fs generalizing o with
  | nil => simp [issuesKept]
  | cons f rest ih =>
    rw [foldl_cons, ih]
    cases judged : f.verdict ss <;> simp [record, issuesKept, judged]
    · omega
    · omega

end Outcome

namespace Finding

/-- What a rule finds at a place; a rule that fails finds nothing. -/
def seen (c : Context) (r : ActiveRule) : Option Finding := (look c r).toOption.join

theorem seen_eq_some : seen c r = some f ↔ look c r = .ok (some f) := by
  cases looked : look c r with
  | error fault => simp [seen, looked, Except.toOption]
  | ok result => simp [seen, looked, Except.toOption]

/-- What the completed issue says about its place and its test. -/
structure Completes (r : Rule) (c : Context) (found i : Issue) : Prop where
  filename : ∀ name, c.filename = some (.text name) → i.filename = name
  line : i.line = found.line.or c.line
  placed : i.line.isSome
  lines : c.lineRange = some i.lineRange
  input : i.input = c.input
  severity : i.severity = found.severity
  confidence : i.confidence = found.confidence
  weakness : i.weakness = found.weakness
  text : i.text = found.text
  testName : i.testName = r.testName
  testId : i.testId = if found.testId.isEmpty then r.id else found.testId
  origin : i.origin = c.visit.map fun visit => { scan := 0, visit }

theorem need_eq_ok {a? : Option α} {a : α} : need a? = .ok a ↔ a? = some a := by cases a? <;> simp [need]

theorem completes_of_complete {r : Rule} {found i : Issue} (done : complete r c found = .ok i) :
    Completes r c found i := by
  simp only [complete, bind_eq_ok, pure_eq_ok, need_eq_ok] at done
  obtain ⟨file, here, _, same, _, placed, _, range, _, -, rfl⟩ := done
  refine ⟨?_, placed.symm, rfl, range, rfl, rfl, rfl, rfl, rfl, rfl, rfl, rfl⟩
  intro name named
  obtain rfl : file = .text name := Option.some.inj (here.symm.trans named)
  exact (Except.ok.inj same).symm

theorem exists_of_seen (found : seen c r = some f) :
    ∃ raw, r.rule.run c r.settings = .ok (some raw) ∧ Completes r.rule c raw f.issue ∧ f.line = raw.line ∧
      c.lineRange = some f.lines := by
  rw [seen_eq_some, look, bind_eq_ok] at found
  obtain ⟨result, ran, found⟩ := found
  cases result with
  | none => simp [pure_eq_ok] at found
  | some raw =>
    simp only [bind_eq_ok, pure_eq_ok, Option.some.injEq, need_eq_ok] at found
    obtain ⟨lines, range, issue, completed, rfl⟩ := found
    exact ⟨raw, ran, completes_of_complete completed, rfl, range⟩

theorem filename_of_seen {name : String} (named : c.filename = some (.text name)) (found : seen c r = some f) :
    f.issue.filename = name := by
  obtain ⟨_, -, completed, -, -⟩ := exists_of_seen found
  exact completed.filename name named

end Finding

namespace Inspection

open Finding

/-- The outcome at the end of steps, whether they have ended well or not. -/
def finish {α : Type} : EStateM.Result Fault Outcome α → Outcome
  | .ok _ o => o
  | .error _ o => o

@[simp] theorem finish_ok (a : α) (o : Outcome) : finish (.ok a o) = o := rfl

@[simp] theorem finish_error (fault : Fault) (o : Outcome) :
    finish (.error fault o : EStateM.Result Fault Outcome α) = o := rfl

@[simp] theorem run_ofAnswer (a : Answer α) (o : Outcome) : (ofAnswer a).run o = match a with
      | .ok x => .ok x o
      | .error fault => .error fault o := by
  cases a <;> rfl

theorem run_tryCatch (steps : Inspection α) (rescue : Fault → Inspection α) (o : Outcome) :
    (tryCatch steps rescue).run o = match steps.run o with
      | .ok a o => .ok a o
      | .error fault o => (rescue fault).run o := by
  change EStateM.tryCatch steps rescue o = _
  unfold EStateM.tryCatch EStateM.run
  cases steps o <;> rfl

theorem finish_keep (i : Issue) (o : Outcome) :
    finish ((keep i).run o) = { o with issues := o.issues ++ [i], score := o.score.addIssue i } := by
  cases severe : Issue.rankOf i.severity with
  | error fault => simp [keep, severe, Score.addIssue]
  | ok severity =>
    cases sure : Issue.rankOf i.confidence with
    | error fault => simp [keep, severe, sure, Score.addIssue]
    | ok confidence => simp [keep, severe, sure, Score.addIssue]

theorem finish_remark (ss : Suppressions) (c : Context) (r : Rule) (o : Outcome) :
    (finish ((remark ss c r).run o)).quiet = o.quiet := by
  unfold remark
  cases c.lineRange with
  | none => rfl
  | some lines =>
    simp only [need, ofAnswer, pure_bind]
    split
    · cases c.line with
      | none => rfl
      | some line => rfl
    · rfl

theorem finish_attempt (ss : Suppressions) (c : Context) (r : ActiveRule) (o : Outcome) :
    (finish ((attempt ss c r).run o)).quiet = ((seen c r).toList.foldl (Outcome.record ss) o).quiet := by
  rw [attempt, EStateM.run_bind, run_ofAnswer]
  cases looked : look c r with
  | error fault => simp [seen, looked, Except.toOption]
  | ok result =>
    cases result with
    | none => simpa [seen, looked, Except.toOption] using finish_remark ss c r.rule o
    | some f =>
      cases judged : f.verdict ss <;>
        simp [seen, looked, Except.toOption, Outcome.record, judged, finish_keep]

theorem finish_reportFailure (r : Rule) (c : Context) (o : Outcome) :
    (finish ((reportFailure r c).run o)).quiet = o.quiet := by
  unfold reportFailure
  cases c.filename with
  | none => rfl
  | some name =>
    cases c.line with
    | none => rfl
    | some line => rfl

theorem finish_one (debug : Bool) (ss : Suppressions) (c : Context) (r : ActiveRule) (o : Outcome) :
    (finish ((one debug ss c r).run o)).quiet = ((seen c r).toList.foldl (Outcome.record ss) o).quiet := by
  rw [← finish_attempt, one, run_tryCatch]
  cases (attempt ss c r).run o with
  | ok _ o => rfl
  | error fault o =>
    rw [finish_error, ← finish_reportFailure r.rule c o]
    simp only [EStateM.run_bind]
    cases (reportFailure r.rule c).run o with
    | ok _ o => cases debug <;> rfl
    | error _ o => rfl

theorem one_ends_well (named : c.filename.isSome) (placed : c.line.isSome) (ss : Suppressions) (r : ActiveRule)
    (o : Outcome) : ∃ last, (one false ss c r).run o = .ok () last := by
  rw [one, run_tryCatch]
  cases (attempt ss c r).run o with
  | ok _ o => exact ⟨o, rfl⟩
  | error fault o =>
    obtain ⟨_, named⟩ := Option.isSome_iff_exists.mp named
    obtain ⟨line, placed⟩ := Option.isSome_iff_exists.mp placed
    simp [reportFailure, named, placed, need, say]

theorem quiet_of_forM {debug : Bool} {ss : Suppressions} {start last : Outcome}
    (done : (looks.forM fun l => one debug ss l.1 l.2).run start = .ok () last) :
    last.quiet = (looks.filterMap fun l => seen l.1 l.2).foldl (Outcome.record ss) start.quiet := by
  induction looks generalizing start with
  | nil =>
    obtain rfl : start = last := by simpa using done
    rfl
  | cons l rest ih =>
    simp only [forM_eq_forM, forM_cons, EStateM.run_bind] at done ih
    have recorded := finish_one debug ss l.1 l.2 start
    cases ran : (one debug ss l.1 l.2).run start with
    | error fault o => simp [ran] at done
    | ok _ middle =>
      rw [ran] at done recorded
      rw [ih done, ← finish_ok () middle, recorded, Outcome.quiet_foldl_record, filterMap_cons]
      cases seen l.1 l.2 <;> rfl

theorem forM_ends_well (ss : Suppressions) (known : ∀ l ∈ looks, l.1.filename.isSome ∧ l.1.line.isSome)
    (start : Outcome) : ∃ last, (looks.forM fun l => one false ss l.1 l.2).run start = .ok () last := by
  induction looks generalizing start with
  | nil => exact ⟨start, rfl⟩
  | cons l rest ih =>
    obtain ⟨named, placed⟩ := known l mem_cons_self
    obtain ⟨middle, ran⟩ := one_ends_well named placed ss l.2 start
    obtain ⟨last, done⟩ := ih (fun m later => known m (mem_cons_of_mem l later)) middle
    refine ⟨last, ?_⟩
    simp only [forM_eq_forM, forM_cons, EStateM.run_bind, ran] at done ⊢
    exact done

end Inspection

end SourceAudit

namespace SourceAudit

open List Outcome Source

variable {rules : RuleSet} {d : Document} {tree : Node} {l : Context × ActiveRule} {o : ScanOptions} {out : Outcome}

namespace Document

/-- All looks at a file in their order, those at the whole file last: a rule and what it gets to see. -/
def looks (rules : RuleSet) (d : Document) (tree : Node) : List (Context × ActiveRule) :=
  ((d.stops tree).zipIdx.flatMap fun (s, visit) =>
    match s.check? with
    | some check => (rules.forCheck check).map fun r => (d.place { s.checkedContext with visit := some visit }, r)
    | none => []) ++
    (rules.forCheck "File").map fun r => (d.place fileContext, r)

def findings (rules : RuleSet) (d : Document) (tree : Node) : List Finding :=
  (d.looks rules tree).filterMap fun l => Finding.seen l.1 l.2

theorem inspect_eq (o : ScanOptions) (ss : Suppressions) (d : Document) (tree : Node) :
    d.inspect o ss tree = (d.looks o.rules tree).forM fun l => Inspection.one o.debug ss l.1 l.2 := by
  rw [looks, forM_eq_forM, forM_append, forM_map, ← forM_eq_forM, Answers.forM_flatMap]
  unfold inspect
  congr 1
  · congr 1
    funext ⟨s, visit⟩
    cases kind : s.check? with
    | none => simp [kind]
    | some check => simp [kind, Inspection.all, forM_map]

section

variable (mem : l ∈ d.looks rules tree)

include mem

theorem exists_of_mem_looks : ∃ check c, l.2 ∈ rules.forCheck check ∧ l.1 = d.place c ∧
      ((∃ (s : Stop) (visit : Nat), s.check? = some check ∧ c = { s.checkedContext with visit := some visit }) ∨
        c = fileContext) := by
  rcases mem_append.mp mem with place | whole
  · obtain ⟨⟨s, visit⟩, -, here⟩ := mem_flatMap.mp place
    cases asked : s.check? with
    | none => simp [asked] at here
    | some check =>
      simp only [asked, mem_map] at here
      obtain ⟨r, chosen, rfl⟩ := here
      exact ⟨check, _, chosen, rfl, .inl ⟨s, visit, asked, rfl⟩⟩
  · obtain ⟨r, chosen, rfl⟩ := mem_map.mp whole
    exact ⟨"File", _, chosen, rfl, .inr rfl⟩

theorem filename_of_mem_looks : l.1.filename = some (.text d.name) := by
  obtain ⟨_, c, -, here, -⟩ := exists_of_mem_looks mem
  rw [here]
  rfl

theorem mem_rules_of_mem_looks : l.2 ∈ rules := by
  obtain ⟨_, c, chosen, -, -⟩ := exists_of_mem_looks mem
  exact (mem_filter.mp chosen).1

end

theorem filename_of_mem_findings {f : Finding} (found : f ∈ d.findings rules tree) : f.issue.filename = d.name := by
  obtain ⟨l, mem, seen⟩ := mem_filterMap.mp found
  exact Finding.filename_of_seen (filename_of_mem_looks mem) seen

def heeded (o : ScanOptions) (d : Document) : Suppressions :=
  match o.heedComments, Source.lineEncoding? d.bytes with
  | true, some e => (suppressions (Source.comments e d.bytes).1).1
  | _, _ => []

theorem scanTree_ok {ss : Suppressions} {start : Outcome} (done : d.scanTree o ss start = (out, none)) :
    ∃ tree, parse d.bytes = .ok tree ∧ out.quiet = (d.findings o.rules tree).foldl (record ss) start.quiet := by
  unfold scanTree at done
  cases parsed : parse d.bytes with
  | error e => simp [parsed] at done
  | ok tree =>
    refine ⟨tree, rfl, ?_⟩
    simp only [parsed, inspect_eq] at done
    split at done
    · rename_i ran
      obtain rfl := (Prod.mk.injEq ..).mp done |>.1
      have recorded := Inspection.quiet_of_forM ran
      exact recorded
    · simp at done

section

variable (done : d.scan o = (out, none))

include done

theorem scan_ok : ∃ tree, parse d.bytes = .ok tree ∧
      out.quiet = (d.findings o.rules tree).foldl (record (d.heeded o)) {} := by
  unfold scan at done
  cases encoding : lineEncoding? d.bytes with
  | none => simp [encoding] at done
  | some e =>
    simp only [encoding] at done
    cases heed : o.heedComments with
    | false =>
      simp only [heed] at done
      simpa [heeded, heed, quiet] using scanTree_ok done
    | true =>
      simp only [heed, if_true] at done
      cases ending : (comments e d.bytes).2 with
      | badIndentation => simp [ending] at done
      | undecodable => simp [ending] at done
      | complete =>
        simp only [ending] at done
        simpa [heeded, heed, encoding, quiet] using scanTree_ok done
      | unfinished =>
        simp only [ending] at done
        simpa [heeded, heed, encoding, quiet] using scanTree_ok done

theorem issues_of_scan : ∃ tree, parse d.bytes = .ok tree ∧
      out.issues = issuesKept (d.heeded o) (d.findings o.rules tree) := by
  obtain ⟨tree, parsed, recorded⟩ := scan_ok done
  have same := congrArg issues recorded
  rw [foldl_record] at same
  exact ⟨tree, parsed, same⟩

theorem filename_of_mem_issues {i : Issue} (present : i ∈ out.issues) : i.filename = d.name := by
  obtain ⟨_, -, kept⟩ := issues_of_scan done
  rw [kept, issuesKept, mem_map] at present
  obtain ⟨f, found, rfl⟩ := present
  exact filename_of_mem_findings (mem_filter.mp found).1

theorem score_of_scan : out.score = out.issues.foldl Score.addIssue {} := by
  obtain ⟨_, -, recorded⟩ := scan_ok done
  have issues := congrArg issues recorded
  have score := congrArg score recorded
  rw [foldl_record] at issues score
  exact score.trans (congrArg (List.foldl Score.addIssue {}) issues.symm)

end

end Document

end SourceAudit
