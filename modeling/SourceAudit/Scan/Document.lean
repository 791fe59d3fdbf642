import SourceAudit.Discovery.FileTree
import SourceAudit.Issue.Excerpt
import SourceAudit.Scan.Metrics
import SourceAudit.Scan.Suppression
import SourceAudit.Scan.Survey

/-! Running rules at the places of a source file. -/

namespace SourceAudit

/-- What rules have brought about so far. -/
structure Outcome where
  issues : List Issue := []
  score : Score := {}
  /-- Findings dropped by comments that suppress everything. -/
  nosec : Int := 0
  /-- Findings dropped by comments that name their test. -/
  skipped : Int := 0
  log : Log := []

structure Finding where
  issue : Issue
  /-- The line that the rule itself has named. -/
  line : Option Int
  lines : List Int

namespace Finding

def need {α : Type} : Option α → Answer α
  | some a => .ok a
  | none => .error .missingKey

def shownName : FileName → Answer String
  | .text s => .ok s
  | .raw b =>
    match Utf8.decode? b with
    | some cs => .ok (String.ofList cs)
    | none => .error .undecodable

def complete (r : Rule) (c : Context) (found : Issue) : Answer Issue := do
  let filename ← shownName (← need c.filename)
  let line ← need (found.line.or c.line)
  let lineRange ← need c.lineRange
  let column ← need (if found.column == -1 then c.column else some found.column)
  return { found with
    filename, lineRange, column
    input := c.input
    line := some line
    endColumn := c.endColumn.getD 0
    origin := c.visit.map fun visit => { scan := 0, visit }
    testName := r.testName
    testId := if found.testId.isEmpty then r.id else found.testId }

def look (c : Context) (r : ActiveRule) : Answer (Option Finding) := do
  match ← r.rule.run c r.settings with
  | some found =>
    let lines ← need c.lineRange
    return some { issue := ← complete r.rule c found, line := found.line, lines }
  | none => return none

inductive Verdict where
  | kept
  | silenced
  | skipped
  deriving DecidableEq, Repr

/-- A finding is kept unless a comment on its lines suppresses everything or names its test. -/
def verdict (ss : Suppressions) (f : Finding) : Verdict :=
  match ss.covering f.line f.lines with
  | none => .kept
  | some ids =>
    if ids.isEmpty then .silenced else if ids.contains f.issue.testId then .skipped else .kept

end Finding

/-- Steps that change the outcome and may fail; what was brought about before a failure stays. -/
abbrev Inspection := EStateM Fault Outcome

namespace Inspection

open Finding

def ofAnswer {α : Type} : Answer α → Inspection α
  | .ok a => pure a
  | .error f => throw f

def say (m : Message) : Inspection Unit := modify fun o => { o with log := o.log ++ [m] }

def keep (i : Issue) : Inspection Unit := do
  modify fun o => { o with issues := o.issues ++ [i] }
  let severity ← ofAnswer (Issue.rankOf i.severity)
  modify fun o => { o with score := o.score.addSeverity severity }
  let confidence ← ofAnswer (Issue.rankOf i.confidence)
  modify fun o => { o with score := o.score.addConfidence confidence }

def remark (ss : Suppressions) (c : Context) (r : Rule) : Inspection Unit := do
  let ids := (ss.within (← ofAnswer (need c.lineRange))).getD []
  if ids.contains r.id then
    let line ← ofAnswer (need c.line)
    say (warning ("nosec encountered (" ++ r.id ++ "), but no failed test on line " ++
      (toString line : String)))

/-- Runs a rule. A finding is kept or counted as suppressed. -/
def attempt (ss : Suppressions) (c : Context) (r : ActiveRule) : Inspection Unit := do
  match ← ofAnswer (look c r) with
  | some f =>
    match f.verdict ss with
    | .kept => keep f.issue
    | .silenced => modify fun o => { o with nosec := o.nosec + 1 }
    | .skipped => modify fun o => { o with skipped := o.skipped + 1 }
  | none => remark ss c r.rule

def reportFailure (r : Rule) (c : Context) : Inspection Unit := do
  let filename : Text := match ← ofAnswer (need c.filename) with
    | .text s => s
    | .raw b => Quoted.bytes b
  let line ← ofAnswer (need c.line)
  say (alert ("Bandit internal error running: " ++ r.testName ++ " on file " ++ filename ++
    " at line " ++ (toString line : String)))

def one (debug : Bool) (ss : Suppressions) (c : Context) (r : ActiveRule) : Inspection Unit :=
  tryCatch (attempt ss c r) fun fault => do
    reportFailure r.rule c
    if debug then throw fault

def all (rules : RuleSet) (debug : Bool) (ss : Suppressions) (check : String) (c : Context) : Inspection Unit :=
  (rules.forCheck check).forM (one debug ss c)

end Inspection

structure Document where
  name : String
  bytes : Bytes
  contents : Option Bytes
  input : Option Bytes := none
  /-- The dotted name of the module, if the path gives one. -/
  module : Except ModuleNameError String

inductive Skip where
  | notParsed
  | failed (fault : Fault)
  deriving DecidableEq, Repr

structure ScanOptions where
  rules : RuleSet
  debug : Bool := false
  heedComments : Bool := true

namespace Document

/-- What the comments suppress, by line, and what is said about them. Of several on a line the last one counts. -/
def suppressions (comments : List Source.Comment) : Suppressions × Log :=
  let found := comments.map fun c =>
    let (ids, log) := Suppression.read c.text
    (((c.line : Int), ids), log)
  ((Suppressions.latest (found.map Prod.fst)).filter fun (_, ids) => ids.isSome, found.flatMap Prod.snd)

def fileContext : Context := { line := some 0, lineRange := some [0, 1], column := some 0 }

def place (d : Document) (c : Context) : Context :=
  { c with filename := some (.text d.name), contents := d.contents, input := d.input }

def walk (d : Document) (tree : Node) : List Stop × Walker :=
  Walker.below [] tree { scope := d.module.toOption.getD "" }

def stops (d : Document) (tree : Node) : List Stop := (d.walk tree).1

def inspect (o : ScanOptions) (ss : Suppressions) (d : Document) (tree : Node) : Inspection Unit := do
  (d.stops tree).zipIdx.forM fun (s, visit) =>
    match s.check? with
    | some check => Inspection.all o.rules o.debug ss check (d.place { s.checkedContext with visit := some visit })
    | none => pure ()
  Inspection.all o.rules o.debug ss "File" (d.place fileContext)

def namelessLog (d : Document) : Log :=
  if d.module.toOption.isSome then [] else [warning ("Unable to find qualified name for module: " ++ d.name)]

def scanTree (o : ScanOptions) (ss : Suppressions) (d : Document) (start : Outcome) : Outcome × Option Skip :=
  let start := { start with log := start.log ++ d.namelessLog }
  match Source.parse d.bytes with
  | .error _ => (start, some .notParsed)
  | .ok tree =>
    match inspect o ss d tree start with
    | .ok _ outcome => (outcome, none)
    | .error fault outcome => (outcome, some (.failed fault))

/-- Scans a file. A file whose encoding, indentation or syntax is faulty is skipped. -/
def scan (o : ScanOptions) (d : Document) : Outcome × Option Skip :=
  match Source.lineEncoding? d.bytes with
  | none => ({}, some .notParsed)
  | some e =>
    if o.heedComments then
      let (comments, ending) := Source.comments e d.bytes
      let (ss, log) := suppressions comments
      match ending with
      | .badIndentation => ({ log }, some .notParsed)
      | .undecodable => ({ log }, some (.failed .undecodable))
      | .complete | .unfinished => scanTree o ss d { log }
    else scanTree o [] d {}

/-- Whether a scan goes on for ever: it gets as far as the name of the module, and looking for that has no end. -/
def endless (heedComments : Bool) (d : Document) : Bool :=
  match d.module, Source.lineEncoding? d.bytes with
  | .error .endless, some e =>
    !heedComments || match (Source.comments e d.bytes).2 with
      | .badIndentation | .undecodable => false
      | .complete | .unfinished => true
  | _, _ => false

end Document

end SourceAudit
