import SourceAudit.Data.Json
import SourceAudit.Discovery.Targets
import SourceAudit.Scan.Document

/-! A session: settings, the files to scan, and all that runs over them have brought about. -/

namespace SourceAudit

namespace Baseline

def issuesOf (report : Text) : Answer (List Issue) := do
  match Json.read? report with
  | none => throw .badValue
  | some v => (← (← v.entry "results").items).mapM Issue.ofRecord

/-- The issues of an earlier report; a report that cannot be used has none and is warned about. -/
def read (report : Text) : List Issue × Log :=
  match issuesOf report with
  | .ok issues => (issues, [])
  | .error _ => ([], [warning "Failed to load baseline data"])

def unmatched (baseline results : List Issue) : List Issue := results.filter fun i => !baseline.any i.same

def candidates (issues results : List Issue) : List (Issue × List Issue) :=
  issues.map fun i => (i, results.filter i.same)

end Baseline

/-- The issues of a report, or with a baseline the new ones, each with the results that it may be. -/
inductive Findings where
  | plain (issues : List Issue)
  | compared (issues : List (Issue × List Issue))

namespace Findings

def count : Findings → Nat
  | plain is => is.length
  | compared is => is.length

def issues : Findings → List Issue
  | plain is => is
  | compared is => is.map Prod.fst

end Findings

structure Session where
  settings : Settings
  rules : RuleSet
  aggregation : String := "file"
  debug : Bool := false
  verbose : Bool := false
  quiet : Bool := false
  heedComments : Bool := true
  /-- Whether messages for debugging are shown, so that hints at them are not needed. -/
  traced : Bool := false
  targets : Targets := {}
  skipped : List (FileName × String) := []
  results : List Issue := []
  baseline : List Issue := []
  metrics : Metrics := .empty
  scores : List Score := []

namespace Session

def create (settings : Settings) (profile : Value) : Answer Session := do
  let rules ← RuleSet.ofProfile (← Profile.ofValue profile) settings.option
  return { settings, rules }

def discover (t : FileTree) (targets : List String) (recursive : Bool) (excluded : String)
    (s : Session) : Answer (Session × Log) := do
  let (exclude, settings) ← Targets.exclusions t s.settings excluded
  let include_ ← Targets.patterns (← s.settings.option "include") Targets.standardPatterns
  let (found, log) ← Targets.discover t include_ exclude recursive targets
  return ({ s with settings, targets := found }, log)

/-- The session after a search; one that fails leaves the lists, but its entries stay in the settings. -/
def searched (t : FileTree) (targets : List String) (recursive : Bool) (excluded : String) (s : Session) : Session :=
  match s.discover t targets recursive excluded with
  | .ok (found, _) => found
  | .error _ =>
    match Targets.exclusions t s.settings excluded with
    | .ok (_, settings) => { s with settings }
    | .error _ => s

def failureLog (t : FileTree) (targets : List String) (recursive : Bool) (excluded : String) (s : Session) : Log :=
  let remarks : Answer Log := do
    let (exclude, _) ← Targets.exclusions t s.settings excluded
    let include_ ← Targets.patterns (← s.settings.option "include") Targets.standardPatterns
    return Targets.remarks t include_ exclude recursive targets
  remarks.toOption.getD []

def skipNote (s : Session) (name : String) : Skip → String × Log
  | .notParsed => ("syntax error while parsing AST from file", [])
  | .failed _ =>
    ("exception while scanning file",
      alert ("Exception occurred when executing tests against " ++ name ++ ".") ::
        if s.traced then []
        else [alert ("Run \"bandit --debug " ++ name ++ "\" to see the full traceback.")])

def dropFile (name : String) (s : Session) : Session :=
  { s with targets := { s.targets with files := s.targets.files.erase name } }

def measure (d : Document) (o : Outcome) (m : Metrics) : Metrics :=
  let step (f : Metrics → Answer Metrics) (m : Metrics) : Metrics := (f m).toOption.getD m
  step (·.addSkipped o.skipped) (step (·.addNosec o.nosec)
    (step (·.addLines (Source.byteLines d.bytes)) (m.begin d.name)))

def scanDocument (d : Document) (s : Session) : Session × Log :=
  let (o, skip) := d.scan { rules := s.rules, debug := s.debug, heedComments := s.heedComments }
  let metrics := measure d o s.metrics
  match skip with
  | none =>
    let metrics := (metrics.setIssues [o.score]).toOption.getD metrics
    let issues := o.issues.map fun i => { i with origin := i.origin.map ({ · with scan := s.scores.length }) }
    ({ s with metrics, results := s.results ++ issues, scores := s.scores ++ [o.score] }, o.log)
  | some why =>
    let (reason, log) := s.skipNote d.name why
    (dropFile d.name { s with metrics, skipped := s.skipped ++ [(.text d.name, reason)] }, o.log ++ log)

/-- The document of a name; the hyphen stands for standard input. -/
def document (t : FileTree) (input : Except OpenError Bytes) (name : String) : Except OpenError Document :=
  if name == "-" then
    input.map fun bytes =>
      { name := Issue.inputName, bytes, input := some bytes
        contents := (t.read Issue.inputName).toOption, module := .error (.invalid Issue.inputName) }
  else
    (t.read name).map fun bytes => { name, bytes, contents := some bytes, module := moduleName t.isFile name }

def nameInput (s : Session) : Session :=
  let files := s.targets.files.map fun f => if f == "-" then Issue.inputName else f
  { s with targets := { s.targets with files } }

def scanNamed (t : FileTree) (input : Except OpenError Bytes) (s : Session) (name : String) : Session × Log :=
  match document t input name with
  | .ok d => (if name == "-" then s.nameInput else s).scanDocument d
  | .error why => (dropFile name { s with skipped := s.skipped ++ [(.text name, why.message)] }, [])

/-- Whether a run never ends, because the scan of one of the files does not. -/
def endless (t : FileTree) (input : Except OpenError Bytes) (s : Session) : Bool :=
  s.targets.files.any fun name =>
    match document t input name with
    | .ok d => d.endless s.heedComments
    | .error _ => false

/-- Scans all files, if that comes to an end. Standard input is a file like others, which may fail to open. -/
def runWith (t : FileTree) (input : Except OpenError Bytes) (s : Session) : Session × Log :=
  let (s, log) := s.targets.files.foldl (fun (s, log) name =>
    let (s, more) := scanNamed t input s name
    (s, log ++ more)) (s, ([] : Log))
  ({ s with metrics := s.metrics.aggregate }, log)

def run (t : FileTree) (input : Bytes) (s : Session) : Session × Log := s.runWith t (.ok input)

def findings (severity confidence : String) (s : Session) : Answer Findings := do
  let judged ← s.results.mapM fun i => do return (i, ← i.reaches severity confidence)
  let results := (judged.filter Prod.snd).map Prod.fst
  if s.baseline.isEmpty then return .plain results
  return .compared (Baseline.candidates (Baseline.unmatched s.baseline results) results)

def lineSource (t : FileTree) : LineSource := fun name =>
  match t.read name with
  | .ok b => Source.shownLines b
  | .error _ => []

def skippedNames (s : Session) : Answer (List (String × String)) :=
  s.skipped.mapM fun (name, reason) =>
    match name with
    | .text n => .ok (n, reason)
    | .raw b =>
      match Utf8.decode? b with
      | some cs => .ok (String.ofList cs, reason)
      | none => .error .undecodable

end Session

end SourceAudit
