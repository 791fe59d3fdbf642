import SourceAudit.Report.Basic
import SourceAudit.Template.Message

/-! Reports with one message for each issue, after a template of the user. -/

namespace SourceAudit.Report

open Template

def standardTemplate : Text := "\x7babspath\x7d:\x7bline\x7d: \x7btest_id\x7d[bandit]: \x7bseverity\x7d: \x7bmsg\x7d"

def tags : List String := [
  "abspath", "relpath", "line", "col", "end_col", "test_id", "severity", "msg", "confidence", "range", "cwe"]

def tagValues (home : String) (i : Issue) : Answer (List (String × Cell)) := do
  if i.filename.isEmpty then throw .badValue
  return [("abspath", .text (Path.absolute home i.filename)), ("relpath", .text (Path.relative home i.filename)),
    ("line", i.line.elim .nothing .number), ("col", .number i.column), ("end_col", .number i.endColumn),
    ("test_id", .text i.testId), ("severity", .text i.severity), ("msg", .text i.text),
    ("confidence", .text i.confidence), ("range", .numbers i.lineRange),
    ("cwe", .shown i.weakness.describe "<bandit.core.issue.Cwe object at 0x0>")]

def likeness (a b : Text) : Nat := (a.eraseDups.filter b.contains).length

/-- The tag most like a name; the last one in order of those that are equally like it. -/
def similarTag (name : Text) : String :=
  (tags.foldl (fun (best : Nat × String) (tag : String) =>
    let n := likeness name tag
    if best.1 < n || (best.1 == n && best.2 ≤ tag) then (n, tag) else best) ((0, "") : Nat × String)).2

inductive MessageError where
  | refused (reason : Text)
  | fault (f : Fault)

def ofTemplateError : TemplateError → MessageError
  | .invalid reason => .refused ("Template is not in valid format: " ++ reason)
  | .fault f => .fault f

def lifted {α : Type} : Except TemplateError α → Except MessageError α
  | .ok a => .ok a
  | .error e => .error (ofTemplateError e)

def fieldNames (ps : List Piece) : List Text := (ps.filterMap fun p => p.field.map Field.name).eraseDups

def isTag (name : Text) : Bool := tags.any fun t => name.is t

def doubleBraces (t : Text) : Text := t.flatMap fun p => if isBrace p then [p, p] else [p]

def writeField (f : Field) : Text :=
  [123] ++ f.name ++ (if f.spec.isEmpty then [] else 58 :: f.spec) ++
    (match f.conversion with | some c => [33, c] | none => []) ++ [125]

/-- The template without unknown fields: their names become text. -/
def knownTemplate (ps : List Piece) : Text :=
  (ps.flatMap fun p => doubleBraces p.literal ++ match p.field with
    | none => []
    | some f => if isTag f.name then writeField f else f.name) ++ [10]

def unknownLog (names : List Text) : Log :=
  (names.filter fun n => !isTag n).map fun n =>
    warning ("Tag '" ++ n ++ "' was not recognized and will be skipped, did you mean to use '" ++ similarTag n ++ "'?")

def checkTemplate (t : Text) : Except MessageError (List Piece) := do
  let ps ← lifted (pieces t)
  let _ ← lifted (try_ (nesting + 1) t)
  if (fieldNames ps).isEmpty then
    throw (.refused "No tags were found in the template. Are you missing '\x7b\x7d'?")
  return ps

def tagCell (values : List (String × Cell)) : Key → Except TemplateError Cell
  | .index _ => .error (.fault .outOfRange)
  | .word w =>
    match values.find? fun v => w.is v.1 with
    | some v => .ok v.2
    | none => .error (.fault .missingKey)

def messageFor (home : String) (template : Text) (i : Issue) : Answer Text := do
  let values ← tagValues home i
  match fill (tagCell values) nesting template with
  | .ok t => return t
  | .error (.fault f) => throw f
  | .error (.invalid _) => throw .badValue

def messages (template : Option Text) (r : Report) : Except MessageError Text × Log :=
  let ofAnswer {α : Type} : Answer α → Except MessageError α
    | .ok a => .ok a
    | .error f => .error (.fault f)
  let checked : Except MessageError (List Piece × List Issue) := do
    let _ ← ofAnswer r.session.skippedNames
    let found ← ofAnswer r.findings
    return (← checkTemplate (template.getD standardTemplate), found.issues)
  match checked with
  | .error (.refused reason) => (.error (.refused reason), [alert reason])
  | .error e => (.error e, [])
  | .ok (ps, issues) =>
    let known := knownTemplate ps
    ((do return (← issues.mapM fun i => ofAnswer (messageFor r.home known i)).flatten), unknownLog (fieldNames ps))

end SourceAudit.Report
