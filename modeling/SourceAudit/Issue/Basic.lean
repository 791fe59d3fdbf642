import SourceAudit.Data.Value

/-! An issue: one finding of one test at one place of a file. -/

namespace SourceAudit

inductive Rank where
  | undefined
  | low
  | medium
  | high
  deriving DecidableEq, Repr, Inhabited

namespace Rank

def all : List Rank := [.undefined, .low, .medium, .high]

def name : Rank → String
  | .undefined => "UNDEFINED"
  | .low => "LOW"
  | .medium => "MEDIUM"
  | .high => "HIGH"

def ofName? (s : String) : Option Rank := all.find? fun r => r.name == s

def index : Rank → Nat
  | .undefined => 0
  | .low => 1
  | .medium => 2
  | .high => 3

def weight : Rank → Nat
  | .undefined => 1
  | .low => 3
  | .medium => 5
  | .high => 10

end Rank

/-- A weakness by its number in the common enumeration; zero is none. -/
structure Weakness where
  id : Int := 0
  deriving DecidableEq, Repr, Inhabited

namespace Weakness

def link (w : Weakness) : String :=
  if w.id == 0 then "" else "https://cwe.mitre.org/data/definitions/" ++ toString w.id ++ ".html"

def describe (w : Weakness) : String :=
  if w.id == 0 then "" else "CWE-" ++ toString w.id ++ " (" ++ w.link ++ ")"

def record (w : Weakness) : Value :=
  if w.id == 0 then .dict [] else .dict [(.str "id", .int w.id), (.str "link", .str w.link)]

end Weakness

/-- Where in a session an issue was found: on which scan, and on which visit of it. -/
structure Origin where
  scan : Nat
  visit : Nat
  deriving DecidableEq, Repr, Inhabited

/-- Severity and confidence are names of ranks; data read from elsewhere may bring other names. -/
structure Issue where
  severity : String
  confidence : String := "UNDEFINED"
  weakness : Weakness := {}
  text : Text := []
  /-- What the issue is about, when that is not the test itself. -/
  ident : Option String := none
  filename : String := ""
  input : Option Bytes := none
  testName : String := ""
  testId : String := ""
  line : Option Int := none
  column : Int := -1
  endColumn : Int := 0
  lineRange : List Int := []
  /-- Unknown for issues from elsewhere. -/
  origin : Option Origin := none
  deriving DecidableEq, Repr, Inhabited

namespace Issue

/-- Issues are the same when they say the same about the same file, wherever in it. -/
def same (a b : Issue) : Bool :=
  a.text == b.text && a.severity == b.severity && a.weakness == b.weakness &&
    a.confidence == b.confidence && a.filename == b.filename && a.testName == b.testName &&
    a.testId == b.testId

def rankOf (name : String) : Answer Rank :=
  match Rank.ofName? name with
  | some r => .ok r
  | none => .error .badValue

def reaches (i : Issue) (severity confidence : String) : Answer Bool := do
  let own ← rankOf i.severity
  let least ← rankOf severity
  if least.index ≤ own.index then
    let own ← rankOf i.confidence
    let least ← rankOf confidence
    return least.index ≤ own.index
  else return false

def describe (i : Issue) : Answer Text := do
  match i.line with
  | none => throw .wrongKind
  | some line =>
    let subject := match i.ident with
      | some s => if s.isEmpty then i.testName else s
      | none => i.testName
    return "Issue: '" ++ i.text ++ "' from " ++ i.testId ++ ":" ++ subject ++ ": CWE: " ++
      i.weakness.describe ++ ", Severity: " ++ i.severity ++ " Confidence: " ++ i.confidence ++
      " at " ++ i.filename ++ ":" ++ toString line ++ ":" ++ toString i.column

end Issue

end SourceAudit
