import SourceAudit.Issue.Basic
import SourceAudit.Number.Decimal
import SourceAudit.Source.Encoding

/-! The lines of source shown with an issue, its record, and issues from their records. -/

namespace SourceAudit

/-- The lines of files, by name; a file that cannot be read has none. -/
abbrev LineSource := String → List Text

namespace Issue

def inputName : String := "<stdin>"

/-- The lines from a number on that are shown, with their numbers: none behind the first missing one. -/
def numbered (line : Int → Answer (Option Text)) : Nat → Int → Answer (List (Int × Text))
  | 0, _ => .ok []
  | count + 1, n => do
    match ← line n with
    | none => return []
    | some [] => return []
    | some t => return (n, t) :: (← numbered line count (n + 1))

def lineAt (files : LineSource) (i : Issue) (n : Int) : Answer (Option Text) :=
  if i.filename == inputName then
    match i.input with
    | none => .error .missingAttribute
    | some b =>
      match (Source.feedLines b)[(n - 1).toNat]? with
      | none => .ok none
      | some l =>
        match Utf8.decode? l with
        | some cs => .ok (some (Text.ofChars cs))
        | none => .error .undecodable
  else if n < 1 then .ok none
  else .ok ((files i.filename)[(n - 1).toNat]?)

def code (files : LineSource) (maxLines : Int) (tabbed : Bool) (i : Issue) : Answer Text := do
  match i.line with
  | none => throw .wrongKind
  | some line =>
    let around := max maxLines 1
    let first := max 1 (line - around / 2)
    if i.filename == inputName && i.input.isNone then throw .missingAttribute
    let shown ← numbered (i.lineAt files) (i.lineRange.length + (around - 1).toNat) first
    let gap : String := if tabbed then "\t" else " "
    return shown.flatMap fun (n, t) => ((toString n ++ gap : String) : Text) ++ t

def fields (i : Issue) : Fields := [(.str "filename", .str i.filename), (.str "test_name", .str i.testName),
  (.str "test_id", .str i.testId), (.str "issue_severity", .str i.severity),
  (.str "issue_cwe", i.weakness.record), (.str "issue_confidence", .str i.confidence),
  (.str "issue_text", .text i.text),
  (.str "line_number", (i.line.map Value.int).getD .null),
  (.str "line_range", .list (i.lineRange.map Value.int)),
  (.str "col_offset", .int i.column), (.str "end_col_offset", .int i.endColumn)]

def entries (i : Issue) : Answer Fields := do
  if (Utf8.encodeText? i.text).isNone then throw .unencodable
  return i.fields

def recordEntries (files : LineSource) (maxLines : Int) (i : Issue) : Answer Fields := do
  let es ← i.entries
  return es ++ [(.str "code", .text (← i.code files maxLines false))]

def record (files : LineSource) (maxLines : Int) (i : Issue) : Answer Value :=
  Value.dict <$> i.recordEntries files maxLines

def textField (key : String) (record : Value) : Answer Text := do
  match ← record.entry key with
  | .text t => return t
  | v => return v.display

def stringField (key : String) (record : Value) : Answer String := do
  return (← textField key record).toStringLossy

def wholeNumber : Value → Answer Int
  | .text t =>
    match Whole.read? t with
    | some n => .ok n
    | none => .error .badValue
  | v => v.whole

def weaknessOf (v : Value) : Answer Weakness := do
  if ← v.holds (.str "id") then return ⟨← wholeNumber (← v.entry "id")⟩
  else return {}

def columnField (key : String) (record : Value) : Answer Int := do
  match ← record.entryD key (.int 0) with
  | .int n => return n
  | v => v.whole

def ofRecord (record : Value) : Answer Issue := do
  let severity ← stringField "issue_severity" record
  let _ ← record.entry "code"
  let filename ← stringField "filename" record
  let weakness ← weaknessOf (← record.entry "issue_cwe")
  let confidence ← stringField "issue_confidence" record
  let text ← textField "issue_text" record
  let testName ← stringField "test_name" record
  let testId ← stringField "test_id" record
  let line ← match ← record.entry "line_number" with
    | .int n => pure (some n)
    | _ => pure none
  let lineRange ← match ← record.entry "line_range" with
    | .list vs => pure (vs.map fun | .int n => n | _ => 0)
    | _ => pure []
  let column ← columnField "col_offset" record
  let endColumn ← columnField "end_col_offset" record
  return {
    severity := severity, confidence, weakness, text, filename, testName, testId, line, column, endColumn
    lineRange }

end Issue

end SourceAudit
