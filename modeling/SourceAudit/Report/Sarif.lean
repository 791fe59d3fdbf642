import SourceAudit.Issue.Excerpt

/-! Parts of a report for tools that exchange results. They are no format: without a further library, which puts them
together, the name of the format is unknown. -/

namespace SourceAudit.Sarif

/-- The lines of an excerpt, ended as it is, and the number of the first. -/
def excerpt (code : Text) : Answer (Int × List Text) := do
  let lines := Segments.splitOn 10 code
  let ended := lines.getLast? == some []
  let lines := if ended then lines.dropLast else lines
  let number ← match lines with
    | [] => pure 0
    | first :: _ =>
      match Whole.read? ((Segments.splitOn 32 first).headD []) with
      | some n => pure n
      | none => throw .badValue
  let texts ← lines.mapM fun (line : Text) =>
    match Segments.cut 32 line with
    | some (_, text) => .ok (text ++ [10])
    | none => .error .outOfRange
  return (number, if ended then texts else texts.dropLast ++ (texts.getLast?.map List.dropLast).toList)

def isPlain (b : UInt8) : Bool :=
  (65 ≤ b && b ≤ 90) || (97 ≤ b && b ≤ 122) || (48 ≤ b && b ≤ 57) || b == 95 || b == 46 || b == 45 ||
    b == 126 || b == 47

def quoteByte (b : UInt8) : String :=
  if isPlain b then String.singleton (Char.ofNat b.toNat)
  else "%" ++ String.ofList ((Escape.hex 2 b.toNat).toList.map Char.toUpper)

def rootOf (path : String) : String :=
  if path.startsWith "//" && !path.startsWith "///" then "//" else if path.startsWith "/" then "/" else ""

/-- The identifier of a file: a relative path, or an absolute one behind the scheme for files. -/
def uri (path : String) : String :=
  let steps := (splitString '/' path).filter fun s => !(s.isEmpty || s == ".")
  let root := rootOf path
  let plain := root ++ joinStrings "/" steps
  let plain := if plain.isEmpty then "." else plain
  (if root.isEmpty then "" else "file://") ++ joinStrings "" ((Utf8.encode plain.toList).map quoteByte)

def level (severity : String) : String :=
  match severity with
  | "HIGH" => "error"
  | "LOW" => "note"
  | _ => "warning"

def knownRule (record rules indices : Value) : Answer (Option (Value × Value)) := do
  let id ← record.entry "test_id"
  if ← rules.holds id then
    let find (v : Value) : Answer Value :=
      match v with
      | .dict es =>
        match Value.lookup id es with
        | some x => .ok x
        | none => .error .missingKey
      | _ => .error .wrongKind
    return some (← find rules, ← find indices)
  else return none

def notices (skipped : List (String × String)) : Option (List Value) :=
  if skipped.isEmpty then none
  else some <| skipped.map fun (file, reason) =>
    .dict [(.str "level", .str "error"), (.str "uri", .str (uri file)), (.str "text", .str reason)]

def addResults (more : List Value) (results : Option (List Value)) : List Value := results.getD [] ++ more

end SourceAudit.Sarif
