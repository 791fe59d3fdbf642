import SourceAudit.Rule.Basic
import SourceAudit.Source.Comment

/-! Control characters that change the direction of text. -/

namespace SourceAudit.Rule

def directionControls : List Char :=
  [0x202A, 0x202B, 0x202C, 0x202D, 0x202E, 0x2066, 0x2067, 0x2068, 0x2069, 0x200F].map Char.ofNat

def controlIn (line : List Char) : Option (Char × Nat) :=
  directionControls.findSome? fun c => (line.findIdx? (· == c)).map fun i => (c, i + 1)

def trojanSource : Rule :=
  plain "B613" "trojansource" "File" fun c => do
    match c.contents with
    | none => throw .noSuchFile
    | some b =>
      match Source.textLines? b with
      | none => throw .undecodable
      | some lines =>
        return lines.zipIdx.findSome? fun (line, i) =>
          (controlIn line).map fun (control, column) =>
            { finding .high .medium 838
                ("A Python source file contains bidirectional control characters (" ++
                  Quoted.text (Text.ofChars [control]) ++ ").") (some ((i : Int) + 1)) with
              column := column }

end SourceAudit.Rule
