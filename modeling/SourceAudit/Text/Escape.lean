import SourceAudit.Text.Basic

/-! Backslash escapes of text. -/

namespace SourceAudit.Escape

def hex (width n : Nat) : String :=
  let digits := String.ofList (Nat.toDigits 16 n)
  String.ofList (List.replicate (width - digits.length) '0') ++ digits

def hexValue? (p : CodePoint) : Option Nat := hexDigit? (Char.ofNat p.val)

def octalValue? (p : CodePoint) : Option Nat :=
  if 48 ≤ p.val && p.val ≤ 55 then some (p.val - 48) else none

def hexRun? : Nat → Text → Option (Nat × Text)
  | 0, t => some (0, t)
  | _ + 1, [] => none
  | count + 1, p :: t => do
    let d ← hexValue? p
    let (n, rest) ← hexRun? count t
    return (d * Nat.pow 16 count + n, rest)

def octalRun (value : Nat) : Nat → Text → Nat × Text
  | 0, t => (value, t)
  | _ + 1, [] => (value, [])
  | count + 1, p :: t =>
    match octalValue? p with
    | some d => octalRun (value * 8 + d) count t
    | none => (value, p :: t)

def simple? (p : CodePoint) : Option Nat :=
  [(92, 92), (39, 39), (34, 34), (98, 8), (102, 12), (116, 9), (110, 10), (114, 13), (118, 11), (97, 7)].lookup p.val

def namedRun? : Text → Option (String × Text)
  | p :: t =>
    if p.val == 123 then
      let name := t.takeWhile (·.val != 125)
      match t.dropWhile (·.val != 125) with
      | _ :: rest => if name.isEmpty then none else some (Text.toStringLossy name, rest)
      | [] => none
    else none
  | [] => none

/-- What an escape, without its backslash, stands for and what follows it; an unknown one stands for itself. -/
def read? (named : String → Option CodePoint) : Text → Option (Text × Text)
  | [] => none
  | p :: t =>
    let numbered := fun (width : Nat) => do
      let (n, rest) ← hexRun? width t
      if n < 0x110000 then some ([CodePoint.ofNat n], rest) else none
    if p.val == 10 then some ([], t)
    else if p.val == 120 then numbered 2
    else if p.val == 117 then numbered 4
    else if p.val == 85 then numbered 8
    else if p.val == 78 then do
      let (name, rest) ← namedRun? t
      return ([← named name], rest)
    else match octalValue? p with
      | some d =>
        let (n, rest) := octalRun d 2 t
        some ([CodePoint.ofNat n], rest)
      | none =>
        match simple? p with
        | some n => some ([CodePoint.ofNat n], t)
        | none => some ([92, p], t)

/-- Reads text with escapes; none when an escape is cut short or names no code point. -/
def decode? (named : String → Option CodePoint) (t : Text) : Option Text := go t.length t
where
  go : Nat → Text → Option Text
    | _, [] => some []
    | 0, _ => none
    | n + 1, p :: t =>
      if p.val == 92 then do
        let (value, rest) ← read? named t
        return value ++ (← go n rest)
      else (go n t).map (p :: ·)

/-- Reads bytes with escapes. Those that name code points by number or name are none here. -/
def decodeBytes? (t : Text) : Option Bytes := go t.length t
where
  go : Nat → Text → Option Bytes
    | _, [] => some []
    | 0, _ => none
    | n + 1, p :: t =>
      if p.val == 92 then
        match t with
        | [] => none
        | q :: rest =>
          if q.val == 117 || q.val == 85 || q.val == 78 then
            (go n rest).map ([92, q.val.toUInt8] ++ ·)
          else do
            let (value, rest) ← read? (fun _ => none) (q :: rest)
            return value.map (·.val.toUInt8) ++ (← go n rest)
      else (go n t).map (p.val.toUInt8 :: ·)

def encodePoint (p : CodePoint) : String :=
  if p.val == 92 then "\\\\"
  else if p.val == 9 then "\\t"
  else if p.val == 10 then "\\n"
  else if p.val == 13 then "\\r"
  else if 32 ≤ p.val && p.val < 127 then String.singleton (Char.ofNat p.val)
  else if p.val < 256 then "\\x" ++ hex 2 p.val
  else if p.val < 0x10000 then "\\u" ++ hex 4 p.val
  else "\\U" ++ hex 8 p.val

def encode (t : Text) : Text := t.flatMap fun p => Text.ofString (encodePoint p)

end SourceAudit.Escape
