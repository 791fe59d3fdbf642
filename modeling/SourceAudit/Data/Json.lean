import SourceAudit.Data.Value

/-! The JSON form of values: reading and writing. -/

namespace SourceAudit.Json

/-! ### Reading -/

def isBlank (p : CodePoint) : Bool := p == 32 || p == 9 || p == 10 || p == 13

def skipBlanks (t : Text) : Text := t.dropWhile isBlank

def letters : List (Nat × Nat) := [(34, 34), (92, 92), (98, 8), (102, 12), (110, 10), (114, 13), (116, 9)]

def joinedEscape? (n : Nat) (t : Text) : Option (Nat × Text) :=
  if 0xD800 ≤ n && n < 0xDC00 then
    match t with
    | 92 :: 117 :: low => do
      let (m, rest) ← Escape.hexRun? 4 low
      if 0xDC00 ≤ m && m < 0xE000 then some (0x10000 + (n - 0xD800) * 0x400 + (m - 0xDC00), rest)
      else none
    | _ => none
  else none

def textBody : Nat → Text → Option (Text × Text)
  | 0, _ => none
  | _, [] => none
  | fuel + 1, p :: rest =>
    if p == 34 then some ([], rest)
    else if p == 92 then
      match rest with
      | [] => none
      | e :: rest =>
        if e == 117 then do
          let (n, rest) ← Escape.hexRun? 4 rest
          let (n, rest) := (joinedEscape? n rest).getD (n, rest)
          let (t, rest) ← textBody fuel rest
          return (CodePoint.ofNat n :: t, rest)
        else do
          -- a slash may stand behind the mark, though it need not
          let c ← ((47, 47) :: letters).lookup e.val
          let (t, rest) ← textBody fuel rest
          return (CodePoint.ofNat c :: t, rest)
    else if p.val < 32 then none
    else do
      let (t, rest) ← textBody fuel rest
      return (p :: t, rest)

def fraction (t : Text) : Text × Text :=
  match t with
  | 46 :: more =>
    let ds := more.takeWhile isDigit
    if ds.isEmpty then ([], t) else (ds, more.dropWhile isDigit)
  | _ => ([], t)

def exponent (t : Text) : Option Int × Text :=
  match t with
  | e :: more =>
    if e == 101 || e == 69 then
      let minus := more.head? == some 45
      let more := if minus || more.head? == some 43 then more.tail else more
      let ds := more.takeWhile isDigit
      if ds.isEmpty then (none, t)
      else
        let n : Int := digitsValue ds
        (some (if minus then -n else n), more.dropWhile isDigit)
    else (none, t)
  | [] => (none, t)

def unsigned (negative : Bool) (t : Text) : Option (Value × Text) := do
  let whole := t.takeWhile isDigit
  let rest := t.dropWhile isDigit
  let (whole, rest) ←
    match whole with
    | [] => none
    | d :: more => if d == 48 then some ([d], more ++ rest) else some (whole, rest)
  let (decimals, rest) := fraction rest
  let (power, rest) := exponent rest
  if decimals.isEmpty && power.isNone then
    let n : Int := digitsValue whole
    return (.int (if negative then -n else n), rest)
  else
    return (.float (Binary64.ofDecimal negative (digitsValue (whole ++ decimals))
      (power.getD 0 - decimals.length)), rest)

def number : Text → Option (Value × Text)
  | 45 :: t => unsigned true t
  | t => unsigned false t

def words : List (Text × Value) :=
  [("null", .null), ("true", .bool true), ("false", .bool false), ("NaN", .float .nan),
    ("Infinity", .float (.infinite false)), ("-Infinity", .float (.infinite true))]

mutual

def value : Nat → Text → Option (Value × Text)
  | 0, _ => none
  | _, [] => none
  | fuel + 1, p :: rest =>
    if p == 34 then do
      let (t, rest) ← textBody (rest.length + 1) rest
      return (.text t, rest)
    else if p == 91 then
      match skipBlanks rest with
      | 93 :: rest => some (.list [], rest)
      | rest => do
        let (vs, rest) ← items fuel rest
        return (.list vs, rest)
    else if p == 123 then
      match skipBlanks rest with
      | 125 :: rest => some (.dict [], rest)
      | rest => do
        let (es, rest) ← members fuel rest
        return (Value.dictOf es, rest)
    else
      match words.find? fun (w, _) => w.isPrefixOf (p :: rest) with
      | some (w, v) => some (v, (p :: rest).drop w.length)
      | none => number (p :: rest)

def items : Nat → Text → Option (List Value × Text)
  | 0, _ => none
  | fuel + 1, t => do
    let (v, rest) ← value fuel t
    match skipBlanks rest with
    | 44 :: rest =>
      let (vs, rest) ← items fuel (skipBlanks rest)
      return (v :: vs, rest)
    | 93 :: rest => return ([v], rest)
    | _ => none

def members : Nat → Text → Option (Fields × Text)
  | 0, _ => none
  | fuel + 1, t => do
    let 34 :: rest := t | none
    let (key, rest) ← textBody (rest.length + 1) rest
    let 58 :: rest := skipBlanks rest | none
    let (v, rest) ← value fuel (skipBlanks rest)
    match skipBlanks rest with
    | 44 :: rest =>
      let (es, rest) ← members fuel (skipBlanks rest)
      return ((.text key, v) :: es, rest)
    | 125 :: rest => return ([(.text key, v)], rest)
    | _ => none

end

def read? (t : Text) : Option Value := do
  let (v, rest) ← value (t.length + 1) (skipBlanks t)
  if (skipBlanks rest).isEmpty then some v else none

/-! ### Writing -/

structure Layout where
  /-- Blanks by which each level is indented; without it all stands on one line. -/
  indent : Option Nat := none
  separator : String := ", "
  sorted : Bool := false

def unit (n : Nat) : String := "\\u" ++ Escape.hex 4 n

def writePoint (p : CodePoint) : String :=
  match letters.find? fun (_, c) => c == p.val with
  | some (e, _) => String.ofList ['\\', Char.ofNat e]
  | none =>
    if 32 ≤ p.val && p.val < 127 then String.singleton p.toChar
    else if p.val < 0x10000 then unit p.val
    else
      let n := p.val - 0x10000
      unit (0xD800 + n / 0x400) ++ unit (0xDC00 + n % 0x400)

def writeText (t : Text) : String := t.foldl (fun s p => s ++ writePoint p) "\"" ++ "\""

def writeFloat (x : Binary64) : String :=
  match x with
  | .nan => "NaN"
  | .infinite negative => if negative then "-Infinity" else "Infinity"
  | x => x.render

def writeKey : Value → String
  | .text t => writeText t
  | .int n => "\"" ++ toString n ++ "\""
  | .bool b => if b then "\"true\"" else "\"false\""
  | .float x => "\"" ++ writeFloat x ++ "\""
  | _ => "\"null\""

def keyBefore (a b : Value) : Bool :=
  match a, b with
  | .text x, .text y => x.precedes y
  | _, _ => true

def bracket (l : Layout) (depth : Nat) (left right : String) (parts : List String) : String :=
  if parts.isEmpty then left ++ right
  else match l.indent with
    | none => left ++ l.separator.intercalate parts ++ right
    | some width =>
      let line (n : Nat) : String := "\n" ++ String.ofList (List.replicate (width * n) ' ')
      left ++ line (depth + 1) ++ ("," ++ line (depth + 1)).intercalate parts ++ line depth ++ right

mutual

def writeAt (l : Layout) (depth : Nat) : Value → String
  | .null | .fragment _ => "null"
  | .bool b => if b then "true" else "false"
  | .int n => toString n
  | .float x | .imaginary x => writeFloat x
  | .text t => writeText t
  | .bytes b => writeText (Bytes.toText b)
  | .stamp s => writeText s
  | .list vs | .tuple vs | .set vs => bracket l depth "[" "]" (writeItems l (depth + 1) vs)
  | .dict es =>
    let parts := writeMembers l (depth + 1) es
    let parts := if l.sorted then parts.mergeSort fun a b => keyBefore a.1 b.1 else parts
    bracket l depth "\x7b" "\x7d" (parts.map Prod.snd)

def writeItems (l : Layout) (depth : Nat) : List Value → List String
  | [] => []
  | v :: vs => writeAt l depth v :: writeItems l depth vs

def writeMembers (l : Layout) (depth : Nat) : Fields → List (Value × String)
  | [] => []
  | (k, v) :: es => (k, writeKey k ++ ": " ++ writeAt l depth v) :: writeMembers l depth es

end

def write (l : Layout) (v : Value) : String := writeAt l 0 v

end SourceAudit.Json
