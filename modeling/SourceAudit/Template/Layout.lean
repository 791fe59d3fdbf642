import SourceAudit.Data.Value

/-! Texts and numbers laid out in a field as a specification says. -/

namespace SourceAudit.Template

/-- What goes wrong with a template: it is not well formed, or a value does not fit its field. -/
inductive TemplateError where
  | invalid (reason : Text)
  | fault (f : Fault)
  deriving DecidableEq, Repr

def invalid {α : Type} (reason : Text) : Except TemplateError α := .error (.invalid reason)

structure Spec where
  fill : CodePoint := 32
  align : CodePoint
  sign : Option CodePoint := none
  /-- Negative zero is to be written without its sign. -/
  positiveZero : Bool := false
  alternate : Bool := false
  width : Option Nat := none
  separator : Option CodePoint := none
  precision : Option Nat := none
  kind : CodePoint
  deriving DecidableEq, Repr

/-- The types of values, as messages name them, with the kind and alignment they have by default. -/
structure FieldType where
  name : String
  kind : CodePoint
  align : CodePoint

def textType : FieldType := ⟨"str", 115, 60⟩

def numberType : FieldType := ⟨"int", 100, 62⟩

def greatestNumber : Nat := 9223372036854775807

def leadingNumber (t : Text) : Except TemplateError (Option Nat × Text) :=
  let digits := t.takeWhile DecimalDigit.isDecimal
  let n := digits.foldl (fun n p => 10 * n + (DecimalDigit.value? p.val).getD 0) 0
  if digits.isEmpty then .ok (none, t)
  else if greatestNumber < n then invalid "Too many decimal digits in format string"
  else .ok (some n, t.dropWhile DecimalDigit.isDecimal)

def isAlign (p : CodePoint) : Bool := p == 60 || p == 62 || p == 61 || p == 94

def isSign (p : CodePoint) : Bool := p == 32 || p == 43 || p == 45

def shownCode (p : CodePoint) : Text :=
  if 32 < p.val && p.val < 128 then [p]
  else Text.ofString ("\\x" ++ String.ofList (Nat.toDigits 16 p.val))

def unknownCode {α : Type} (kind : CodePoint) (type : FieldType) : Except TemplateError α :=
  invalid ("Unknown format code '" ++ shownCode kind ++ "' for object of type '" ++ type.name ++ "'")

/-- Separators go with decimal kinds only; underscores also with the binary ones. -/
def checkSeparator (s : Spec) : Except TemplateError Unit :=
  match s.separator with
  | none => .ok ()
  | some separator =>
    if ("defgEG%F" : Text).contains s.kind then .ok ()
    else if separator == 95 && ("boxX" : Text).contains s.kind then .ok ()
    else invalid ("Cannot specify '" ++ [separator] ++ "' with '" ++ shownCode s.kind ++ "'.")

def readAlign (s : Spec) : Text → Spec × Bool × Bool × Text
  | p :: q :: rest =>
    if isAlign q then ({ s with fill := p, align := q }, true, true, rest)
    else if isAlign p then ({ s with align := p }, true, false, q :: rest)
    else (s, false, false, p :: q :: rest)
  | [p] => if isAlign p then ({ s with align := p }, true, false, []) else (s, false, false, [p])
  | [] => (s, false, false, [])

def takeCode (code : CodePoint) : Text → Bool × Text
  | p :: rest => if p == code then (true, rest) else (false, p :: rest)
  | [] => (false, [])

def readSign (s : Spec) : Text → Spec × Text
  | p :: rest => if isSign p then ({ s with sign := some p }, rest) else (s, p :: rest)
  | [] => (s, [])

def readSeparator (t : Text) : Except TemplateError (Option CodePoint × Text) :=
  let both {α : Type} : Except TemplateError α := invalid "Cannot specify both ',' and '_'."
  match t with
  | 44 :: 95 :: _ => both
  | 44 :: rest => .ok (some 44, rest)
  | 95 :: 44 :: _ => both
  | 95 :: rest => .ok (some 95, rest)
  | t => .ok (none, t)

def readPrecision : Text → Except TemplateError (Option Nat × Text)
  | 46 :: rest => do
    match ← leadingNumber rest with
    | (none, _) => invalid "Format specifier missing precision"
    | found => return found
  | t => .ok (none, t)

def Spec.read (type : FieldType) (t : Text) : Except TemplateError Spec := do
  let (s, aligned, filled, rest) := readAlign { align := type.align, kind := type.kind } t
  let (s, rest) := readSign s rest
  let (positiveZero, rest) := takeCode 122 rest
  let (alternate, rest) := takeCode 35 rest
  let s := { s with positiveZero, alternate }
  let (zero, rest) := if filled then (false, rest) else takeCode 48 rest
  let s := if zero then
      { s with fill := 48, align := if !aligned && type.align == 62 then 61 else s.align }
    else s
  let (width, rest) ← leadingNumber rest
  let (separator, rest) ← readSeparator rest
  let (precision, rest) ← readPrecision rest
  let s := { s with width, separator, precision }
  let s ← match rest with
    | [] => pure s
    | [kind] => pure { s with kind }
    | _ => invalid ("Invalid format specifier '" ++ t ++ "' for object of type '" ++ type.name ++ "'")
  checkSeparator s
  return s

def widest : Nat := 10000000

def blanks (fill : CodePoint) (n : Int) : Text := List.replicate n.toNat fill

def pad (s : Spec) (front back : Text) : Text :=
  let missing : Int := (s.width.getD 0 : Nat) - (front.length + back.length : Int)
  let left : Int := if s.align == 62 then missing else if s.align == 94 then missing / 2 else 0
  let middle : Int := if s.align == 61 then missing else 0
  blanks s.fill left ++ front ++ blanks s.fill middle ++ back ++ blanks s.fill (missing - left - middle)

/-! ### Texts -/

def checkText (s : Spec) : Except TemplateError Unit := do
  if s.kind != 115 then unknownCode s.kind textType
  match s.sign with
  | some 32 => invalid "Space not allowed in string format specifier"
  | some _ => invalid "Sign not allowed in string format specifier"
  | none => pure ()
  if s.positiveZero then
    invalid "Negative zero coercion (z) not allowed in string format specifier"
  if s.alternate then invalid "Alternate form (#) not allowed in string format specifier"
  if s.align == 61 then invalid "'=' alignment not allowed in string format specifier"

def layText (spec t : Text) : Except TemplateError Text := do
  if spec.isEmpty then return t
  let s ← Spec.read textType spec
  checkText s
  if widest < s.width.getD 0 then throw (.fault .tooLarge)
  return pad s [] (s.precision.elim t t.take)

/-! ### Numbers -/

structure NumberParts where
  negative : Bool := false
  base : Text := []
  digits : Text := []
  rest : Text := []

/-- Groups of digits from the right, with separators and zeros up to a width, all in reverse. -/
def groupReversed (size : Nat) (separator : CodePoint) : Nat → Text → Int → Text
  | 0, digits, _ => digits
  | fuel + 1, digits, width =>
    let count := min size (max (max digits.length width.toNat) 1)
    let chunk := digits.take count
    let chunk := chunk ++ List.replicate (count - chunk.length) 48
    let digits := digits.drop count
    let width := width - count
    if digits.isEmpty && width ≤ 0 then chunk
    else chunk ++ [separator] ++ groupReversed size separator fuel digits (width - 1)

def groupDigits (size : Nat) (separator : Option CodePoint) (digits : Text) (width : Int) : Text :=
  match separator with
  | none => List.replicate (width.toNat - digits.length) 48 ++ digits
  | some separator => (groupReversed size separator (digits.length + width.toNat + 1) digits.reverse width).reverse

def padNumber (s : Spec) (n : NumberParts) : Text :=
  let sign := if n.negative then [45] else (s.sign.filter (· != 45)).toList
  let fixed : Int := sign.length + n.base.length + n.rest.length
  let least := if s.fill == 48 && s.align == 61 then (s.width.getD 0 : Nat) - fixed else 0
  let size := if ("boxX" : Text).contains s.kind then 4 else 3
  let digits := if n.digits.isEmpty then [] else groupDigits size s.separator n.digits least
  pad s (sign ++ n.base) (digits ++ n.rest)

def wholeParts (s : Spec) (n : Int) : NumberParts :=
  let (radix, mark) : Nat × String := match s.kind with
    | 98 => (2, "0b")
    | 111 => (8, "0o")
    | 120 | 88 => (16, "0x")
    | _ => (10, "")
  let digits := Text.ofString (String.ofList (Nat.toDigits radix n.natAbs))
  let base : Text := if s.alternate then mark else ""
  if s.kind == 88 then { negative := n < 0, base := capitals base, digits := capitals digits }
  else { negative := n < 0, base, digits }

def characterParts (s : Spec) (n : Int) : Except TemplateError NumberParts := do
  if s.sign.isSome then invalid "Sign not allowed with integer format specifier 'c'"
  if s.alternate then invalid "Alternate form (#) not allowed with integer format specifier 'c'"
  if n < 0 || 0x10FFFF < n then throw (.fault .tooLarge)
  return { rest := [CodePoint.ofNat n.toNat] }

def digitsText (ds : List Nat) : Text := ds.map fun d => CodePoint.ofNat (48 + d)

def fraction (alternate : Bool) (ds : List Nat) : Text :=
  if ds.isEmpty && !alternate then [] else 46 :: digitsText ds

def fixedParts (alternate : Bool) (places num den : Nat) : Text × Text :=
  let ds := Digits.ofNat (Binary64.roundHalfEven (num * Nat.pow 10 places) den)
  let ds := List.replicate (places + 1 - ds.length) 0 ++ ds
  (digitsText (ds.take (ds.length - places)), fraction alternate (ds.drop (ds.length - places)))

def exponentParts (alternate : Bool) (d : Digits) : Text × Text :=
  (digitsText (d.digits.take 1), fraction alternate (d.digits.drop 1) ++ "e" ++ Digits.exponentText (d.point - 1))

/-- A ratio with so many significant digits, perhaps with an exponent; zeros at the end stay if asked for. -/
def generalParts (alternate : Bool) (count num den : Nat) : Text × Text :=
  let count := max count 1
  let d := Digits.significant num den count
  let kept := if alternate then d.digits else
    match Digits.trimZeros d.digits with
    | [] => [0]
    | ds => ds
  if d.point ≤ -4 || (count : Int) < d.point then exponentParts alternate ⟨kept, d.point⟩
  else if d.point ≤ 0 then
    ([48], fraction alternate (List.replicate d.point.natAbs 0 ++ kept))
  else
    let whole := kept.take d.point.toNat
    (digitsText (whole ++ List.replicate (d.point.toNat - whole.length) 0),
      fraction alternate (kept.drop d.point.toNat))

def fractionParts (s : Spec) (n : Int) : Except TemplateError NumberParts := do
  let x := Binary64.ofInt n
  let x := if s.kind == 37 then x.scale 100 else x
  match x.ratio? with
  | none => throw (.fault .tooLarge)
  | some (num, den) =>
    let places := s.precision.getD 6
    if 2147483648 ≤ places then invalid "precision too big"
    if widest < places then throw (.fault .tooLarge)
    let num' := num.natAbs
    let (digits, rest) := match s.kind with
      | 101 | 69 => exponentParts s.alternate (Digits.significant num' den (places + 1))
      | 103 | 71 => generalParts s.alternate places num' den
      | _ => fixedParts s.alternate places num' den
    let rest := if s.kind == 69 || s.kind == 71 then capitals rest else rest
    return { negative := num < 0, digits, rest := if s.kind == 37 then rest ++ [37] else rest }

def numberParts (s : Spec) (n : Int) : Except TemplateError NumberParts := do
  if ("bcdoxXn" : Text).contains s.kind then
    if s.precision.isSome then invalid "Precision not allowed in integer format specifier"
    if s.positiveZero then
      invalid "Negative zero coercion (z) not allowed in integer format specifier"
    if s.kind == 99 then characterParts s n else return wholeParts s n
  else if ("eEfFgG%" : Text).contains s.kind then fractionParts s n
  else unknownCode s.kind numberType

def layNumber (spec : Text) (n : Int) : Except TemplateError Text := do
  if spec.isEmpty then return Text.ofString (toString n)
  let s ← Spec.read numberType spec
  let parts ← numberParts s n
  if widest < s.width.getD 0 then throw (.fault .tooLarge)
  return padNumber s parts

end SourceAudit.Template
