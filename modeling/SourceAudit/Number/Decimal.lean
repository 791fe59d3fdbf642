import SourceAudit.Number.Binary64
import SourceAudit.Text.Basic

/-! Reading numbers from text. -/

namespace SourceAudit.Whole

/-- The value of digits, behind at least one digit; underscores only between digits. -/
def digits (value : Nat) : Text → Option Nat
  | [] => some value
  | p :: rest =>
    match DecimalDigit.value? p with
    | some d => digits (10 * value + d) rest
    | none =>
      match rest with
      | q :: rest =>
        if p == 95 then
          match DecimalDigit.value? q with
          | some d => digits (10 * value + d) rest
          | none => none
        else none
      | [] => none

def unsigned? : Text → Option Nat
  | [] => none
  | p :: rest =>
    match DecimalDigit.value? p with
    | some d => digits d rest
    | none => none

def read? (t : Text) : Option Int :=
  match Segments.trim Folding.isBlank t with
  | 45 :: rest => (unsigned? rest).map fun n => -(n : Int)
  | 43 :: rest => (unsigned? rest).map fun n => (n : Int)
  | t => (unsigned? t).map fun n => (n : Int)

end SourceAudit.Whole

namespace SourceAudit.Decimal

/-- A run of digits at the beginning, single underscores allowed between them: its value, its width and the
rest. -/
def run (value width : Nat) : Text → Nat × Nat × Text
  | [] => (value, width, [])
  | p :: rest =>
    match DecimalDigit.value? p with
    | some d => run (10 * value + d) (width + 1) rest
    | none =>
      match p, rest with
      | 95, q :: more =>
        match DecimalDigit.value? q with
        | some d => if width == 0 then (value, width, p :: rest) else run (10 * value + d) (width + 1) more
        | none => (value, width, p :: rest)
      | _, _ => (value, width, p :: rest)

def exponent? : Text → Option Int
  | [] => some 0
  | e :: rest => do
    if e != 101 && e != 69 then none
    let (negative, rest) := match rest with
      | 45 :: rest => (true, rest)
      | 43 :: rest => (false, rest)
      | rest => (false, rest)
    let (n, width, rest) := run 0 0 rest
    if width == 0 || !rest.isEmpty then none
    return if negative then -(n : Int) else n

def unsigned? (negative : Bool) (t : Text) : Option Binary64 := do
  let word : Text := t.map smallLetter
  if word.is "inf" || word.is "infinity" then return .infinite negative
  if word.is "nan" then return .nan
  let (whole, width, rest) := run 0 0 t
  let (digits, places, rest) := match rest with
    | 46 :: rest =>
      let (fraction, places, rest) := run 0 0 rest
      (whole * Nat.pow 10 places + fraction, places, rest)
    | rest => (whole, 0, rest)
  if width + places == 0 then none
  return Binary64.ofDecimal negative digits ((← exponent? rest) - places)

def read? (t : Text) : Option Binary64 :=
  match Segments.trim Folding.isBlank t with
  | 45 :: rest => unsigned? true rest
  | 43 :: rest => unsigned? false rest
  | t => unsigned? false t

end SourceAudit.Decimal
