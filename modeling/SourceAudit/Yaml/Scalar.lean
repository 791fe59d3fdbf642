import SourceAudit.Text.Basic

/-! What a plain scalar means. -/

namespace SourceAudit.Yaml

/-- The tags that plain scalars get by their form, and all other ones by name. -/
inductive Tag where
  | null
  | bool
  | int
  | float
  | timestamp
  | merge
  | value
  | str
  | seq
  | map
  | binary
  | omap
  | pairs
  | set
  | other (name : Text)
  deriving DecidableEq, Repr, Inhabited

namespace Scalar

def isDigitOrLow (p : CodePoint) : Bool := isDigit p || p == 95

def isHex (p : CodePoint) : Bool := isDigit p || (97 ≤ p.val && p.val ≤ 102) || (65 ≤ p.val && p.val ≤ 70)

def dropSign : Text → Text
  | 43 :: rest | 45 :: rest => rest
  | t => t

def allOf (p : CodePoint → Bool) (t : Text) : Bool := !t.isEmpty && t.all p

def boolWords : List Text := [
  "yes", "Yes", "YES", "no", "No", "NO", "true", "True", "TRUE", "false", "False", "FALSE", "on", "On", "ON",
  "off", "Off", "OFF"]

def nullWords : List Text := ["~", "null", "Null", "NULL", ""]

def isSixtieth : Text → Bool
  | [a] => isDigit a
  | [a, b] => 48 ≤ a.val && a.val ≤ 53 && isDigit b
  | _ => false

def isRun : Text → Bool
  | a :: rest => isDigit a && rest.all isDigitOrLow
  | [] => false

def isInt (t : Text) : Bool :=
  match dropSign t with
  | [48] => true
  | 48 :: 98 :: rest => allOf (fun p => p == 48 || p == 49 || p == 95) rest
  | 48 :: 120 :: rest => allOf (fun p => isHex p || p == 95) rest
  | 48 :: rest => allOf (fun p => (48 ≤ p.val && p.val ≤ 55) || p == 95) rest
  | t =>
    match Segments.splitOn 58 t with
    | first :: rest => isRun first && first.head? != some 48 && rest.all isSixtieth
    | [] => false

def isExponent : Text → Bool
  | [] => true
  | e :: sign :: rest => (e == 101 || e == 69) && (sign == 43 || sign == 45) && allOf isDigit rest
  | _ => false

def isFloat (t : Text) : Bool :=
  let body := dropSign t
  let afterDot (t : Text) : Bool := isExponent (t.dropWhile isDigitOrLow)
  let words (ws : List Text) (t : Text) : Bool := ws.contains t
  match body with
  | 46 :: rest =>
    words ["inf", "Inf", "INF"] rest ||
      (t.length == body.length &&
        (words ["nan", "NaN", "NAN"] rest || ((rest.head?.map isDigit).getD false && afterDot rest)))
  | _ =>
    match Segments.cut 46 body with
    | none => false
    | some (whole, rest) =>
      match Segments.splitOn 58 whole with
      | [whole] => isRun whole && afterDot rest
      | first :: more => isRun first && more.all isSixtieth && rest.all isDigitOrLow
      | [] => false

structure StampParts where
  year : Nat
  month : Nat
  day : Nat
  time : Option (Nat × Nat × Nat) := none
  /-- The digits behind the point of the seconds. -/
  fraction : Text := []
  zone : Option Int := none
  deriving Repr

def digits? (least most : Nat) (t : Text) : Option (Nat × Text) :=
  let ds := (t.takeWhile isDigit).take most
  if ds.length < least then none else some (digitsValue ds, t.drop ds.length)

def expect? (p : CodePoint) : Text → Option Text
  | q :: rest => if q == p then some rest else none
  | [] => none

def isBlank (p : CodePoint) : Bool := p == 32 || p == 9

def zone? : Text → Option (Option Int)
  | [] => some none
  | t =>
    match t.dropWhile isBlank with
    | [90] => some (some 0)
    | sign :: rest => do
      if sign != 43 && sign != 45 then none
      let (hours, rest) ← digits? 1 2 rest
      let minutes ← match rest with
        | [] => some 0
        | 58 :: rest => do
          let (minutes, rest) ← digits? 2 2 rest
          if rest.isEmpty then some minutes else none
        | _ => none
      let total : Int := 60 * hours + minutes
      return some (if sign == 45 then -total else total)
    | [] => none

def stamp? (t : Text) : Option StampParts :=
  let date := fun least => do
    let (year, rest) ← digits? 4 4 t
    let (month, rest) ← digits? least 2 (← expect? 45 rest)
    let (day, rest) ← digits? least 2 (← expect? 45 rest)
    some (({ year, month, day } : StampParts), rest)
  let dateOnly := (date 2).bind fun (p, rest) => if rest.isEmpty then some p else none
  dateOnly.orElse fun _ => do
    let (p, rest) ← date 1
    let rest ← match rest with
      | 84 :: rest | 116 :: rest => some rest
      | p :: rest => if isBlank p then some (rest.dropWhile isBlank) else none
      | [] => none
    let (hour, rest) ← digits? 1 2 rest
    let (minute, rest) ← digits? 2 2 (← expect? 58 rest)
    let (second, rest) ← digits? 2 2 (← expect? 58 rest)
    let (fraction, rest) := match rest with
      | 46 :: rest => (rest.takeWhile isDigit, rest.dropWhile isDigit)
      | rest => ([], rest)
    let zone ← zone? rest
    return { p with time := some (hour, minute, second), fraction, zone }

def tagOf (t : Text) : Tag :=
  match t with
  | [] => .null
  | first :: _ =>
    let starts (cs : Text) : Bool := cs.contains first
    if boolWords.contains t then .bool
    else if (isDigit first || starts "-+.") && isFloat t then .float
    else if (isDigit first || starts "-+") && isInt t then .int
    else if t == [60, 60] then .merge
    else if nullWords.contains t then .null
    else if isDigit first && (stamp? t).isSome then .timestamp
    else if t == [61] then .value
    else .str

end Scalar

end SourceAudit.Yaml
