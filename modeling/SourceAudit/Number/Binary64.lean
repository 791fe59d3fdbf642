/-! Binary floating point numbers of 64 bits, with exact integer arithmetic, and their shortest spellings. -/

namespace SourceAudit

/-- A number is `mantissa * 2 ^ exponent`, in normal form with a mantissa below `2 ^ 53`, and at least `2 ^ 52` unless
the exponent is -1074. -/
inductive Binary64 where
  | finite (negative : Bool) (mantissa : Nat) (exponent : Int)
  | infinite (negative : Bool)
  | nan
  deriving DecidableEq, Repr, Inhabited

namespace Binary64

def leastExponent : Int := -1074

def zero (negative : Bool) : Binary64 := .finite negative 0 leastExponent

def roundHalfEven (num den : Nat) : Nat :=
  let q := num / den
  let r := num % den
  if 2 * r < den || (2 * r == den && q % 2 == 0) then q else q + 1

def scaled (base num den : Nat) (exponent : Int) : Nat × Nat :=
  let power := Nat.pow base exponent.natAbs
  if exponent < 0 then (num * power, den) else (num, den * power)

def ofRatio (negative : Bool) (num den : Nat) : Binary64 :=
  if num == 0 then zero negative
  else
    let guess : Int := (num.log2 : Int) - den.log2 - 53
    let exact (e : Int) : Nat := let (a, b) := scaled 2 num den e; a / b
    -- the exponent that leaves 53 bits in front of the point
    let e := if exact (guess + 1) < Nat.pow 2 52 then guess else guess + 1
    let e := if exact e < Nat.pow 2 53 then e else e + 1
    let e := max e leastExponent
    let (a, b) := scaled 2 num den e
    let m := roundHalfEven a b
    let (m, e) := if m == Nat.pow 2 53 then (Nat.pow 2 52, e + 1) else (m, e)
    if e > 971 then .infinite negative else .finite negative m e

/-- The number nearest to `digits * 10 ^ exponent`. Exponents beyond the range are cut off first. -/
def ofDecimal (negative : Bool) (digits : Nat) (exponent : Int) : Binary64 :=
  let width : Int := (Nat.toDigits 10 digits).length
  if digits == 0 then zero negative
  else if exponent + width > 400 then .infinite negative
  else if exponent + width < -400 then zero negative
  else
    let (a, b) := scaled 10 digits 1 (-exponent)
    ofRatio negative a b

def ofInt (n : Int) : Binary64 := ofRatio (n < 0) n.natAbs 1

def ratio? : Binary64 → Option (Int × Nat)
  | .finite negative m e =>
    let (a, b) := scaled 2 m 1 (-e)
    some (if negative then -a else a, b)
  | _ => none

def compareRatio? (x : Binary64) (c : Int) (d : Nat) : Option Ordering :=
  match x with
  | .infinite a => some (if a then .lt else .gt)
  | x => do
    let (a, b) ← x.ratio?
    return compare (a * d) (c * b)

def compare? : Binary64 → Binary64 → Option Ordering
  | .nan, _ => none
  | .infinite a, .infinite b => some (if a == b then .eq else if a then .lt else .gt)
  | _, .infinite b => some (if b then .gt else .lt)
  | x, y => do
    let (c, d) ← y.ratio?
    x.compareRatio? c d

def compareInt? (x : Binary64) (n : Int) : Option Ordering := x.compareRatio? n 1

def equals (x y : Binary64) : Bool := x.compare? y == some .eq

def isZero : Binary64 → Bool
  | .finite _ 0 _ => true
  | _ => false

def negate : Binary64 → Binary64
  | .finite s m e => .finite (!s) m e
  | .infinite s => .infinite (!s)
  | .nan => .nan

def add (x y : Binary64) : Binary64 :=
  match x.ratio?, y.ratio? with
  | some (a, b), some (c, d) =>
    let n := a * d + c * b
    ofRatio (n < 0) n.natAbs (b * d)
  | none, some _ => x
  | some _, none => y
  | none, none => if x == y then x else .nan

def scale (x : Binary64) (n : Nat) : Binary64 :=
  match x.ratio? with
  | some (a, b) => ofRatio (isNegative x) (a.natAbs * n) b
  | none => x
where
  isNegative : Binary64 → Bool
    | .finite s _ _ => s
    | _ => false

end Binary64

/-- The decimal number `0.d₁d₂… * 10 ^ point`. -/
structure Digits where
  digits : List Nat
  point : Int
  deriving DecidableEq, Repr

namespace Digits

def ofNat (n : Nat) : List Nat := (Nat.toDigits 10 n).map fun c => c.toNat - 48

def show_ (ds : List Nat) : String := String.ofList (ds.map fun d => Char.ofNat (48 + d))

/-- How many digits stand in front of the point of `num / den`; not positive below one tenth. -/
def pointOf (num den : Nat) : Int :=
  if num ≥ den then (Nat.toDigits 10 (num / den)).length
  else ((Nat.toDigits 10 (num * Nat.pow 10 400 / den)).length : Int) - 400

def trimZeros (ds : List Nat) : List Nat := (ds.reverse.dropWhile (· == 0)).reverse

def rounded (num den count : Nat) (point : Int) : Nat :=
  let (a, b) := Binary64.scaled 10 num den (point - count)
  Binary64.roundHalfEven a b

def significant (num den count : Nat) : Digits :=
  if num == 0 then ⟨List.replicate count 0, 1⟩
  else
    let point := pointOf num den
    let n := rounded num den count point
    if n == Nat.pow 10 count then ⟨ofNat (Nat.pow 10 (count - 1)), point + 1⟩
    else ⟨ofNat n, point⟩

def shortest (mantissa : Nat) (exponent : Int) : Digits :=
  if mantissa == 0 then ⟨[0], 1⟩
  else
    let (num, den) := Binary64.scaled 2 mantissa 1 (-exponent)
    let candidates := (List.range 17).map fun k => significant num den (k + 1)
    let readsBack := fun (d : Digits) =>
      let value := d.digits.foldl (fun n x => n * 10 + x) 0
      Binary64.ofDecimal false value (d.point - d.digits.length) == .finite false mantissa exponent
    match candidates.find? readsBack with
    | some d => ⟨trimZeros d.digits, d.point⟩
    | none => significant num den 17

def exponentText (e : Int) : String :=
  let digits := toString e.natAbs
  (if e < 0 then "-" else "+") ++ (if digits.length < 2 then "0" ++ digits else digits)

/-- Numbers from 0.0001 up to sixteen digits are written out; others take an exponent of at least two digits. -/
def render (d : Digits) : String :=
  let count : Int := d.digits.length
  let e := d.point - 1
  if -4 ≤ e && e < 16 then
    if d.point ≤ 0 then
      "0." ++ String.ofList (List.replicate d.point.natAbs '0') ++ show_ d.digits
    else if count ≤ d.point then
      show_ d.digits ++ String.ofList (List.replicate (d.point - count).toNat '0') ++ ".0"
    else show_ (d.digits.take d.point.toNat) ++ "." ++ show_ (d.digits.drop d.point.toNat)
  else
    let first := show_ (d.digits.take 1)
    let rest := show_ (d.digits.drop 1)
    (if rest.isEmpty then first else first ++ "." ++ rest) ++ "e" ++ exponentText e

end Digits

namespace Binary64

def render : Binary64 → String
  | .nan => "nan"
  | .infinite negative => if negative then "-inf" else "inf"
  | .finite negative m e => (if negative then "-" else "") ++ (Digits.shortest m e).render

/-- The written form of an imaginary number: a whole part without its point and zero. -/
def renderImaginary (x : Binary64) : String :=
  let s := x.render
  (if s.endsWith ".0" then (s.dropEnd 2).toString else s) ++ "j"

end Binary64

end SourceAudit
