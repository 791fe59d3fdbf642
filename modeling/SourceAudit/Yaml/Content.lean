import SourceAudit.Data.Moment
import SourceAudit.Number.Decimal
import SourceAudit.Text.LowerCase
import SourceAudit.Yaml.Node

/-! The value that a document stands for. -/

namespace SourceAudit.Base64

def bits? (p : CodePoint) : Option Nat :=
  let n := p.val
  if 65 ≤ n && n ≤ 90 then some (n - 65)
  else if 97 ≤ n && n ≤ 122 then some (n - 71)
  else if 48 ≤ n && n ≤ 57 then some (n + 4)
  else if n == 43 then some 62
  else if n == 47 then some 63
  else none

/-- The bytes of a text, with the signs of the last group, the bits left over, and the padding so far, which ends it. -/
def go (position left pads : Nat) : Text → Option Bytes
  | [] => if position == 0 then some [] else none
  | p :: rest =>
    if p == 61 then
      if 2 ≤ position && 4 ≤ position + pads + 1 then some []
      else go position left (if 2 ≤ position then pads + 1 else pads) rest
    else
      match bits? p, position with
      | none, _ => go position left pads rest
      | some b, 0 => go 1 b 0 rest
      | some b, 1 => (go 2 (b % 16) 0 rest).map ((4 * left + b / 16).toUInt8 :: ·)
      | some b, 2 => (go 3 (b % 4) 0 rest).map ((16 * left + b / 4).toUInt8 :: ·)
      | some b, _ => (go 0 0 0 rest).map ((64 * left + b).toUInt8 :: ·)

def decode? (t : Text) : Option Bytes := go 0 0 0 t

end SourceAudit.Base64

namespace SourceAudit.Yaml

def fault {α : Type} (f : Fault) : Read α := .error (.fault f)

namespace Scalar

def withoutLow (t : Text) : Text := t.filter (· != 95)

def signed (t : Text) : Read (Bool × Text) :=
  match t with
  | [] => fault .outOfRange
  | 45 :: rest => .ok (true, rest)
  | 43 :: rest => .ok (false, rest)
  | t => .ok (false, t)

def inBase (base : Nat) (t : Text) : Read Int :=
  match t.mapM fun p => (Escape.hexValue? p).filter (· < base) with
  | some ds@(_ :: _) => .ok (ds.foldl (fun n d => base * n + d) 0 : Nat)
  | _ => fault .badValue

def known {α : Type} : Option α → Read α
  | some a => .ok a
  | none => fault .badValue

def toInt (t : Text) : Read Int := do
  let (negative, t) ← signed (withoutLow t)
  let n : Int ← match t with
    | [] => fault .outOfRange
    | [48] => pure 0
    | 48 :: 98 :: rest => inBase 2 rest
    | 48 :: 120 :: rest => inBase 16 rest
    | 48 :: _ => inBase 8 t
    | t => (Segments.splitOn 58 t).foldlM (fun n part => return 60 * n + (← known (Whole.read? part))) 0
  return if negative then -n else n

def toFloat (t : Text) : Read Binary64 := do
  let (negative, t) ← signed (Text.lower (withoutLow t))
  let x : Binary64 ← if t.is ".inf" then pure (.infinite false)
    else if t.is ".nan" then pure .nan
    else
      match (Segments.splitOn 58 t).reverse with
      | [t] => known (Decimal.read? t)
      | parts => do
        let parts ← known (parts.mapM Decimal.read?)
        pure (parts.zipIdx.foldl (fun sum (x, i) => sum.add (x.scale (Nat.pow 60 i))) (Binary64.zero false))
  return if negative then x.negate else x

def isValid (p : StampParts) : Bool :=
  let (hour, minute, second) := p.time.getD (0, 0, 0)
  Moment.isDay p.year p.month p.day && hour < 24 && minute < 60 && second < 60 && (p.zone.getD 0).natAbs < 1440

def toStamp (t : Text) : Read String :=
  match stamp? t with
  | none => fault .missingAttribute
  | some p =>
    if !isValid p then fault .badValue
    else
      let m : Moment := { year := p.year, month := p.month, day := p.day }
      match p.time with
      | none => .ok m.date
      | some (hour, minute, second) =>
        let microsecond := digitsValue ((p.fraction ++ Text.ofString "000000").take 6)
        .ok { m with hour, minute, second, microsecond, zone := p.zone }.dateTime

def toBool (t : Text) : Read Bool :=
  let t := Text.lower t
  if t.is "yes" || t.is "true" || t.is "on" then .ok true
  else if t.is "no" || t.is "false" || t.is "off" then .ok false
  else fault .missingKey

def toBytes (t : Text) : Read Bytes :=
  if t.all (·.val < 128) then
    match Base64.decode? t with
    | some b => .ok b
    | none => refuse
  else refuse

def value (tag : Tag) (t : Text) : Read Value :=
  match tag with
  | .null => .ok .null
  | .bool => .bool <$> toBool t
  | .int => .int <$> toInt t
  | .float => .float <$> toFloat t
  | .timestamp => .stamp <$> toStamp t
  | .str => .ok (.text t)
  | .binary => .bytes <$> toBytes t
  | _ => refuse

end Scalar

namespace Node

/-- What a dictionary stands for when its tag is that of a scalar: the scalar under the key for it. -/
def scalarWithin : Node → Option Text
  | .scalar _ t => some t
  | .list _ _ => none
  | .dict _ entries => go entries
where
  go : List (Node × Node) → Option Text
    | [] => none
    | (.scalar .value _, v) :: _ => scalarWithin v
    | _ :: rest => go rest

def dictOf (entries : Fields) : Read Value :=
  if entries.all fun (k, _) => k.hashable then .ok (Value.dictOf entries) else refuse

mutual

def value : Node → Read Value
  | .scalar tag t => Scalar.value tag t
  | .list tag items =>
    match tag with
    | .seq => do return .list (← values items)
    | .omap | .pairs => do return .list (← pairs items)
    | _ => refuse
  | .dict tag entries =>
    match tag with
    | .map => do dictOf (← flat entries)
    | .set => do
      match ← dictOf (← flat entries) with
      | .dict entries => return Value.setOf (entries.map Prod.fst)
      | _ => refuse
    | tag =>
      match scalarWithin (.dict tag entries) with
      | some t => Scalar.value tag t
      | none => refuse

def values : List Node → Read (List Value)
  | [] => .ok []
  | n :: rest => do return (← n.value) :: (← values rest)

def pairs : List Node → Read (List Value)
  | [] => .ok []
  | .dict _ [(k, v)] :: rest => do return .tuple [← k.value, ← v.value] :: (← pairs rest)
  | _ => refuse

def flat (entries : List (Node × Node)) : Read Fields := do
  let (merged, own) ← split entries
  return merged ++ own

def split : List (Node × Node) → Read (Fields × Fields)
  | [] => .ok ([], [])
  | (k, v) :: rest =>
    match k with
    | .scalar .merge _ | .list .merge _ | .dict .merge _ => do
      let more ← mergedFrom v
      let (merged, own) ← split rest
      return (more ++ merged, own)
    | .scalar .value t => do
      let entry := (Value.text t, ← v.value)
      let (merged, own) ← split rest
      return (merged, entry :: own)
    | k => do
      let entry := (← k.value, ← v.value)
      let (merged, own) ← split rest
      return (merged, entry :: own)

def mergedFrom : Node → Read Fields
  | .dict _ entries => flat entries
  | .list _ items => mergedItems items
  | .scalar _ _ => refuse

def mergedItems : List Node → Read Fields
  | [] => .ok []
  | .dict _ entries :: rest => do
    let first ← flat entries
    return (← mergedItems rest) ++ first
  | _ => refuse

end

end Node

def read (t : Text) : Read Value := do
  match ← Node.ofTokens (← tokens t) with
  | some n => n.value
  | none => return .null

end SourceAudit.Yaml
