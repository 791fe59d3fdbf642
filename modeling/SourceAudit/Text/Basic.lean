/-! Text as a list of code points, wider than `String` since a literal can spell a lone surrogate: UTF-8, cutting and joining,
and classes of characters, some in tables of hexadecimal numbers. -/

namespace SourceAudit

/-- A number of the Unicode code space, surrogates included. -/
abbrev CodePoint := Fin 0x110000

/-- The code space is not empty, so that numbers stand for code points. -/
instance codeSpaceNonempty : @NeZero Nat Zero.ofOfNat0 0x110000 := ⟨Nat.succ_ne_zero 0x10FFFF⟩

/-- A sequence of code points, as a string literal or a settings file can spell it. -/
abbrev Text := List CodePoint

/-- Bytes of a file or of a bytes literal. -/
abbrev Bytes := List UInt8

namespace CodePoint

def ofNat (n : Nat) : CodePoint :=
  if h : n < 0x110000 then ⟨n, h⟩ else ⟨0xFFFD, by decide⟩

def ofChar (c : Char) : CodePoint := ofNat c.toNat

def isSurrogate (p : CodePoint) : Bool := 0xD800 ≤ p.val && p.val < 0xE000

def toChar? (p : CodePoint) : Option Char :=
  if p.isSurrogate then none else some (Char.ofNat p.val)

def toChar (p : CodePoint) : Char := p.toChar?.getD '�'

end CodePoint

namespace Text

def ofChars (cs : List Char) : Text := cs.map CodePoint.ofChar

def ofString (s : String) : Text := ofChars s.toList

instance : Coe String Text := ⟨ofString⟩

def toChars? (t : Text) : Option (List Char) := t.mapM CodePoint.toChar?

def toStringLossy (t : Text) : String := String.ofList (t.map CodePoint.toChar)

def precedes : Text → Text → Bool
  | [], _ => true
  | _ :: _, [] => false
  | a :: as, b :: bs => a.val < b.val || (a.val == b.val && precedes as bs)

def is (t : Text) (s : String) : Bool := t == ofString s

end Text

def Bytes.toText (b : Bytes) : Text := b.map fun x => CodePoint.ofNat x.toNat

def isDigit (p : CodePoint) : Bool := 48 ≤ p.val && p.val ≤ 57

def digitsValue (ds : Text) : Nat := ds.foldl (fun n d => 10 * n + (d.val - 48)) 0

def isWordPoint (p : CodePoint) : Bool :=
  isDigit p || (65 ≤ p.val && p.val ≤ 90) || (97 ≤ p.val && p.val ≤ 122) || p == 45 || p == 95

def smallLetter (p : CodePoint) : CodePoint := if 65 ≤ p.val && p.val ≤ 90 then CodePoint.ofNat (p.val + 32) else p

def capitals (t : Text) : Text := t.map fun p => if 97 ≤ p.val && p.val ≤ 122 then CodePoint.ofNat (p.val - 32) else p

namespace Utf8

def encodeChar (c : Char) : Bytes :=
  let n := c.toNat
  if n < 0x80 then [n.toUInt8]
  else if n < 0x800 then [(0xC0 + n / 64).toUInt8, (0x80 + n % 64).toUInt8]
  else if n < 0x10000 then
    [(0xE0 + n / 4096).toUInt8, (0x80 + n / 64 % 64).toUInt8, (0x80 + n % 64).toUInt8]
  else
    [(0xF0 + n / 262144).toUInt8, (0x80 + n / 4096 % 64).toUInt8, (0x80 + n / 64 % 64).toUInt8, (0x80 + n % 64).toUInt8]

def encode (cs : List Char) : Bytes := cs.flatMap encodeChar

def encodeText? (t : Text) : Option Bytes := t.toChars?.map encode

def isTail (b : UInt8) : Bool := b &&& 0xC0 == 0x80

/-- The first character and how many bytes it takes; no overlong forms, surrogates or numbers past the code space. -/
def headChar? : Bytes → Option (Char × Nat)
  | [] => none
  | a :: rest =>
    let x := a.toNat
    if x < 0x80 then some (Char.ofNat x, 1)
    else if x < 0xC2 then none
    else if x < 0xE0 then
      match rest with
      | b :: _ => if isTail b then some (Char.ofNat ((x - 0xC0) * 64 + (b.toNat - 0x80)), 2) else none
      | _ => none
    else if x < 0xF0 then
      match rest with
      | b :: c :: _ =>
        let n := (x - 0xE0) * 4096 + (b.toNat - 0x80) * 64 + (c.toNat - 0x80)
        if isTail b && isTail c && 0x800 ≤ n && !(0xD800 ≤ n && n < 0xE000) then some (Char.ofNat n, 3)
        else none
      | _ => none
    else if x < 0xF5 then
      match rest with
      | b :: c :: d :: _ =>
        let n := (x - 0xF0) * 262144 + (b.toNat - 0x80) * 4096 + (c.toNat - 0x80) * 64 +
          (d.toNat - 0x80)
        if isTail b && isTail c && isTail d && 0x10000 ≤ n && n < 0x110000 then
          some (Char.ofNat n, 4)
        else none
      | _ => none
    else none

def decodeWith (standIn : UInt8 → Option Char) (b : Bytes) : Option (List Char) := go b.length b
where
  go : Nat → Bytes → Option (List Char)
    | _, [] => some []
    | 0, _ => some []
    | n + 1, a :: rest =>
      match headChar? (a :: rest) with
      | some (c, k) => (go n ((a :: rest).drop k)).map (c :: ·)
      | none => do return (← standIn a) :: (← go n rest)

def decode? (b : Bytes) : Option (List Char) := decodeWith (fun _ => none) b

def decodeLossy (b : Bytes) : List Char := (decodeWith (fun _ => some '�') b).getD []

end Utf8

namespace Segments

variable {α : Type} [BEq α]

def occurs (needle : List α) : List α → Bool
  | [] => needle.isEmpty
  | x :: xs => needle.isPrefixOf (x :: xs) || occurs needle xs

def splitOn (sep : α) : List α → List (List α)
  | [] => [[]]
  | x :: xs =>
    if x == sep then [] :: splitOn sep xs
    else match splitOn sep xs with
      | [] => [[x]]
      | piece :: pieces => (x :: piece) :: pieces

def runs (last : α) : List α → List (List α)
  | [] => []
  | x :: xs =>
    let rest := runs last xs
    if x == last then [x] :: rest else (x :: rest.headD []) :: rest.tail

def cut (sep : α) : List α → Option (List α × List α)
  | [] => none
  | x :: xs => if x == sep then some ([], xs) else (cut sep xs).map fun (a, b) => (x :: a, b)

def cutLast (sep : α) (xs : List α) : Option (List α × List α) :=
  (cut sep xs.reverse).map fun (a, b) => (b.reverse, a.reverse)

def join (sep : List α) : List (List α) → List α
  | [] => []
  | [x] => x
  | x :: xs => x ++ sep ++ join sep xs

def fields (p : α → Bool) (xs : List α) : List (List α) :=
  let step := fun (x : α) (acc : List (List α) × List α) =>
    if p x then (if acc.2.isEmpty then acc.1 else acc.2 :: acc.1, []) else (acc.1, x :: acc.2)
  let (done, open_) := xs.foldr step ([], [])
  if open_.isEmpty then done else open_ :: done

def trimStart (p : α → Bool) (xs : List α) : List α := xs.dropWhile p

def trimEnd (p : α → Bool) (xs : List α) : List α := (xs.reverse.dropWhile p).reverse

def trim (p : α → Bool) (xs : List α) : List α := trimEnd p (trimStart p xs)

/-- Every occurrence of a non-empty `needle`, from the left and without overlap, replaced. -/
def replace (needle by_ : List α) (xs : List α) : List α :=
  if needle.isEmpty then xs else go xs.length xs
where
  go : Nat → List α → List α
    | 0, xs => xs
    | _, [] => []
    | n + 1, x :: xs =>
      if needle.isPrefixOf (x :: xs) then by_ ++ go n ((x :: xs).drop needle.length)
      else x :: go n xs

end Segments

def joinStrings (sep : String) (parts : List String) : String := sep.intercalate parts

def splitString (sep : Char) (s : String) : List String := (Segments.splitOn sep s.toList).map String.ofList

def hexDigit? (c : Char) : Option Nat :=
  let n := c.toNat
  if 48 ≤ n && n ≤ 57 then some (n - 48)
  else if 97 ≤ n && n ≤ 102 then some (n - 87)
  else if 65 ≤ n && n ≤ 70 then some (n - 55)
  else none

def hexOf (cs : List Char) : Nat := cs.foldl (fun n c => n * 16 + (hexDigit? c).getD 0) 0

def hexNumbers (s : String) : List Nat :=
  let (done, open?) := s.toList.foldl (fun (done, open?) c =>
    match hexDigit? c with
    | some d => (done, some ((open?.getD 0) * 16 + d))
    | none => (match open? with | some n => n :: done | none => done, none)) ([], (none : Option Nat))
  (match open? with | some n => n :: done | none => done).reverse

/-- A set of numbers, given by the increasing numbers at which membership changes. -/
structure Ranges where
  flips : List Nat

namespace Ranges

def sums (total : Nat) : List Nat → List Nat
  | [] => []
  | n :: rest => (total + n) :: sums (total + n) rest

def ofTable (s : String) : Ranges := ⟨sums 0 (hexNumbers s)⟩

def containsFrom (inside : Bool) (n : Nat) : List Nat → Bool
  | [] => inside
  | flip :: rest => if n < flip then inside else containsFrom (!inside) n rest

def contains (r : Ranges) (n : Nat) : Bool := containsFrom false n r.flips

end Ranges

namespace DecimalDigit

def starts : List Nat := (hexNumbers
  "30 660 6f0 7c0 966 9e6 a66 ae6 b66 be6 c66 ce6 d66 de6 e50 ed0 f20 1040 1090 17e0 1810 1946
   19d0 1a80 1a90 1b50 1bb0 1c40 1c50 a620 a8d0 a900 a9d0 a9f0 aa50 abf0 ff10 104a0 10d30
   11066 110f0 11136 111d0 112f0 11450 114d0 11650 116c0 11730 118e0 11950 11c50 11d50 11da0
   16a60 16ac0 16b50 1d7ce 1d7d8 1d7e2 1d7ec 1d7f6 1e140 1e2f0 1e950 1fbf0")

def value? (n : Nat) : Option Nat :=
  if n < 128 then (if 48 ≤ n && n ≤ 57 then some (n - 48) else none)
  else (starts.find? fun s => s ≤ n && n < s + 10).map (n - ·)

def isDecimal (p : CodePoint) : Bool := (value? p.val).isSome

end DecimalDigit

namespace Folding

/-- The ASCII letter that a code point counts as: capitals, the long s, the Kelvin sign, and the i with and without dot.
-/
def fold (p : CodePoint) : CodePoint :=
  if 65 ≤ p.val && p.val ≤ 90 then CodePoint.ofNat (p.val + 32)
  else if p.val == 0x17F then 115
  else if p.val == 0x212A then 107
  else if p.val == 0x130 || p.val == 0x131 then 105
  else p

def foldText (t : Text) : Text := t.map fold

def blanks : Ranges :=
  ⟨[9, 14, 28, 33, 133, 134, 160, 161, 5760, 5761, 8192, 8203, 8232, 8234, 8239, 8240, 8287, 8288, 12288, 12289]⟩

def isBlank (p : CodePoint) : Bool := blanks.contains p.val

end Folding

end SourceAudit
