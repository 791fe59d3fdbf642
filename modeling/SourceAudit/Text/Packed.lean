import SourceAudit.Text.Basic

/-! Tables packed by an arithmetic code: a model foretells each bit from what stood in like places before. -/

namespace SourceAudit.Packed

def digits : List Char := "!$%&()*+,.0123456789:;<=>?@ABCDEFGHIJKLMNOPQRSTUVWXYZ[]^_abcdefghijklmnopqrstuvwxyz|~".toList

def symbols : Array Char := "!$%&()*+ -=@0123456789ABCDEFGHIJKLMNOPQRSTUVWXYZabcdef".toList.toArray

/-- A sign begins each entry and tells how many words it shares with the one before. -/
def signs : List Char := symbols.toList.take 8

/-- What is still to be read: a number below `range`, known up to the digits that follow. -/
structure Code where
  digits : List Nat
  value : Nat := 0
  range : Nat := 1

/-- Takes in digits, as many as given at most, until there is room for chances. -/
def Code.fill (c : Code) : Nat → Code
  | 0 => c
  | most + 1 =>
    if c.range < 85 ^ 4 then Code.fill ⟨c.digits.tail, c.value * 85 + c.digits.headD 0, c.range * 85⟩ most else c

def Code.bit (c : Code) (chance : Nat) : Bool × Code :=
  let ones := c.range / 4096 * chance
  if c.value < ones then (true, Code.fill { c with range := ones } 5)
  else (false, Code.fill { c with value := c.value - ones, range := c.range - ones } 5)

def curve : Array Nat :=
  #[2047, 2549, 2994, 3348, 3607, 3785, 3901, 3975, 4022, 4050, 4068, 4079, 4085, 4089, 4092, 4093, 4094]

def chance (evidence : Int) : Nat :=
  if evidence < 0 then 4095 - rise evidence.natAbs else rise evidence.natAbs
where
  rise (n : Nat) : Nat :=
    let low := curve.getD (n / 128) 4094
    low + (curve.getD (n / 128 + 1) 4094 - low) * (n % 128) / 128

def evidences : Array Int :=
  (List.range 4095).foldl (fun found (n : Nat) =>
    found ++ Array.replicate (chance (n - 2047) + 1 - found.size) (n - 2047 : Int)) #[]

def evidence (chance : Nat) : Int := evidences.getD (chance / 4096) 2047

/-- The first guess at what follows a history. A chance stands above the number of its uses. -/
def firstChance (history : Nat) : Nat :=
  let ones := ((List.range history.log2).filter history.testBit).length
  65535 * (2 * ones + 1) / (2 * history.log2 + 2) * 256

def adapt (bit : Bool) (chance : Nat) : Nat :=
  let uses := chance % 256
  let p := chance / 256
  (if bit then p + (65535 - p) / (uses + 8) else p - p / (uses + 8)) * 256 + min (uses + 1) 127

/-- The last seven bits behind a one; zero when there was none. -/
def lengthen (bit : Bool) (history : Nat) : Nat :=
  let longer := 2 * max history 1 + bit.toNat
  if longer < 256 then longer else 128 + longer % 128

def weigh (weights : Array Int) (first : Nat) (inputs : Array Int) : Nat → Int → Int
  | 0, sum => max (-2047) (min 2047 (sum / 65536))
  | k + 1, sum => weigh weights first inputs k (sum + weights.getD (first + k) 0 * inputs.getD k 0)

/-- Moves weights towards what would have foretold the bit; small errors are let be. -/
def reweigh (first : Nat) (inputs : Array Int) (error : Int) (weights : Array Int) : Array Int :=
  if error.natAbs < 64 then weights else go 12 weights
where
  go : Nat → Array Int → Array Int
    | 0, weights => weights
    | k + 1, weights =>
      go k (weights.setIfInBounds (first + k) (weights.getD (first + k) 0 + inputs.getD k 0 * error / 900))

/-- The bits that came in each context, and the chances of a one after them. -/
structure Model where
  slots : ByteArray
  chances : Array Nat
  weights : Array Int
  code : Code

/-- Reads one bit. Evidence is weighed three times: by the contexts met before, by the symbol before, and by the place
in the entry, each at the known bits `node` of the symbol. -/
def Model.bit (contexts : Array Nat) (last place node : Nat) : Model → Bool × Model
  | ⟨slots, chances, weights, code⟩ =>
    let places := contexts.map fun c => (c + node) % slots.size
    let histories := places.map fun p => (slots.get! p).toNat
    let inputs := histories.mapIdx fun k h => if h == 0 then 0 else evidence (chances.getD (256 * k + h) 0)
    let met := histories.foldl (fun n h => 2 * n + min h 1) 0
    let rows := #[met, 4096 + 64 * last + node, 8192 + 64 * place + node].map (12 * ·)
    let sums := rows.map fun first => weigh weights first inputs 12 0
    let (bit, code) := code.bit (chance (sums.foldl (· + ·) 0 / 3))
    let right : Int := if bit then 4095 else 0
    let weights := (rows.zip sums).foldl (fun weights (first, sum) =>
      reweigh first inputs (right - chance sum) weights) weights
    let chances := (histories.mapIdx (256 * · + ·)).foldl (fun chances i => chances.modify i (adapt bit)) chances
    (bit, ⟨places.foldl (fun slots p => slots.set! p (lengthen bit (slots.get! p).toNat).toUInt8) slots, chances,
      weights, code⟩)

def Model.symbol (contexts : Array Nat) (last place : Nat) (m : Model) : Nat → Nat → Nat × Model
  | 0, node => (node - 64, m)
  | bits + 1, node =>
    let (bit, m) := m.bit contexts last place node
    m.symbol contexts last place bits (2 * node + bit.toNat)

def mix (a b : Nat) : Nat := (a * 0x3779B1B1 + b * 0x2BCA6B35) / 64 % 0x40000000

structure Word where
  hash : Nat := 0
  symbols : List Nat := []

/-- The last five symbols, the word so far, the words of the entry, last first, and the words of the entry before from
this place on. -/
structure Past where
  recent : Nat := 0
  word : Word := {}
  row : List Word := []
  column : List Word := []

def Past.place (p : Past) : Nat := 4 * min p.row.length 15 + min p.word.symbols.length 3

def Past.contexts (p : Past) : Array Nat :=
  let hash := fun (w : Option Word) => (w.getD {}).hash
  let last := p.recent % 64
  let column := p.word.symbols.length
  -- the symbols in the same column of the word above, and on both sides of it
  let above := (63 :: (p.column.head?.getD {}).symbols.reverse).drop column
  let up := above.getD 1 63 * 2 + if above.getD 0 63 == last then 1 else 0
  #[0, last, p.recent % 4096, p.recent % 0x40000, p.recent, p.word.hash, mix p.word.hash (hash p.row[1]?),
    mix p.word.hash (hash p.column[0]?), mix up (hash p.row[0]?), mix p.row.length column,
    mix (above.getD 1 63 + 64 * above.getD 0 63 + 4096 * above.getD 2 63) last, mix up column].mapIdx fun k c =>
      mix c (k + 1)

/-- One more symbol. The first eight are signs, and the next one divides words. -/
def Past.push (p : Past) (c : Nat) : Past :=
  let recent := (p.recent * 64 + c) % 0x40000000
  let row := p.word :: p.row
  if c < 8 then ⟨recent, {}, (row.reverse.take c).reverse, row.reverse.drop c⟩
  else if c == 8 then ⟨recent, {}, row, p.column.tail⟩
  else { p with recent, word := ⟨mix p.word.hash c, c :: p.word.symbols⟩ }

def read (m : Model) (p : Past) : Nat → String → String
  | 0, text => text
  | length + 1, text =>
    let (c, m) := m.symbol p.contexts (p.recent % 64) p.place 6 1
    read m (p.push c) length (text.push (symbols.getD c ' '))

def unpack (length : Nat) (packed : String) : String :=
  let code : Code := { digits := packed.toList.filterMap digits.idxOf? }
  read ⟨Nat.repeat (fun slots => slots ++ slots) (256 * length).log2 ⟨#[0]⟩,
    ((List.range (12 * 256)).map fun i => firstChance (i % 256)).toArray, Array.replicate (12 * 12288) 13107,
    code.fill 5⟩ {} length ""

/-- An entry of a table: the number it is about and its words. -/
structure Entry where
  point : Nat := 0
  words : List (List Char) := []

/-- The entry behind `e`, from its sign, the distance (an equals sign for none, nothing for one, else a number between
at signs) and the words behind the shared ones. -/
def Entry.next (e : Entry) (sign : Char) (cs : List Char) : Entry :=
  let words := fun cs => e.words.take (signs.idxOf sign) ++ Segments.fields (· == ' ') cs
  match cs with
  | '=' :: cs => ⟨e.point, words cs⟩
  | '@' :: cs => ⟨e.point + hexOf (cs.takeWhile (· != '@')), words ((cs.dropWhile (· != '@')).drop 1)⟩
  | cs => ⟨e.point + 1, words cs⟩

def entriesFrom (e : Entry) : List (Char × List Char) → List Entry
  | [] => []
  | (sign, own) :: rest => e.next sign own :: entriesFrom (e.next sign own) rest

def entries (length : Nat) (packed : String) : List Entry :=
  entriesFrom {} ((unpack length packed).toList.foldr (fun c (own, rest) =>
    if signs.contains c then ([], (c, own) :: rest) else (c :: own, rest)) ([], [])).2

end SourceAudit.Packed
