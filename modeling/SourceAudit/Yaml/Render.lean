import SourceAudit.Text.Escape
import SourceAudit.Yaml.Scalar

/-! Data written in block style. Texts are plain where that reads back as the same text. -/

namespace SourceAudit.Yaml

/-- Data to be written. A list may be marked, to be referred to later. -/
inductive Tree where
  /-- A word that means what its form says, such as a number. -/
  | word (w : String)
  | text (t : Text)
  | list (mark : Option Nat) (items : List Tree)
  | dict (entries : List (Text × Tree))
  | reference (mark : Nat)
  deriving Inhabited

/-- The text written so far, the last chunk first, the column, whether behind a blank, and whether only indented. -/
structure Pen where
  chunks : List Text := []
  column : Nat := 0
  blank : Bool := true
  fresh : Bool := true

namespace Pen

def put (t : Text) (p : Pen) : Pen := { p with chunks := t :: p.chunks, column := p.column + t.length }

def lineBreak (p : Pen) : Pen := { chunks := [10] :: p.chunks, column := 0, blank := true, fresh := true }

def indent (n : Nat) (p : Pen) : Pen :=
  let p := if !p.fresh || n < p.column || (p.column == n && !p.blank) then p.lineBreak else p
  if p.column < n then { p.put (List.replicate (n - p.column) 32) with blank := true } else p

def sign (t : Text) (needsBlank : Bool) (leavesBlank keepsFresh : Bool) (p : Pen) : Pen :=
  let p' := p.put (if p.blank || !needsBlank then t else 32 :: t)
  { p' with blank := leavesBlank, fresh := p.fresh && keepsFresh }

def inLine (p : Pen) : Pen := { p with blank := false, fresh := false }

def written (p : Pen) : Text := p.chunks.reverse.flatten

end Pen

/-! ### Texts -/

def isBreak (p : CodePoint) : Bool := p == 10 || p == 0x85 || p == 0x2028 || p == 0x2029

def endsWord : Option CodePoint → Bool
  | none => true
  | some p => p == 0 || p == 32 || p == 9 || p == 13 || isBreak p

def holdsSigns (t : Text) : Bool :=
  let rec within : CodePoint → Text → Bool
    | _, [] => false
    | before, p :: rest => (p == 58 && endsWord rest.head?) || (p == 35 && endsWord (some before)) || within p rest
  match t with
  | [] => false
  | p :: rest =>
    ("---" : Text).isPrefixOf t || ("..." : Text).isPrefixOf t ||
      ("#,[]\x7b\x7d&*!|>'\"%@" : Text).contains p || p == 96 ||
      ((p == 63 || p == 58 || p == 45) && endsWord rest.head?) || within p rest

def isPlainPoint (p : CodePoint) : Bool := p == 10 || (32 ≤ p.val && p.val ≤ 126)

def hasPair (first second : CodePoint → Bool) : Text → Bool
  | p :: q :: rest => (first p && second q) || hasPair first second (q :: rest)
  | _ => false

inductive Style where
  | plain
  | single
  | double
  deriving DecidableEq, Repr

def styleOf (isKey : Bool) (t : Text) : Style :=
  let multiline := t.any isBreak
  let atEdge (p : CodePoint) : Bool := p == 32 || isBreak p
  let edges := (t.head?.map atEdge).getD false || (t.getLast?.map atEdge).getD false
  let isSpace (p : CodePoint) : Bool := p == 32
  let breakSpace := hasPair isBreak isSpace t
  let special := t.any (! isPlainPoint ·) || hasPair isSpace isBreak t
  if Scalar.tagOf t == .str && !multiline && !edges && !special && !holdsSigns t then .plain
  else if !breakSpace && !special && !(isKey && multiline) then .single
  else .double

def bestWidth : Nat := 80

def runs (sameClass : CodePoint → CodePoint → Bool) (t : Text) : List Text :=
  t.foldr (fun p acc =>
    match acc with
    | (q :: run) :: rest => if sameClass p q then (p :: q :: run) :: rest else [p] :: (q :: run) :: rest
    | _ => [p] :: acc) []

def writeBreaks (margin : Nat) (run : Text) (p : Pen) : Pen :=
  let p := if run.head? == some 10 then p.lineBreak else p
  (run.foldl (fun p _ => p.lineBreak) p).indent margin

def writeSingle (margin : Nat) (folds : Bool) (t : Text) (p : Pen) : Pen :=
  let kind (c : CodePoint) : Nat := if c == 32 then 0 else if isBreak c then 1 else 2
  let parts := runs (fun a b => kind a == kind b) t
  let quoted (run : Text) : Text := run.flatMap fun c => if c == 39 then [39, 39] else [c]
  let last := parts.length - 1
  let p := p.sign [39] true false false
  let p := parts.zipIdx.foldl (fun (p : Pen) (run, n) =>
    match run with
    | [32] => if bestWidth < p.column && folds && n != 0 && n != last then p.indent margin else p.put run
    | c :: _ => if isBreak c then writeBreaks margin run p else p.put (quoted run)
    | [] => p) p
  p.sign [39] false false false

def writePlain (margin : Nat) (folds : Bool) (t : Text) (p : Pen) : Pen :=
  if t.isEmpty then p
  else
    let p := (if p.blank then p else p.put [32]).inLine
    (runs (fun a b => (a == 32) == (b == 32)) t).foldl (fun (p : Pen) run =>
      if run == [32] && bestWidth < p.column && folds then (p.indent margin).inLine else p.put run) p

def shortEscapes : List (Nat × Char) := [
  (0, '0'), (7, 'a'), (8, 'b'), (9, 't'), (10, 'n'), (11, 'v'), (12, 'f'), (13, 'r'), (27, 'e'), (34, '"'),
  (92, '\\'), (0x85, 'N'), (0xA0, '_'), (0x2028, 'L'), (0x2029, 'P')]

def upperHex (width n : Nat) : String := String.ofList ((Escape.hex width n).toList.map Char.toUpper)

def escape? (p : CodePoint) : Option Text :=
  match shortEscapes.lookup p.val with
  | some c => some (Text.ofString ("\\" ++ String.singleton c))
  | none =>
    if 32 ≤ p.val && p.val ≤ 126 then none
    else if p.val ≤ 0xFF then some (Text.ofString ("\\x" ++ upperHex 2 p.val))
    else if p.val ≤ 0xFFFF then some (Text.ofString ("\\u" ++ upperHex 4 p.val))
    else some (Text.ofString ("\\U" ++ upperHex 8 p.val))

/-- What stands between double quotes. `pending` holds, in reverse, what is written in front of an escape, a fold and
the end. A fold is a backslash at the end of a line, and one more in front of a blank. `index` counts the code points.
-/
def writeDoubleBody (margin : Nat) (folds : Bool) (index : Nat) (pending : Text) : Text → Pen → Pen
  | [], p => if pending.isEmpty then p else p.put pending.reverse
  | c :: rest, p =>
    let inside := 0 < index && !rest.isEmpty
    match escape? c with
    | some e =>
      let p := (if pending.isEmpty then p else p.put pending.reverse).put e
      let p := if inside && folds && bestWidth + 1 < p.column then
          let p := ((p.put [92]).indent margin).inLine
          if rest.head? == some 32 then p.put [92] else p
        else p
      writeDoubleBody margin folds (index + 1) [] rest p
    | none =>
      if inside && folds && (c == 32 || pending.isEmpty) && bestWidth < p.column + pending.length then
        let p := ((p.put (pending.reverse ++ [92])).indent margin).inLine
        let p := if c == 32 then p.put [92] else p
        writeDoubleBody margin folds (index + 1) [c] rest p
      else writeDoubleBody margin folds (index + 1) (c :: pending) rest p

def writeDouble (margin : Nat) (folds : Bool) (t : Text) (p : Pen) : Pen :=
  (writeDoubleBody margin folds 0 [] t (p.sign [34] true false false)).sign [34] false false false

def writeText (margin : Nat) (isKey : Bool) (t : Text) (p : Pen) : Pen :=
  match styleOf isKey t with
  | .plain => writePlain margin (!isKey) t p
  | .single => writeSingle margin (!isKey) t p
  | .double => writeDouble margin (!isKey) t p

/-! ### Nested data -/

def markName (n : Nat) : Text :=
  let digits := toString n
  Text.ofString ("id" ++ String.ofList (List.replicate (3 - digits.length) '0') ++ digits)

def isSimpleKey (t : Text) : Bool := t.length + 5 < 128 && !t.isEmpty && !t.any isBreak

def deeper : Option Nat → Nat
  | none => 0
  | some n => n + 2

def scalarMargin (margin : Option Nat) : Nat := margin.elim 2 (· + 2)

mutual

def writeTree (inDict : Bool) (margin : Option Nat) : Tree → Pen → Pen
  | .word w, p => writePlain (scalarMargin margin) true (Text.ofString w) p
  | .text t, p => writeText (scalarMargin margin) false t p
  | .reference n, p => p.sign (42 :: markName n) true false false
  | .list mark items, p =>
    let p := match mark with
      | some n => p.sign (38 :: markName n) true false false
      | none => p
    if items.isEmpty then (p.sign [91] true true false).sign [93] false false false
    else
      let margin := match margin with
        | none => 0
        | some n => if inDict && !p.fresh then n else n + 2
      writeItems margin items p
  | .dict entries, p =>
    if entries.isEmpty then (p.sign [123] true true false).sign [125] false false false
    else writeEntries (deeper margin) entries p

def writeItems (margin : Nat) : List Tree → Pen → Pen
  | [], p => p
  | t :: ts, p =>
    writeItems margin ts (writeTree false (some margin) t ((p.indent margin).sign [45] true false true))

def writeEntries (margin : Nat) : List (Text × Tree) → Pen → Pen
  | [], p => p
  | (key, t) :: rest, p =>
    let p := p.indent margin
    let p := if isSimpleKey key then
        (writeText (margin + 2) true key p).sign [58] false false false
      else
        let p := writeText (margin + 2) false key (p.sign [63] true false true)
        (p.indent margin).sign [58] true false true
    writeEntries margin rest (writeTree true (some margin) t p)

end

def render (t : Tree) : Text := ((writeTree false none t {}).indent 0).written

end SourceAudit.Yaml
