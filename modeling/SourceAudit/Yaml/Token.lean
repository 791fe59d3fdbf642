import SourceAudit.Data.Value

/-! The tokens of a document. A text turns out to be a key only when the colon behind it is met. -/

namespace SourceAudit.Yaml

/-- Why a document cannot be read: it is not well formed, or a value in it is refused. -/
inductive ReadError where
  | malformed
  | fault (f : Fault)
  deriving DecidableEq, Repr

inductive Token where
  | version (major : Nat)
  /-- `%TAG`, with what the handle stands for. -/
  | tagHandle (handle stem : Text)
  | otherDirective
  | documentStart
  | documentEnd
  | blockList
  | blockDict
  | blockEnd
  | flowList
  | flowListEnd
  | flowDict
  | flowDictEnd
  | entry
  | comma
  | key
  | value
  | reference (name : Text)
  | anchor (name : Text)
  | tag (handle : Option Text) (suffix : Text)
  | scalar (plain : Bool) (t : Text)
  deriving DecidableEq, Repr, Inhabited

/-- A place at which a key may have begun. -/
structure PossibleKey where
  token : Nat
  required : Bool
  index : Nat
  line : Nat
  column : Nat

structure Lexing where
  rest : Text
  index : Nat := 0
  line : Nat := 0
  column : Nat := 0
  /-- How many brackets are open; inside of them indentation does not count. -/
  flow : Nat := 0
  indent : Int := -1
  indents : List Int := []
  keysAllowed : Bool := true
  /-- The place at which a key may have begun, for each number of open brackets. -/
  keys : List (Nat × PossibleKey) := []
  tokens : Array Token := #[]

abbrev Read := Except ReadError

def refuse {α : Type} : Read α := .error .malformed

namespace Lexing

def isLineEnd (p : CodePoint) : Bool := p == 10 || p == 13 || p == 0x85 || p == 0x2028 || p == 0x2029

def isEndOfLine (p : CodePoint) : Bool := p == 0 || isLineEnd p

def isGap (p : CodePoint) : Bool := isEndOfLine p || p == 32 || p == 9

def peekAt (n : Nat) (s : Lexing) : CodePoint := (s.rest[n]?).getD 0

def peek (s : Lexing) : CodePoint := s.rest.headD 0

def advance : Nat → Lexing → Lexing
  | 0, s => s
  | n + 1, s =>
    match s.rest with
    | [] => s
    | c :: rest =>
      let newLine := c == 10 || c == 0x85 || c == 0x2028 || c == 0x2029 || (c == 13 && rest.head? != some 10)
      let s := { s with rest, index := s.index + 1 }
      advance n (if newLine then { s with line := s.line + 1, column := 0 }
        else if c == 0xFEFF then s else { s with column := s.column + 1 })

def push (t : Token) (s : Lexing) : Lexing := { s with tokens := s.tokens.push t }

def skip (p : CodePoint → Bool) (s : Lexing) : Lexing := s.advance (s.rest.takeWhile p).length

def isSpace (p : CodePoint) : Bool := p == 32

def lineBreak (s : Lexing) : Text × Lexing :=
  match s.rest with
  | 13 :: 10 :: _ => ([10], s.advance 2)
  | c :: _ =>
    if c == 13 || c == 10 || c == 0x85 then ([10], s.advance 1)
    else if isLineEnd c then ([c], s.advance 1)
    else ([], s)
  | [] => ([], s)

/-! ### Places of keys -/

def dropStale (s : Lexing) : Read Lexing := do
  let stale (k : PossibleKey) : Bool := k.line != s.line || 1024 < s.index - k.index
  if s.keys.any fun (_, k) => stale k && k.required then refuse
  return { s with keys := s.keys.filter fun (_, k) => !stale k }

def dropKey (s : Lexing) : Read Lexing := do
  if s.keys.any fun (level, k) => level == s.flow && k.required then refuse
  return { s with keys := s.keys.filter fun (level, _) => level != s.flow }

def noteKey (s : Lexing) : Read Lexing := do
  if s.keysAllowed then
    let required := s.flow == 0 && s.indent == s.column
    let s ← s.dropKey
    let k : PossibleKey :=
      { token := s.tokens.size, required, index := s.index, line := s.line, column := s.column }
    return { s with keys := (s.flow, k) :: s.keys }
  else return s

/-! ### Indentation -/

def unwind (column : Int) (s : Lexing) : Lexing :=
  if s.flow != 0 then s
  else
    let rec go (s : Lexing) : List Int → Lexing
      | [] => s
      | outer :: rest =>
        if column < s.indent then go { s.push .blockEnd with indent := outer, indents := rest } rest else s
    go s s.indents

def indentTo (column : Int) (s : Lexing) : Bool × Lexing :=
  if s.indent < column then (true, { s with indents := s.indent :: s.indents, indent := column })
  else (false, s)

/-! ### Directives, anchors and tags -/

def restOfLine (s : Lexing) : Read Lexing := do
  let s := s.skip isSpace
  let s := if s.peek == 35 then s.skip (! isEndOfLine ·) else s
  if isEndOfLine s.peek then return s.lineBreak.2 else refuse

def isSpaceOrEnd (p : CodePoint) : Bool := p == 32 || isEndOfLine p

def versionNumber (s : Lexing) : Read (Nat × Lexing) := do
  let digits := s.rest.takeWhile isDigit
  if digits.isEmpty then refuse
  return (digitsValue digits, s.advance digits.length)

def handle (s : Lexing) : Read (Text × Lexing) := do
  match s.rest with
  | 33 :: 32 :: _ => return ([33], s.advance 1)
  | 33 :: rest =>
    let word := rest.takeWhile isWordPoint
    if s.peekAt (word.length + 1) == 33 then return (33 :: word ++ [33], s.advance (word.length + 2))
    else refuse
  | _ => refuse

def isUriPoint (p : CodePoint) : Bool := isWordPoint p || (";/?:@&=+$,.!~*'()[]" : Text).contains p

def uriEscapes : Nat → Text → Read (Bytes × Text)
  | fuel + 1, 37 :: a :: b :: rest => do
    match Escape.hexValue? a, Escape.hexValue? b with
    | some x, some y =>
      let (more, rest) ← uriEscapes fuel rest
      return ((16 * x + y).toUInt8 :: more, rest)
    | _, _ => refuse
  | _, 37 :: _ => refuse
  | _, t => .ok ([], t)

def uriText : Nat → Text → Read (Text × Text)
  | 0, t => .ok ([], t)
  | fuel + 1, t =>
    match t with
    | 37 :: _ => do
      let (bytes, rest) ← uriEscapes t.length t
      let some cs := Utf8.decode? bytes | refuse
      let (more, rest) ← uriText fuel rest
      return (Text.ofChars cs ++ more, rest)
    | p :: rest =>
      if isUriPoint p then do
        let (more, rest) ← uriText fuel rest
        return (p :: more, rest)
      else .ok ([], t)
    | [] => .ok ([], [])

def uri (s : Lexing) : Read (Text × Lexing) := do
  let (t, rest) ← uriText s.rest.length s.rest
  if rest.length == s.rest.length then refuse
  return (t, s.advance (s.rest.length - rest.length))

def directive (s : Lexing) : Read Lexing := do
  let s := s.advance 1
  let name : Text := s.rest.takeWhile isWordPoint
  let s := s.advance name.length
  if name.isEmpty || !isSpaceOrEnd s.peek then refuse
  let (token, s) ← if name.is "YAML" then do
      let (major, s) ← (s.skip isSpace).versionNumber
      if s.peek != 46 then refuse
      let (_, s) ← (s.advance 1).versionNumber
      if !isSpaceOrEnd s.peek then refuse
      pure (Token.version major, s)
    else if name.is "TAG" then do
      let (h, s) ← (s.skip isSpace).handle
      if s.peek != 32 then refuse
      let (u, s) ← (s.skip isSpace).uri
      if !isSpaceOrEnd s.peek then refuse
      pure (Token.tagHandle h u, s)
    else pure (Token.otherDirective, s.skip (! isEndOfLine ·))
  let s ← s.restOfLine
  return s.push token

def name (make : Text → Token) (s : Lexing) : Read Lexing := do
  let s := s.advance 1
  let name := s.rest.takeWhile isWordPoint
  let s := s.advance name.length
  if name.isEmpty || !(isGap s.peek || ("?:,]\x7d%@" : Text).contains s.peek || s.peek == 96) then refuse
  return s.push (make name)

def tag (s : Lexing) : Read Lexing := do
  let (token, s) ← match s.peekAt 1 with
    | 60 => do
      let (u, s) ← (s.advance 2).uri
      if s.peek != 62 then refuse
      pure (Token.tag none u, s.advance 1)
    | c =>
      if isGap c then pure (Token.tag none [33], s.advance 1)
      else do
        let word := s.rest.tail.takeWhile fun p => !(isSpaceOrEnd p)
        let (h, s) ← if word.contains 33 then s.handle else pure ([33], s.advance 1)
        let (u, s) ← s.uri
        pure (Token.tag (some h) u, s)
  if isSpaceOrEnd s.peek then return s.push token else refuse

/-! ### Block scalars -/

/-- What a block scalar does with the line breaks at its end. -/
inductive Chomping where
  | clip
  | strip
  | keep
  deriving DecidableEq

def chomping? (p : CodePoint) : Option Chomping :=
  if p == 43 then some .keep else if p == 45 then some .strip else none

def blockDepth (s : Lexing) : Read (Option Nat × Lexing) := do
  if !isDigit s.peek then return (none, s)
  if s.peek == 48 then refuse
  return (some (s.peek.val - 48), s.advance 1)

/-- The signs behind the sign of a block scalar: what happens at its end, and how deep it is indented. -/
def blockHeader (s : Lexing) : Read (Chomping × Option Nat × Lexing) := do
  let (chomping, increment, s) ← match chomping? s.peek with
    | some c => do
      let (n, s) ← (s.advance 1).blockDepth
      pure (c, n, s)
    | none => do
      let (n, s) ← s.blockDepth
      match n, chomping? s.peek with
      | some n, some c => pure (c, some n, s.advance 1)
      | n, _ => pure (.clip, n, s)
  if isSpaceOrEnd s.peek then return (chomping, increment, s) else refuse

/-- Line breaks and blanks in front of the first line, and the greatest column among the blanks. -/
def leadingBreaks : Nat → Nat → Lexing → Text × Nat × Lexing
  | 0, deepest, s => ([], deepest, s)
  | fuel + 1, deepest, s =>
    if s.peek == 32 then
      let s := s.advance 1
      leadingBreaks fuel (max deepest s.column) s
    else if isLineEnd s.peek then
      let (b, s) := s.lineBreak
      let (more, deepest, s) := leadingBreaks fuel deepest s
      (b ++ more, deepest, s)
    else ([], deepest, s)

def skipIndent (indent : Nat) (s : Lexing) : Lexing :=
  s.advance (min (indent - s.column) (s.rest.takeWhile isSpace).length)

def emptyLines (indent : Nat) : Nat → Lexing → List Text × Lexing
  | 0, s => ([], s)
  | fuel + 1, s =>
    let s := s.skipIndent indent
    if isLineEnd s.peek then
      let (b, s) := s.lineBreak
      let (more, s) := emptyLines indent fuel s
      (b :: more, s)
    else ([], s)

def atContent (indent : Nat) (s : Lexing) : Bool := s.column == indent && s.peek != 0

def blockLines (folded : Bool) (indent : Nat) : Nat → List Text → Lexing → Text × Text × List Text × Lexing
  | 0, breaks, s => ([], [], breaks, s)
  | fuel + 1, breaks, s =>
    if !atContent indent s then ([], [], breaks, s)
    else
      let flush := s.peek != 32 && s.peek != 9
      let line := s.rest.takeWhile (! isEndOfLine ·)
      let (b, s) := (s.advance line.length).lineBreak
      let (next, s) := emptyLines indent (s.rest.length + 1) s
      if atContent indent s then
        let joint : Text :=
          if folded && b == [10] && flush && s.peek != 32 && s.peek != 9 then
            (if next.isEmpty then [32] else [])
          else b
        let (more, b, last, s) := blockLines folded indent fuel next s
        (breaks.flatten ++ line ++ joint ++ more, b, last, s)
      else (breaks.flatten ++ line, b, next, s)

def blockScalar (folded : Bool) (s : Lexing) : Read Lexing := do
  let (chomping, increment, s) ← (s.advance 1).blockHeader
  let s ← s.restOfLine
  let least := (max (s.indent + 1) 1).toNat
  let (indent, breaks, s) := match increment with
    | none =>
      let (breaks, deepest, s) := leadingBreaks (s.rest.length + 1) 0 s
      (max least deepest, [breaks], s)
    | some n =>
      let indent := least + n - 1
      let (breaks, s) := emptyLines indent (s.rest.length + 1) s
      (indent, breaks, s)
  let (text, b, last, s) := blockLines folded indent (s.rest.length + 1) breaks s
  let ending := match chomping with
    | .strip => []
    | .clip => b
    | .keep => b ++ last.flatten
  return s.push (.scalar false (text ++ ending))

/-! ### Quoted scalars -/

def atDivider (s : Lexing) : Bool :=
  (("---" : Text).isPrefixOf s.rest || ("..." : Text).isPrefixOf s.rest) && isGap (s.peekAt 3)

def quotedBreaks : Nat → Lexing → Read (Text × Lexing)
  | 0, s => .ok ([], s)
  | fuel + 1, s => do
    if s.atDivider then refuse
    let s := s.skip fun p => p == 32 || p == 9
    if isLineEnd s.peek then
      let (b, s) := s.lineBreak
      let (more, s) ← quotedBreaks fuel s
      return (b ++ more, s)
    else return ([], s)

def folded (first more : Text) : Text :=
  (if first != [10] then first else if more.isEmpty then [32] else []) ++ more

def escapes : List (Nat × Nat) := [
  (48, 0), (97, 7), (98, 8), (116, 9), (9, 9), (110, 10), (118, 11), (102, 12), (114, 13), (101, 27), (32, 32),
  (34, 34), (92, 92), (47, 47), (78, 0x85), (95, 0xA0), (76, 0x2028), (80, 0x2029)]

def numbered (width : Nat) (s : Lexing) : Read (Text × Lexing) :=
  match Escape.hexRun? width s.rest with
  | none => refuse
  | some (n, _) => if n < 0x110000 then .ok ([CodePoint.ofNat n], s.advance width) else .error (.fault .badValue)

def escape (s : Lexing) : Read (Text × Lexing) := do
  match escapes.lookup s.peek.val with
  | some n => if s.rest.isEmpty then refuse else return ([CodePoint.ofNat n], s.advance 1)
  | none =>
    match s.peek with
    | 120 => numbered 2 (s.advance 1)
    | 117 => numbered 4 (s.advance 1)
    | 85 => numbered 8 (s.advance 1)
    | c => if isLineEnd c then quotedBreaks (s.rest.length + 1) s.lineBreak.2 else refuse

def quotedBody (double : Bool) : Nat → Lexing → Read (Text × Lexing)
  | 0, _ => refuse
  | fuel + 1, s => do
    let go (t : Text) (s : Lexing) : Read (Text × Lexing) := do
      let (more, s) ← quotedBody double fuel s
      return (t ++ more, s)
    match s.rest with
    | [] => refuse
    | c :: rest =>
      if c == 39 && !double then
        if rest.head? == some 39 then go [39] (s.advance 2) else return ([], s.advance 1)
      else if c == 34 && double then return ([], s.advance 1)
      else if c == 92 && double then
        let (t, s) ← escape (s.advance 1)
        go t s
      else if c == 32 || c == 9 || isLineEnd c then
        let blanks := s.rest.takeWhile fun p => p == 32 || p == 9
        let s := s.advance blanks.length
        if isLineEnd s.peek then
          let (b, s) := s.lineBreak
          let (breaks, s) ← quotedBreaks (s.rest.length + 1) s
          go (folded b breaks) s
        else go blanks s
      else go [c] (s.advance 1)

def quotedScalar (double : Bool) (s : Lexing) : Read Lexing := do
  let (t, s) ← quotedBody double (s.rest.length + 1) (s.advance 1)
  return s.push (.scalar false t)

/-! ### Plain scalars -/

def plainRun (inFlow : Bool) : Text → Nat
  | [] => 0
  | c :: rest =>
    let next := rest.headD 0
    let isFlowSign (p : CodePoint) : Bool := (",[]\x7b\x7d" : Text).contains p
    if isGap c || (c == 58 && (isGap next || (inFlow && isFlowSign next))) ||
        (inFlow && (isFlowSign c || c == 63)) then 0
    else plainRun inFlow rest + 1

def plainBreaks : Nat → Lexing → Option Text × Lexing
  | 0, s => (some [], s)
  | fuel + 1, s =>
    if s.peek == 32 then plainBreaks fuel (s.advance 1)
    else if isLineEnd s.peek then
      let (b, s) := s.lineBreak
      if s.atDivider then (none, s)
      else
        let (more, s) := plainBreaks fuel s
        (more.map (b ++ ·), s)
    else (some [], s)

def plainGap (s : Lexing) : Text × Lexing :=
  let blanks := s.rest.takeWhile isSpace
  let s := s.advance blanks.length
  if isLineEnd s.peek then
    let (b, s) := s.lineBreak
    let s := { s with keysAllowed := true }
    if s.atDivider then ([], s)
    else
      let (breaks, s) := plainBreaks (s.rest.length + 1) s
      match breaks with
      | none => ([], s)
      | some breaks => (folded b breaks, s)
  else (blanks, s)

def plainBody (indent : Int) : Nat → Text → Lexing → Text × Lexing
  | 0, _, s => ([], s)
  | fuel + 1, gap, s =>
    let length := if s.peek == 35 then 0 else plainRun (s.flow != 0) s.rest
    if length == 0 then ([], s)
    else
      let run := s.rest.take length
      let (next, s) := { s.advance length with keysAllowed := false }.plainGap
      if next.isEmpty || s.peek == 35 || (s.flow == 0 && s.column < indent) then (gap ++ run, s)
      else
        let (more, s) := plainBody indent fuel next s
        (gap ++ run ++ more, s)

def plainScalar (s : Lexing) : Lexing :=
  let (t, s) := plainBody (s.indent + 1) (s.rest.length + 1) [] s
  s.push (.scalar true t)

/-! ### The next token -/

def skipGaps : Nat → Lexing → Lexing
  | 0, s => s
  | fuel + 1, s =>
    let s := s.skip isSpace
    let s := if s.peek == 35 then s.skip (! isEndOfLine ·) else s
    if isLineEnd s.peek then
      let s := s.lineBreak.2
      skipGaps fuel (if s.flow == 0 then { s with keysAllowed := true } else s)
    else s

def noted (s : Lexing) : Read Lexing := do
  return { ← s.noteKey with keysAllowed := false }

def openFlow (t : Token) (s : Lexing) : Read Lexing := do
  let s ← s.noteKey
  return ({ s with flow := s.flow + 1, keysAllowed := true }.advance 1).push t

/-- Closing more brackets than are open leaves the level below the outermost, where nothing fits. -/
def closeFlow (t : Token) (s : Lexing) : Read Lexing := do
  let s ← s.dropKey
  if s.flow == 0 then refuse
  return ({ s with flow := s.flow - 1, keysAllowed := false }.advance 1).push t

def comma (s : Lexing) : Read Lexing := do
  let s ← { s with keysAllowed := true }.dropKey
  return (s.advance 1).push .comma

/-- A sign in front of a part of a block, which may open the block. -/
def blockPart (block part : Token) (s : Lexing) : Read Lexing := do
  let s ← if s.flow != 0 then pure s
    else if !s.keysAllowed then refuse
    else
      let (opened, s) := s.indentTo s.column
      pure (if opened then s.push block else s)
  let s ← { s with keysAllowed := block == Token.blockList || s.flow == 0 }.dropKey
  return (s.advance 1).push part

def colon (s : Lexing) : Read Lexing := do
  match s.keys.lookup s.flow with
  | some k =>
    let keys := s.keys.filter fun (level, _) => level != s.flow
    let s := { s with keys, tokens := s.tokens.insertIdxIfInBounds k.token .key }
    let s := if s.flow == 0 then
        let (opened, s) := s.indentTo k.column
        if opened then { s with tokens := s.tokens.insertIdxIfInBounds k.token .blockDict } else s
      else s
    return ({ s with keysAllowed := false }.advance 1).push .value
  | none => s.blockPart .blockDict .value

def divider (t : Token) (s : Lexing) : Read Lexing := do
  let s ← (s.unwind (-1)).dropKey
  return ({ s with keysAllowed := false }.advance 3).push t

/-- What cannot begin a plain scalar, unless it is one of the first three and no gap follows. -/
def startsPlain (s : Lexing) : Bool :=
  let c := s.peek
  !(isGap c || ("-?:,[]\x7b\x7d#&*!|>'\"%@" : Text).contains c || c == 96) ||
    (!isGap (s.peekAt 1) && (c == 45 || (s.flow == 0 && (c == 63 || c == 58))))

def step (s : Lexing) : Read Lexing := do
  let c := s.peek
  let gapNext := isGap (s.peekAt 1)
  if c == 37 && s.column == 0 then
    let s ← (s.unwind (-1)).dropKey
    directive { s with keysAllowed := false }
  else if s.column == 0 && s.atDivider then
    s.divider (if c == 45 then .documentStart else .documentEnd)
  else if c == 91 then s.openFlow .flowList
  else if c == 123 then s.openFlow .flowDict
  else if c == 93 then s.closeFlow .flowListEnd
  else if c == 125 then s.closeFlow .flowDictEnd
  else if c == 44 then s.comma
  else if c == 45 && gapNext then s.blockPart .blockList .entry
  else if c == 63 && (s.flow != 0 || gapNext) then s.blockPart .blockDict .key
  else if c == 58 && (s.flow != 0 || gapNext) then s.colon
  else if c == 42 || c == 38 then
    (← s.noted).name (if c == 42 then .reference else .anchor)
  else if c == 33 then (← s.noted).tag
  else if (c == 124 || c == 62) && s.flow == 0 then
    let s ← { s with keysAllowed := true }.dropKey
    s.blockScalar (c == 62)
  else if c == 39 || c == 34 then (← s.noted).quotedScalar (c == 34)
  else if s.startsPlain then return (← s.noted).plainScalar
  else refuse

def run : Nat → Lexing → Read Lexing
  | 0, _ => refuse
  | fuel + 1, s => do
    let s := s.skipGaps (s.rest.length + 1)
    let s ← s.dropStale
    let s := s.unwind s.column
    if s.rest.isEmpty then (s.unwind (-1)).dropKey else run fuel (← s.step)

end Lexing

def isAllowed (p : CodePoint) : Bool :=
  p == 9 || p == 10 || p == 13 || (32 ≤ p.val && p.val ≤ 126) || p == 0x85 ||
    (0xA0 ≤ p.val && p.val ≤ 0xD7FF) || (0xE000 ≤ p.val && p.val ≤ 0xFFFD) || 0x10000 ≤ p.val

def tokens (t : Text) : Read (List Token) := do
  if !t.all isAllowed then refuse
  let t := match t with
    | 0xFEFF :: rest => rest
    | t => t
  let s ← Lexing.run (t.length + 2) { rest := t }
  return s.tokens.toList

end SourceAudit.Yaml
