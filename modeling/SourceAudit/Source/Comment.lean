import SourceAudit.Source.Encoding

/-! The comments of a source file, found without the grammar up to the first fault, and its lines. -/

namespace SourceAudit.Source

/-- A comment from its number sign on, with the number of its line. -/
structure Comment where
  line : Nat
  text : String
  deriving DecidableEq, Repr

inductive CommentEnd where
  | complete
  | unfinished
  /-- A line goes back to an indentation that no block has. -/
  | badIndentation
  | undecodable
  deriving DecidableEq, Repr

/-- The encoding of comments and shown lines; none when the first lines are not UTF-8, the name is unknown, or it
contradicts a byte order mark. -/
def lineEncoding? (b : Bytes) : Option Encoding := do
  let (b, marked) := dropMark b
  let lines := feedLines b
  let first ← Utf8.decode? (lines.head?.getD []) <&> fun _ => lines.head?.getD []
  let name? ←
    match declared? first with
    | some name => some (some name)
    | none =>
      if isBlankLine first then do
        let second := (lines.drop 1).head?.getD []
        let _ ← Utf8.decode? second
        some (declared? second)
      else some none
  match name?.map normalSpelling with
  | none => some .utf8
  | some "utf-8" => some .utf8
  | some name => if marked then none else Encoding.named? name

structure Search where
  /-- The closing quotes of an open string, and whether it may go on only behind a backslash. -/
  open? : Option (List Char × Bool) := none
  depth : Int := 0
  continued : Bool := false
  indents : List Nat := [0]
  comments : List Comment := []

/-- What follows the closing quotes of an open string; none when they are not in the line. -/
def afterQuotes (quotes : List Char) : Nat → List Char → Option (List Char)
  | 0, _ => none
  | _, [] => none
  | fuel + 1, c :: cs =>
    if c == '\\' then
      match cs with
      | [] => none
      | '\n' :: _ => none
      | _ :: rest => afterQuotes quotes fuel rest
    else if quotes.isPrefixOf (c :: cs) then some ((c :: cs).drop quotes.length)
    else afterQuotes quotes fuel cs

inductive LineString where
  | closed (rest : List Char)
  | joined
  | broken

def lineString (quote : Char) : Nat → List Char → LineString
  | 0, _ => .broken
  | _, [] => .broken
  | fuel + 1, c :: cs =>
    if c == quote then .closed cs
    else if c == '\n' then .broken
    else if c == '\\' then
      match cs with
      | [] => .broken
      | '\n' :: _ => .joined
      | '\r' :: '\n' :: _ => .joined
      | _ :: rest => lineString quote fuel rest
    else lineString quote fuel cs

def searchLine (number : Nat) : Nat → List Char → Search → Search
  | 0, _, s => s
  | _, [], s => s
  | fuel + 1, c :: cs, s =>
    if c == '#' then
      let text := (c :: cs).takeWhile fun c => c != '\r' && c != '\n'
      let s := { s with comments := ⟨number, String.ofList text⟩ :: s.comments }
      searchLine number fuel ((c :: cs).drop text.length) s
    else if c == '\\' && (cs == ['\n'] || cs == ['\r', '\n']) then { s with continued := true }
    else if c == '"' || c == '\'' then
      if [c, c].isPrefixOf cs then
        match afterQuotes [c, c, c] (cs.length + 1) (cs.drop 2) with
        | some rest => searchLine number fuel rest s
        | none => { s with open? := some ([c, c, c], false) }
      else match lineString c (cs.length + 1) cs with
        | .closed rest => searchLine number fuel rest s
        | .joined => { s with open? := some ([c], true) }
        | .broken => searchLine number fuel cs s
    else if c == '(' || c == '[' || c == Quotation.openBrace then
      searchLine number fuel cs { s with depth := s.depth + 1 }
    else if c == ')' || c == ']' || c == Quotation.closeBrace then
      searchLine number fuel cs { s with depth := s.depth - 1 }
    else searchLine number fuel cs s

def lineMargin (column : Nat) : List Char → Nat × List Char
  | ' ' :: cs => lineMargin (column + 1) cs
  | '\t' :: cs => lineMargin ((column / 8 + 1) * 8) cs
  | '\x0c' :: cs => lineMargin 0 cs
  | cs => (column, cs)

/-- The head of a statement: blocks open and close. None when the indentation fits no block. -/
def adjustIndents (column : Nat) (indents : List Nat) : Option (List Nat) :=
  if column > indents.head?.getD 0 then some (column :: indents)
  else
    let left := indents.dropWhile (· > column)
    if left.head? == some column then some left else none

def searchStep (number : Nat) (cs : List Char) (s : Search) : Search × Option CommentEnd :=
  match s.open? with
  | some (quotes, joined) =>
    match afterQuotes quotes (cs.length + 1) cs with
    | some rest => (searchLine number (cs.length + 1) rest { s with open? := none }, none)
    | none =>
      let joins := ['\n', '\\'].isPrefixOf cs.reverse || ['\n', '\r', '\\'].isPrefixOf cs.reverse
      if joined && !joins then ({ s with open? := none }, none) else (s, none)
  | none =>
    if s.depth == 0 && !s.continued then
      let (column, rest) := lineMargin 0 cs
      match rest with
      | [] => (s, some .complete)
      | c :: _ =>
        if c == '#' || c == '\r' || c == '\n' then
          if c == '#' then
            let text := Segments.trimEnd (fun c => c == '\r' || c == '\n') rest
            ({ s with comments := ⟨number, String.ofList text⟩ :: s.comments }, none)
          else (s, none)
        else match adjustIndents column s.indents with
          | none => (s, some .badIndentation)
          | some indents => (searchLine number (cs.length + 1) rest { s with indents }, none)
    else (searchLine number (cs.length + 1) cs { s with continued := false }, none)

def searchLines (e : Encoding) (number : Nat) : List Bytes → Search → Search × CommentEnd
  | [], s =>
    (s, if s.open?.isSome || s.depth != 0 || s.continued then .unfinished else .complete)
  | line :: lines, s =>
    match e.decode? line with
    | none => (s, .undecodable)
    | some cs =>
      match searchStep number cs s with
      | (s, some stop) => (s, stop)
      | (s, none) => searchLines e (number + 1) lines s

def comments (e : Encoding) (b : Bytes) : List Comment × CommentEnd :=
  let (s, stop) := searchLines e 1 (feedLines (dropMark b).1) {}
  (s.comments.reverse, stop)

/-- Splits at line ends of all three kinds, which are left out; an empty last line is no line. -/
def byteLines (b : Bytes) : List Bytes :=
  let pieces := Segments.splitOn 10 (unifyLineEndBytes b)
  if pieces.getLast? == some [] then pieces.dropLast else pieces

def splitLines (cs : List Char) : List (List Char) := Segments.runs '\n' cs

/-- The lines of a file in its declared encoding; none when the declaration or a byte does not fit. -/
def textLines? (b : Bytes) : Option (List (List Char)) := do
  let e ← lineEncoding? b
  let cs ← e.decode? (dropMark b).1
  return splitLines (unifyLineEnds cs)

/-- The lines as they are shown: the last one is ended, and a file that cannot be decoded has none. -/
def shownLines (b : Bytes) : List Text :=
  let lines := (textLines? b).getD []
  lines.map fun l => Text.ofChars (if l.getLast? == some '\n' then l else l ++ ['\n'])

end SourceAudit.Source
