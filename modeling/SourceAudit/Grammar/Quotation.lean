import SourceAudit.Grammar.Token
import SourceAudit.Text.Escape
import SourceAudit.Text.CharacterName

/-! What string literals stand for; the expressions in a formatted one are left as characters. -/

namespace SourceAudit.Quotation

/-- A part of a formatted literal. A field has its expression, the characters of the token in front of its brace, the
text shown in front of its value, and its format. -/
inductive Piece where
  | literal (text : Text)
  | field (expression : List Char) (start : Nat) (shown : Option Text) (format : Option (List Piece))

def unescape? (raw : Bool) (cs : List Char) : Option Text :=
  if raw then some (Text.ofChars cs) else Escape.decode? CharacterName.find? (Text.ofChars cs)

def text? (q : Quotation) : Option Text := unescape? q.raw q.body

def bytes? (q : Quotation) : Option Bytes :=
  if !q.body.all (·.toNat < 128) then none
  else if q.raw then some (q.body.map (·.toNat.toUInt8))
  else Escape.decodeBytes? (Text.ofChars q.body)

def openBrace : Char := Char.ofNat 123
def closeBrace : Char := Char.ofNat 125

/-- A brace in literal text: its form, whether the text goes on, and what follows. Outside formats braces are doubled.
-/
def brace? (level : Nat) (c : Char) (cs : List Char) : Option (List Char × Bool × List Char) :=
  if level == 0 then
    if cs.head? == some c then some ([c], true, cs.drop 1)
    else if c == closeBrace then none
    else some ([], false, c :: cs)
  else some ([], false, c :: cs)

/-- Literal text up to a brace: the text, whether more text follows a doubled brace, and the rest. -/
def literalRun? (raw : Bool) (level : Nat) :
    Nat → List Char → Option (List Char × Bool × List Char)
  | 0, cs => some ([], false, cs)
  | _, [] => some ([], false, [])
  | fuel + 1, c :: cs =>
    let more := fun (taken : List Char) (rest : List Char) =>
      (literalRun? raw level fuel rest).map fun (t, again, rest) => (taken ++ t, again, rest)
    if c == openBrace || c == closeBrace then brace? level c cs
    else if c == '\\' && !raw then
      match cs with
      | [] => some ([c, c], false, [])
      | d :: rest =>
        if d == 'N' && rest.head? == some openBrace then
          let name := rest.takeWhile (· != closeBrace)
          more ('\\' :: 'N' :: (name ++ [closeBrace])) ((rest.drop name.length).drop 1)
        else if d == openBrace || d == closeBrace then
          (brace? level d rest).map fun (t, again, rest) =>
            (if t.isEmpty then ['\\', '\\'] else '\\' :: t, again, rest)
        else more [c, d] rest
    else more [c] cs

/-- An expression up to `!`, `:`, `=` or a closing brace outside of brackets and strings; no backslashes or number
signs. -/
def expressionRun? (quote : Option (Char × Bool)) (stack : List Char) :
    Nat → List Char → Option (List Char × List Char)
  | 0, _ => none
  | _, [] => none
  | fuel + 1, c :: cs =>
    let more := fun quote stack n =>
      (expressionRun? quote stack fuel ((c :: cs).drop n)).map fun (e, rest) =>
        ((c :: cs).take n ++ e, rest)
    let pair := [c, c].isPrefixOf cs
    if c == '\\' then none
    else match quote with
      | some (q, triple) =>
        if c != q then more quote stack 1
        else if !triple then more none stack 1
        else if pair then more none stack 3
        else more quote stack 1
      | none =>
        if c == '\'' || c == '"' then
          if pair then more (some (c, true)) stack 3 else more (some (c, false)) stack 1
        else if c == '[' || c == openBrace || c == '(' then
          if stack.length ≥ 200 then none else more none (c :: stack) 1
        else if c == '#' then none
        else if stack.isEmpty && (c == '!' || c == ':' || c == closeBrace || c == '=' || c == '>' ||
            c == '<') then
          if (c == '!' || c == '=' || c == '<' || c == '>') && cs.head? == some '=' then
            more none stack 2
          else if c == '>' || c == '<' then more none stack 1
          else some ([], c :: cs)
        else if c == ']' || c == closeBrace || c == ')' then
          match stack with
          | [] => none
          | o :: os =>
            if (o == '(' && c == ')') || (o == '[' && c == ']') || (o == openBrace && c == closeBrace)
            then more none os 1 else none
        else more none stack 1

def conversion? : List Char → Option (List Char)
  | '!' :: c :: rest =>
    if (c == 's' || c == 'r' || c == 'a') &&
        (rest.head? == some ':' || rest.head? == some closeBrace) then some rest
    else none
  | '!' :: [] => none
  | cs => some cs

def isBlank (c : Char) : Bool := c == ' ' || c == '\t' || c == '\n' || c == '\x0c'

/-- The parts of a formatted literal up to its end or, in a format, to the brace that ends the field. The literal ends
behind `total` characters of its token, and formats nest once. -/
def pieces? (raw : Bool) (total : Nat) (fuel level : Nat) (cs : List Char) : Option (List Piece × List Char) :=
  match fuel with
  | 0 => none
  | fuel + 1 => do
    let (lit, again, rest) ← literalRun? raw level cs.length cs
    let text ← unescape? raw lit
    let here := if text.isEmpty then [] else [Piece.literal text]
    if again then
      let (more, rest) ← pieces? raw total fuel level rest
      return (here ++ more, rest)
    else match rest with
      | [] => return (here, [])
      | c :: after =>
        if c == closeBrace then return (here, rest)
        else if level ≥ 2 then none
        else
          let start := total - rest.length
          let (e, tail) ← expressionRun? none [] (after.length + 1) after
          if e.all isBlank then none
          let (shown, tail') := match tail with
            | '=' :: t =>
              let blanks := t.takeWhile fun c => isBlank c || c == '\r' || c == '\x0b'
              (some (Text.ofChars (e ++ '=' :: blanks)), t.drop blanks.length)
            | t => (none, t)
          let tail' ← conversion? tail'
          let (format, tail') ← match tail' with
            | ':' :: t => do
              let (ps, t) ← pieces? raw total fuel (level + 1) t
              pure (some ps, t)
            | t => pure (none, t)
          match tail' with
          | d :: t =>
            if d != closeBrace then none
            else
              let (more, rest) ← pieces? raw total fuel level t
              return (here ++ Piece.field e start shown format :: more, rest)
          | [] => none

def formatted? (q : Quotation) : Option (List Piece) :=
  (pieces? q.raw (q.bodyStart + q.body.length) (q.body.length + 2) 0 q.body).map Prod.fst

end SourceAudit.Quotation
