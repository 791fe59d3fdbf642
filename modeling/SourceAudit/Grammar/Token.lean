import SourceAudit.Tree.Node

/-! Tokens of a scanned program and the reasons for which a program is refused. -/

namespace SourceAudit

inductive Rejection where
  | malformed
  | indentation
  | tabs
  deriving DecidableEq, Repr, Inhabited

structure Quotation where
  /-- The whole token, from its first prefix letter to its last quote. -/
  source : List Char
  /-- What stands between the quotes, and how many characters stand before it. -/
  body : List Char
  bodyStart : Nat
  raw : Bool
  bytes : Bool
  formatted : Bool
  deriving Repr, Inhabited

inductive Lexeme where
  /-- A keyword, told by its spelling in the source, or an identifier in normal form. -/
  | word (spelling name : String)
  | number (value : Constant)
  | quotation (q : Quotation)
  | mark (text : String)
  | newline
  | indent
  | dedent
  | endOfInput
  /-- Nothing can be read from here on. -/
  | refused (why : Rejection)
  deriving Repr, Inhabited

structure Token where
  lexeme : Lexeme
  line : Nat
  column : Nat
  endLine : Nat
  endColumn : Nat
  deriving Repr, Inhabited

namespace Token

def keywords : List String :=
  ["False", "None", "True", "and", "as", "assert", "async", "await", "break", "class", "continue",
    "def", "del", "elif", "else", "except", "finally", "for", "from", "global", "if", "import", "in",
    "is", "lambda", "nonlocal", "not", "or", "pass", "raise", "return", "try", "while", "with", "yield"]

def isWord (t : Token) (s : String) : Bool :=
  match t.lexeme with
  | .word spelling _ => spelling == s
  | _ => false

def isMark (t : Token) (s : String) : Bool :=
  match t.lexeme with
  | .mark text => text == s
  | _ => false

def name? (t : Token) : Option String :=
  match t.lexeme with
  | .word spelling name => if keywords.contains spelling then none else some name
  | _ => none

def isLayout (t : Token) : Bool :=
  match t.lexeme with
  | .newline | .indent | .dedent | .endOfInput => true
  | _ => false

end Token

end SourceAudit
