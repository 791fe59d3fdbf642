import SourceAudit.Template.Layout

/-! Filling a template: the values in its fields, the steps that reach them, and the literal text between. -/

namespace SourceAudit.Template

inductive Cell where
  | nothing
  | number (n : Int)
  | text (t : Text)
  | numbers (ns : List Int)
  /-- Something that is only shown: as itself, and in a form for programmers. -/
  | shown (plain quoted : Text)
  deriving DecidableEq, Repr

namespace Cell

def numbersText (ns : List Int) : Text := (Value.list (ns.map .int)).render

def display : Cell → Text
  | nothing => "None"
  | number n => Text.ofString (toString n)
  | text t => t
  | numbers ns => numbersText ns
  | shown plain _ => plain

def quoted : Cell → Text
  | text t => Quoted.text t
  | shown _ q => q
  | c => c.display

def quotedAscii (c : Cell) : Text :=
  c.quoted.flatMap fun p => if p.val < 128 then [p] else Text.ofString (Escape.encodePoint p)

/-- A value laid out as specified. Only texts and numbers take a specification that is not empty. -/
def lay (spec : Text) : Cell → Except TemplateError Text
  | text t => layText spec t
  | number n => layNumber spec n
  | c => if spec.isEmpty then .ok c.display else .error (.fault .wrongKind)

def convert (conversion : Option CodePoint) (c : Cell) : Except TemplateError Cell :=
  match conversion with
  | none => .ok c
  | some 115 => .ok (.text c.display)
  | some 114 => .ok (.text c.quoted)
  | some 97 => .ok (.text c.quotedAscii)
  | some p => invalid ("Unknown conversion specifier " ++ [p])

def textMethods : List String := [
  "capitalize", "casefold", "center", "count", "encode", "endswith", "expandtabs", "find", "format",
  "format_map", "index", "isalnum", "isalpha", "isascii", "isdecimal", "isdigit", "isidentifier", "islower",
  "isnumeric", "isprintable", "isspace", "istitle", "isupper", "join", "ljust", "lower", "lstrip",
  "maketrans", "partition", "removeprefix", "removesuffix", "replace", "rfind", "rindex", "rjust",
  "rpartition", "rsplit", "rstrip", "split", "splitlines", "startswith", "strip", "swapcase", "title",
  "translate", "upper", "zfill"]

def numberMethods : List String := [
  "as_integer_ratio", "bit_count", "bit_length", "conjugate", "from_bytes", "to_bytes"]

def method (name type : String) : Cell :=
  let t : Text := "<built-in method " ++ name ++ " of " ++ type ++ " object at 0x0>"
  .shown t t

def member (name : String) : Cell → Except TemplateError Cell
  | text _ => if textMethods.contains name then .ok (method name "str") else .error (.fault .missingAttribute)
  | number n =>
    if name == "real" || name == "numerator" then .ok (number n)
    else if name == "imag" then .ok (number 0)
    else if name == "denominator" then .ok (number 1)
    else if numberMethods.contains name then .ok (method name "int")
    else .error (.fault .missingAttribute)
  | _ => .error (.fault .missingAttribute)

def item (index : Nat) : Cell → Except TemplateError Cell
  | text t =>
    match t[index]? with
    | some p => .ok (text [p])
    | none => .error (.fault .outOfRange)
  | numbers ns =>
    match ns[index]? with
    | some n => .ok (number n)
    | none => .error (.fault .outOfRange)
  | _ => .error (.fault .wrongKind)

end Cell

/-- The name of a value: one among those given in order, or by a word. -/
inductive Key where
  | index (n : Nat)
  | word (name : Text)
  deriving DecidableEq, Repr

def keyOf (t : Text) : Except TemplateError Key :=
  if !t.isEmpty && t.all DecimalDigit.isDecimal then do
    match ← leadingNumber t with
    | (some n, _) => return .index n
    | (none, _) => return .word t
  else .ok (.word t)

/-- Goes from a value to a part of it, by the steps that are written behind its name. -/
def follow : Nat → Text → Cell → Except TemplateError Cell
  | 0, _, c => .ok c
  | _, [], c => .ok c
  | fuel + 1, 46 :: rest, c => do
    let name : Text := rest.takeWhile fun p => p != 46 && p != 91
    if name.isEmpty then invalid "Empty attribute in format string"
    follow fuel (rest.dropWhile fun p => p != 46 && p != 91) (← c.member name.toStringLossy)
  | fuel + 1, 91 :: rest, c => do
    match Segments.cut 93 rest with
    | none => invalid "Missing ']' in format string"
    | some (name, rest) =>
      let key ← keyOf name
      if name.isEmpty then invalid "Empty attribute in format string"
      match key with
      | .index n => follow fuel rest (← c.item n)
      | .word _ => throw (.fault .wrongKind)
  | _, _, _ => invalid "Only '.' or '[' may follow ']' in format field specifier"

def reach (value : Key → Except TemplateError Cell) (name : Text) : Except TemplateError Cell := do
  let isStep (p : CodePoint) : Bool := p == 46 || p == 91
  let key ← keyOf (name.takeWhile (! isStep ·))
  follow name.length (name.dropWhile (! isStep ·)) (← value key)

structure Field where
  name : Text
  spec : Text := []
  conversion : Option CodePoint := none
  deriving DecidableEq, Repr

structure Piece where
  literal : Text
  field : Option Field := none
  deriving DecidableEq, Repr

inductive NameEnd where
  | closed
  | colon
  | exclamation
  deriving DecidableEq, Repr

/-- The name of a field, how it ends, and what follows. Brackets hold all but the closing one. -/
def fieldName (inBrackets : Bool) : Text → Except TemplateError (Text × NameEnd × Text)
  | [] => invalid "expected '\x7d' before end of string"
  | p :: rest =>
    let more (inBrackets : Bool) : Except TemplateError (Text × NameEnd × Text) := do
      let (name, ending, rest) ← fieldName inBrackets rest
      return (p :: name, ending, rest)
    if inBrackets then more (p != 93)
    else match p with
      | 123 => invalid "unexpected '\x7b' in field name"
      | 91 => more true
      | 125 => .ok ([], .closed, rest)
      | 58 => .ok ([], .colon, rest)
      | 33 => .ok ([], .exclamation, rest)
      | _ => more false

def fieldSpec (depth : Nat) : Text → Except TemplateError (Text × Text)
  | [] => invalid "unmatched '\x7b' in format spec"
  | p :: rest =>
    let more (depth : Nat) : Except TemplateError (Text × Text) := do
      let (spec, rest) ← fieldSpec depth rest
      return (p :: spec, rest)
    match p, depth with
    | 123, depth => more (depth + 1)
    | 125, 0 => .ok ([], rest)
    | 125, depth + 1 => more depth
    | _, depth => more depth

def readField (t : Text) : Except TemplateError (Field × Text) := do
  let (name, ending, rest) ← fieldName false t
  match ending with
  | .closed => return ({ name }, rest)
  | .colon =>
    let (spec, rest) ← fieldSpec 0 rest
    return ({ name, spec }, rest)
  | .exclamation =>
    match rest with
    | [] => invalid "end of string while looking for conversion specifier"
    | [_] => invalid "unmatched '\x7b' in format spec"
    | conversion :: 125 :: rest => return ({ name, conversion := some conversion }, rest)
    | conversion :: 58 :: rest =>
      let (spec, rest) ← fieldSpec 0 rest
      return ({ name, spec, conversion := some conversion }, rest)
    | _ => invalid "expected ':' after conversion specifier"

def isBrace (p : CodePoint) : Bool := p == 123 || p == 125

def readPiece (t : Text) : Except TemplateError (Piece × Text) := do
  let literal := t.takeWhile (! isBrace ·)
  match t.dropWhile (! isBrace ·) with
  | [] => return ({ literal }, [])
  | [125] => invalid "Single '\x7d' encountered in format string"
  | [_] => invalid "Single '\x7b' encountered in format string"
  | brace :: next :: rest =>
    if brace == next then return ({ literal := literal ++ [brace] }, rest)
    else if brace == 125 then invalid "Single '\x7d' encountered in format string"
    else
      let (field, rest) ← readField (next :: rest)
      return ({ literal, field := some field }, rest)

/-- The pieces of a template. Each takes something off its text, so its length bounds their number. -/
def pieces (t : Text) : Except TemplateError (List Piece) := go t.length t
where
  go : Nat → Text → Except TemplateError (List Piece)
    | 0, _ => .ok []
    | _, [] => .ok []
    | fuel + 1, t => do
      let (piece, rest) ← readPiece t
      return piece :: (← go fuel rest)

/-- How deep fields may stand within the specifications of others. -/
def nesting : Nat := 2

/-- A template with its fields filled. Specifications are templates themselves, up to a depth. -/
def fill (value : Key → Except TemplateError Cell) : Nat → Text → Except TemplateError Text
  | 0, _ => invalid "Max string recursion exceeded"
  | depth + 1, t => do
    let parts ← (← pieces t).mapM fun piece =>
      match piece.field with
      | none => pure piece.literal
      | some field => do
        let cell ← (← reach value field.name).convert field.conversion
        let spec ← if field.spec.contains 123 then fill value depth field.spec else pure field.spec
        return piece.literal ++ (← cell.lay spec)
    return parts.flatten

/-- Tries a template with stand-ins: each word for itself between braces, and zero for the line. Values named by their
place are missing. Every specification counts as a template, also an empty one. -/
def try_ : Nat → Text → Except TemplateError Text
  | 0, _ => invalid "Max string recursion exceeded"
  | depth + 1, t => do
    let parts ← (← pieces t).mapM fun piece =>
      match piece.field with
      | none => pure piece.literal
      | some field => do
        let name := if field.name.isEmpty then [48] else field.name
        let cell ← reach (fun
          | .index _ => .error (.fault .outOfRange)
          | .word w => .ok (if w.is "line" then .number 0 else .text ([123] ++ w ++ [125]))) name
        let cell ← cell.convert field.conversion
        let spec ← try_ depth field.spec
        return piece.literal ++ (← cell.lay spec)
    return parts.flatten

end SourceAudit.Template
