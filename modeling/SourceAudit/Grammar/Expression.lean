import SourceAudit.Grammar.Lexer
import SourceAudit.Grammar.Quotation

/-! Reading tokens from the left, and the rules for expressions. One that leads back to itself goes through `Rules`, one
level of nesting less. -/

namespace SourceAudit.Grammar

/-- The tokens that are left, their number, and the end of the last token that was not layout. -/
structure Feed where
  tokens : List Token
  left : Nat
  endLine : Nat := 0
  endColumn : Nat := 0

def Feed.ofTokens (tokens : List Token) : Feed := { tokens, left := tokens.length }

abbrev Parse := StateT Feed (Except Rejection)

def peek : Parse Token := do
  return (← get).tokens.head?.getD ⟨.endOfInput, 0, 0, 0, 0⟩

def peekSecond : Parse Token := do
  return ((← get).tokens.drop 1).head?.getD ⟨.endOfInput, 0, 0, 0, 0⟩

def advance : Parse Unit := modify fun s =>
  match s.tokens with
  | [] => s
  | t :: ts =>
    if t.isLayout then { s with tokens := ts, left := s.left - 1 }
    else ⟨ts, s.left - 1, t.endLine, t.endColumn⟩

/-- Refuses the program at the next token; a misplaced block is a fault of indentation. -/
def reject {α : Type} : Parse α := do
  match (← peek).lexeme with
  | .indent | .dedent => throw .indentation
  | .refused why => throw why
  | _ => throw .malformed

def either {α : Type} (first second : Parse α) : Parse α := tryCatch first fun _ => second

def nextIsMark (s : String) : Parse Bool := return (← peek).isMark s

def nextIsWord (s : String) : Parse Bool := return (← peek).isWord s

def tryMark (s : String) : Parse Bool := do
  if (← peek).isMark s then advance; return true else return false

def tryWord (s : String) : Parse Bool := do
  if (← peek).isWord s then advance; return true else return false

def mark (s : String) : Parse Unit := do
  if !(← tryMark s) then reject

def word (s : String) : Parse Unit := do
  if !(← tryWord s) then reject

def name : Parse String := do
  match (← peek).name? with
  | some n => advance; return n
  | none => reject

def newline : Parse Unit := do
  match (← peek).lexeme with
  | .newline => advance
  | _ => reject

def spanFrom (start : Token) : Parse Span := do
  let s ← get
  return ⟨start.line, start.column, s.endLine, s.endColumn⟩

/-- A node made of what a rule gives, from the token `start` to the last one that was read. -/
def spanned {α : Type} (start : Token) (make : Span → α → Node) (rule : Parse α) : Parse Node := do
  let a ← rule
  return make (← spanFrom start) a

def optionally {α : Type} (begins : Parse Bool) (rule : Parse α) : Parse (Option α) := do
  if ← begins then return some (← rule) else return none

/-- Runs a rule until it gives nothing; every result consumes a token, so the tokens bound the rounds. -/
def many {α : Type} (rule : Parse (Option α)) : Parse (List α) := do
  go (← get).left
where
  go : Nat → Parse (List α)
    | 0 => return []
    | n + 1 => do
      match ← rule with
      | none => return []
      | some a => return a :: (← go n)

def repeated {α : Type} (step : α → Parse (Option α)) (a : α) : Parse α := do
  go (← get).left a
where
  go : Nat → α → Parse α
    | 0, a => return a
    | n + 1, a => do
      match ← step a with
      | none => return a
      | some b => go n b

/-- Items between commas, until `stops` says that none comes. The flag tells whether a comma came last. -/
def commaSeparated {α : Type} (stops : Parse Bool) (item : Parse α) : Parse (List α × Bool) := do
  let first ← item
  let rest ← many do
    if ← nextIsMark "," then
      advance
      if ← stops then
        if ← nextIsMark "," then reject else return some none
      else return some (some (← item))
    else return none
  return (first :: rest.filterMap id, rest.any Option.isNone)

def moreItems {α : Type} (stops : Parse Bool) (item : Parse α) : Parse (List α) := do
  if ← tryMark "," then
    if ← stops then return [] else return (← commaSeparated stops item).1
  else return []

/-- The rules that others come back to behind at least one token. -/
structure Rules where
  expression : Parse Node
  disjunction : Parse Node
  inversion : Parse Node
  bitwiseOr : Parse Node
  factor : Parse Node
  primary : Parse Node
  pattern : Parse Node
  block : Parse (List Node)

def beginsExpression (t : Token) : Bool :=
  match t.lexeme with
  | .word spelling _ =>
    !Token.keywords.contains spelling ||
      ["False", "None", "True", "await", "lambda", "not"].contains spelling
  | .number _ | .quotation _ => true
  | .mark m => ["(", "[", "\x7b", "-", "+", "~", "..."].contains m
  | _ => false

def beginsStarred (t : Token) : Bool := beginsExpression t || t.isMark "*"

def noStarred : Parse Bool := return !beginsStarred (← peek)

def nextIsNaming : Parse Bool := do
  return (← peek).name?.isSome && (← peekSecond).isMark ":="

def namedExpression (r : Rules) : Parse Node := do
  let start ← peek
  match start.name? with
  | some id =>
    if (← peekSecond).isMark ":=" then
      advance
      let target := Node.name (← spanFrom start) id .store
      advance
      spanned start (.namedExpr · target) r.expression
    else r.expression
  | none => r.expression

def starredOr (operand other : Parse Node) : Parse Node := do
  let start ← peek
  if ← tryMark "*" then spanned start (.starred · · .load) operand else other

def starExpression (r : Rules) : Parse Node := starredOr r.bitwiseOr r.expression

def starNamedExpression (r : Rules) : Parse Node := starredOr r.bitwiseOr (namedExpression r)

/-- One item, or the tuple of several; a single item with a comma behind it is a tuple too. -/
def tupleOf (stops : Parse Bool) (item : Parse Node) : Parse Node := do
  let start ← peek
  let (items, comma) ← commaSeparated stops item
  match items, comma with
  | [one], false => return one
  | items, _ => return .tuple (← spanFrom start) items .load

def starExpressions (r : Rules) : Parse Node := tupleOf noStarred (starExpression r)

def yieldExpression (r : Rules) : Parse Node := do
  let start ← peek
  word "yield"
  if ← tryWord "from" then spanned start .yieldFrom r.expression
  else spanned start .yield (optionally (not <$> noStarred) (starExpressions r))

def yieldOrStarExpressions (r : Rules) : Parse Node := do
  if ← nextIsWord "yield" then yieldExpression r else starExpressions r

/-! ### Targets -/

/-- Whether a value can be bound to the node. Starred targets stand only in sequences. -/
def isTarget (starred : Bool) : Node → Bool
  | .name .. | .attr .. | .subscript .. => true
  | .starred _ value _ => starred && isTarget starred value
  | .tuple _ elts _ => elts.attach.all fun ⟨e, _⟩ => isTarget starred e
  | .list _ elts _ => elts.attach.all fun ⟨e, _⟩ => isTarget starred e
  | _ => false

mutual

/-- The target of a statement that binds or deletes. An attribute or an item is taken from a value that is read. -/
def inContext (ctx : Operator) : Node → Node
  | .name span id _ => .name span id ctx
  | .attr span value name _ => .attr span value name ctx
  | .subscript span value index _ => .subscript span value index ctx
  | .starred span value _ => .starred span (inContext ctx value) ctx
  | .tuple span elts _ => .tuple span (allInContext ctx elts) ctx
  | .list span elts _ => .list span (allInContext ctx elts) ctx
  | n => n

def allInContext (ctx : Operator) : List Node → List Node
  | [] => []
  | n :: rest => inContext ctx n :: allInContext ctx rest

end

def isSingleTarget : Node → Bool
  | .name .. | .attr .. | .subscript .. => true
  | _ => false

/-! ### Comprehensions, parameters, arguments -/

/-- One target of a loop: an attribute, an item or an atom that can be bound, or an unpacked one. -/
def starTarget (r : Rules) : Parse Node := do
  let n ← starredOr r.primary r.primary
  if isTarget true n then return n else reject

def starTargets (r : Rules) : Parse Node := inContext .store <$> tupleOf noStarred (starTarget r)

def forClauses (r : Rules) : Parse (List Node) := many do
  let second ← peekSecond
  let async := (← nextIsWord "async") && second.isWord "for"
  if async then advance
  if ← tryWord "for" then
    let target ← starTargets r
    word "in"
    let iter ← r.disjunction
    let ifs ← many (optionally (tryWord "if") r.disjunction)
    return some (.comprehension target iter ifs)
  else return none

def nextIsFor : Parse Bool := do
  return (← nextIsWord "for") || ((← nextIsWord "async") && (← peekSecond).isWord "for")

def comprehension (r : Rules) (close : String) : Parse (List Node) := do
  let clauses ← forClauses r
  mark close
  return clauses

structure Parameter where
  node : Node
  default : Option Node

structure Parameters where
  posOnly : List Parameter := []
  plain : List Parameter := []
  vararg : Option Node := none
  /-- A star has been read, so parameters are keyword-only from here on. -/
  starred : Bool := false
  kwOnly : List Parameter := []
  kwarg : Option Node := none

namespace Parameters

def ordered (ps : List Parameter) : Bool :=
  let tail := ps.dropWhile fun p => p.default.isNone
  tail.all fun p => p.default.isSome

def node? (ps : Parameters) : Option Node :=
  let posOnly := ps.posOnly.reverse
  let plain := ps.plain.reverse
  let kwOnly := ps.kwOnly.reverse
  if !ordered (posOnly ++ plain) then none
  else if ps.starred && ps.vararg.isNone && kwOnly.isEmpty then none
  else some (.arguments (posOnly.map (·.node)) (plain.map (·.node)) ps.vararg (kwOnly.map (·.node))
    (kwOnly.map (·.default)) ps.kwarg ((posOnly ++ plain).filterMap (·.default)))

end Parameters

def parameterName (r : Rules) (annotated starAnnotation : Bool) : Parse Node := do
  let start ← peek
  let id ← name
  spanned start (.arg · id) (optionally (if annotated then tryMark ":" else return false)
    (if starAnnotation then starExpression r else r.expression))

def parameterItem (r : Rules) (annotated : Bool) (ps : Parameters) : Parse Parameters := do
  if ps.kwarg.isSome then reject
  else if ← nextIsMark "/" then
    if ps.starred || !ps.posOnly.isEmpty || ps.plain.isEmpty then reject
    advance
    return { ps with posOnly := ps.plain, plain := [] }
  else if ← nextIsMark "**" then
    advance
    let node ← parameterName r annotated false
    return { ps with kwarg := some node }
  else if ← nextIsMark "*" then
    if ps.starred then reject
    advance
    if ← nextIsMark "," then return { ps with starred := true }
    else
      let node ← parameterName r annotated true
      return { ps with starred := true, vararg := some node }
  else
    let node ← parameterName r annotated false
    let default ← optionally (tryMark "=") r.expression
    if ps.starred then return { ps with kwOnly := ⟨node, default⟩ :: ps.kwOnly }
    else return { ps with plain := ⟨node, default⟩ :: ps.plain }

def parameters (r : Rules) (annotated : Bool) (stop : String) : Parse Node := do
  let ps ←
    if ← nextIsMark stop then pure {}
    else
      let first ← parameterItem r annotated {}
      repeated (fun ps => do
        if ← tryMark "," then
          if ← nextIsMark stop then return none
          else return some (← parameterItem r annotated ps)
        else return none) first
  if !(← nextIsMark stop) then reject
  match ps.node? with
  | some node => return node
  | none => reject

inductive Argument where
  | positional (n : Node)
  | unpacked (n : Node)
  | keyword (n : Node)
  | mapping (n : Node)

def tryKeyword : Parse (Option String) := do
  let id := (← peek).name?
  if id.isSome && (← peekSecond).isMark "=" then
    advance
    advance
    return id
  else return none

def argument (r : Rules) : Parse Argument := do
  let start ← peek
  if ← tryMark "**" then return .mapping (← spanned start (.keyword · none) r.expression)
  else if ← tryMark "*" then return .unpacked (← spanned start (.starred · · .load) r.expression)
  else match ← tryKeyword with
    | some id => return .keyword (← spanned start (.keyword · (some id)) r.expression)
    | none => return .positional (← namedExpression r)

def argumentsOrdered : List Argument → Bool
  | [] => true
  | .positional _ :: rest | .unpacked _ :: rest => argumentsOrdered rest
  | .keyword _ :: rest => afterKeyword rest
  | .mapping _ :: rest => afterMapping rest
where
  afterKeyword : List Argument → Bool
    | [] => true
    | .positional _ :: _ => false
    | .unpacked _ :: rest | .keyword _ :: rest => afterKeyword rest
    | .mapping _ :: rest => afterMapping rest
  afterMapping : List Argument → Bool
    | [] => true
    | .positional _ :: _ | .unpacked _ :: _ => false
    | .keyword _ :: rest | .mapping _ :: rest => afterMapping rest

def argumentList (first : Argument) (rest : List Argument) : Parse (List Node × List Node) := do
  let items := first :: rest
  if !argumentsOrdered items then reject
  mark ")"
  let args := items.filterMap fun | .positional n | .unpacked n => some n | _ => none
  let keywords := items.filterMap fun | .keyword n | .mapping n => some n | _ => none
  return (args, keywords)

def plainArguments (r : Rules) : Parse (List Node × List Node) := do
  if ← tryMark ")" then return ([], [])
  match (← commaSeparated (nextIsMark ")") (argument r)).1 with
  | [] => reject
  | first :: rest => argumentList first rest

/-- The arguments of a call behind its bracket. A generator alone needs no brackets of its own. -/
def arguments (r : Rules) (open_ : Token) : Parse (List Node × List Node) := do
  if ← tryMark ")" then return ([], [])
  match ← argument r with
  | .positional elt =>
    if ← nextIsFor then
      return ([← spanned open_ (.generatorExp · elt) (comprehension r ")")], [])
    else argumentList (.positional elt) (← moreArguments)
  | first => argumentList first (← moreArguments)
where
  moreArguments : Parse (List Argument) := moreItems (nextIsMark ")") (argument r)

/-! ### String literals -/

def fieldPlace (t : Token) (source : List Char) (start : Nat) : Nat × Nat :=
  let before := source.take start
  let after := source.drop (start + 1)
  let width := fun (cs : List Char) => cs.foldl (fun n c => n + c.utf8Size) 0
  let lines := before.count '\n'
  let lineHead := (before.reverse.takeWhile (· != '\n'))
  let firstAfter := after.dropWhile fun c => c == ' ' || c == '\t' || c == '\x0c'
  let newlineFirst := firstAfter.head? == some '\n' || firstAfter.head? == some Quotation.closeBrace
  let cols := if newlineFirst then 0 else width lineHead
  (t.line + lines, if lines == 0 then t.column + cols else cols)

/-- The expression of a field. It is read as if it stood in parentheses at its place. -/
def fieldExpression (r : Rules) (t : Token) (source e : List Char) (start : Nat) : Parse Node := do
  let (line, column) := fieldPlace t source start
  let shift := fun (t : Token) =>
    if t.endLine == line then { t with column := t.column + column, endColumn := t.endColumn + column }
    else t
  let tokens := (Lexer.tokens line ('(' :: (e ++ [')', '\n']))).map shift
  match (starExpressions r).run (Feed.ofTokens tokens) with
  | .ok (n, _) => return n
  | .error why => throw why

/-- Text and fields as nodes, neighbouring text joined. Text stands at `span`, behind the last field at `last`. -/
def joinPieces (span last : Span) (items : List (Text ⊕ Node)) : List Node :=
  let flush := fun (place : Span) (text : Text) (nodes : List Node) =>
    if text.isEmpty then nodes else Node.constant place (.text text) :: nodes
  let (nodes, text) := items.foldl (fun (nodes, text) item =>
    match item with
    | .inl t => (nodes, text ++ t)
    | .inr n => (n :: flush span text nodes, [])) (([] : List Node), ([] : Text))
  (flush last text nodes).reverse

def tokenSpan (t : Token) : Span := ⟨t.line, t.column, t.endLine, t.endColumn⟩

/-- Nodes of the parts of one token. Fields stand where the whole literal stands, formats where their token stands. -/
def pieceItems (r : Rules) (span : Span) (t : Token) (source : List Char) (depth : Nat)
    (ps : List Quotation.Piece) : Parse (List (Text ⊕ Node)) :=
  match depth with
  | 0 => return []
  | depth + 1 => do
    let items ← ps.mapM fun
      | .literal text => return [Sum.inl text]
      | .field e start shown format => do
        let value ← fieldExpression r t source e start
        let spec ← match format with
          | none => pure none
          | some ps => do
            let items ← pieceItems r span t source depth ps
            pure (some (Node.joinedStr (tokenSpan t) (joinPieces span (tokenSpan t) items)))
        let field := Sum.inr (Node.formattedValue span value spec)
        return match shown with
          | some text => [Sum.inl text, field]
          | none => [field]
    return items.flatten

def strings (r : Rules) : Parse Node := do
  let start ← peek
  let literals ← many do
    let t ← peek
    match t.lexeme with
    | .quotation q => advance; return some (t, q)
    | _ => return none
  let span ← spanFrom start
  if literals.all fun (_, q) => q.bytes then
    match literals.mapM fun (_, q) => q.bytes? with
    | some parts => return .constant span (.bytes parts.flatten)
    | none => throw .malformed
  else if literals.any fun (_, q) => q.bytes then throw .malformed
  else
    let items ← literals.mapM fun (t, q) => do
      if q.formatted then
        match q.formatted? with
        | some ps => pieceItems r span t q.source 4 ps
        | none => throw .malformed
      else match q.text? with
        | some text => return [Sum.inl text]
        | none => throw .malformed
    let items := items.flatten
    if literals.any fun (_, q) => q.formatted then
      return .joinedStr span (joinPieces span span items)
    else
      return .constant span (.text (items.flatMap fun | .inl t => t | .inr _ => []))

/-! ### Atoms and primaries -/

def isStarred : Node → Bool
  | .starred .. => true
  | _ => false

def parenthesized (r : Rules) : Parse Node := do
  let start ← peek
  mark "("
  if ← tryMark ")" then return .tuple (← spanFrom start) [] .load
  else if ← nextIsWord "yield" then
    let value ← yieldExpression r
    mark ")"
    return value
  else
    let first ← starNamedExpression r
    if ← nextIsMark "," then
      let rest ← moreItems noStarred (starNamedExpression r)
      mark ")"
      return .tuple (← spanFrom start) (first :: rest) .load
    else if isStarred first then reject
    else if ← nextIsFor then spanned start (.generatorExp · first) (comprehension r ")")
    else
      mark ")"
      return first

def listDisplay (r : Rules) : Parse Node := do
  let start ← peek
  mark "["
  if ← tryMark "]" then return .list (← spanFrom start) [] .load
  let first ← starNamedExpression r
  if !isStarred first && (← nextIsFor) then spanned start (.listComp · first) (comprehension r "]")
  else
    let rest ← moreItems noStarred (starNamedExpression r)
    mark "]"
    return .list (← spanFrom start) (first :: rest) .load

def dictEntry (r : Rules) : Parse (Option Node × Node) := do
  if ← tryMark "**" then return (none, ← r.bitwiseOr)
  else
    let key ← r.expression
    mark ":"
    return (some key, ← r.expression)

def dictRest (r : Rules) (start : Token) (first : Option Node × Node) : Parse Node := do
  let rest ← moreItems (nextIsMark "\x7d") (dictEntry r)
  mark "\x7d"
  let entries := first :: rest
  return .dict (← spanFrom start) (entries.map (·.1)) (entries.map (·.2))

def braceDisplay (r : Rules) : Parse Node := do
  let start ← peek
  mark "\x7b"
  if ← tryMark "\x7d" then return .dict (← spanFrom start) [] []
  else if ← nextIsMark "**" then dictRest r start (← dictEntry r)
  else
    let naming ← nextIsNaming
    let first ← starNamedExpression r
    let starred := isStarred first
    if !naming && !starred && (← nextIsMark ":") then
      advance
      let value ← r.expression
      if ← nextIsFor then spanned start (.dictComp · first value) (comprehension r "\x7d")
      else dictRest r start (some first, value)
    else if !starred && (← nextIsFor) then spanned start (.setComp · first) (comprehension r "\x7d")
    else
      let rest ← moreItems noStarred (starNamedExpression r)
      mark "\x7d"
      return .set (← spanFrom start) (first :: rest)

def namedConstant? : Lexeme → Option Constant
  | .word "None" _ => some .none
  | .word "True" _ => some (.bool true)
  | .word "False" _ => some (.bool false)
  | _ => none

def literal (t : Token) (c : Constant) : Parse Node := spanned t .constant (do advance; return c)

def atom (r : Rules) : Parse Node := do
  let t ← peek
  match t.lexeme with
  | .number value => literal t value
  | .quotation _ => strings r
  | .mark "(" => parenthesized r
  | .mark "[" => listDisplay r
  | .mark "\x7b" => braceDisplay r
  | .mark "..." => literal t .ellipsis
  | lexeme =>
    match namedConstant? lexeme with
    | some c => literal t c
    | none => spanned t (.name · · .load) name

def sliceItem (r : Rules) : Parse Node := do
  let start ← peek
  let bound := optionally (return beginsExpression (← peek)) r.expression
  let slice := fun (lower : Option Node) => do
    mark ":"
    let upper ← bound
    spanned start (.slice · lower upper) do if ← tryMark ":" then bound else return none
  if start.isMark "*" then starredOr r.expression r.expression
  else if start.isMark ":" then slice none
  else
    let naming ← nextIsNaming
    let first ← namedExpression r
    if !naming && (← nextIsMark ":") then slice (some first) else return first

/-- The items of a subscript, up to the closing bracket; an unpacked item makes a tuple of its own. -/
def slices (r : Rules) : Parse Node := do
  let start ← peek
  let (items, comma) ← commaSeparated (nextIsMark "]") (sliceItem r)
  match items, comma with
  | [.starred s v ctx], false => return .tuple (← spanFrom start) [.starred s v ctx] .load
  | [one], false => return one
  | items, _ => return .tuple (← spanFrom start) items .load

def trailer (r : Rules) (start : Token) (n : Node) : Parse (Option Node) := do
  let open_ ← peek
  if ← tryMark "." then return some (← spanned start (.attr · n · .load) name)
  else if ← tryMark "(" then
    let (args, keywords) ← arguments r open_
    return some (.call (← spanFrom start) n args keywords)
  else if ← tryMark "[" then
    let index ← slices r
    mark "]"
    return some (.subscript (← spanFrom start) n index .load)
  else return none

def primary (r : Rules) : Parse Node := do
  let start ← peek
  let first ← atom r
  repeated (trailer r start) first

/-! ### Operators -/

def binaryOp (start : Token) (left : Node) (op : Operator) (operand : Parse Node) :
    Parse (Option Node) := do
  advance
  return some (← spanned start (.binOp · left (.operator op)) operand)

def operatorAt (ops : List (String × Operator)) (t : Token) : Option Operator :=
  match t.lexeme with
  | .mark m => ops.lookup m
  | _ => none

def leftAssociative (ops : List (String × Operator)) (operand : Parse Node) : Parse Node := do
  let start ← peek
  let first ← operand
  repeated (fun left => do
    match operatorAt ops (← peek) with
    | some op => binaryOp start left op operand
    | none => return none) first

def awaitPrimary (r : Rules) : Parse Node := do
  let start ← peek
  if ← tryWord "await" then spanned start .await (primary r) else primary r

def power (r : Rules) : Parse Node := do
  let start ← peek
  let base ← awaitPrimary r
  if ← nextIsMark "**" then
    return (← binaryOp start base .pow r.factor).getD base
  else return base

def factor (r : Rules) : Parse Node := do
  let start ← peek
  let unary := fun (op : Operator) => do
    advance
    spanned start (.unaryOp · (.operator op)) r.factor
  match start.lexeme with
  | .mark "+" => unary .uAdd
  | .mark "-" => unary .uSub
  | .mark "~" => unary .invert
  | _ => power r

def bitwiseOr (r : Rules) : Parse Node :=
  let term := leftAssociative [("*", .mult), ("/", .div), ("//", .floorDiv), ("%", .mod), ("@", .matMult)] (factor r)
  let sum := leftAssociative [("+", .add), ("-", .sub)] term
  let shift := leftAssociative [("<<", .lShift), (">>", .rShift)] sum
  let bitAnd := leftAssociative [("&", .bitAnd)] shift
  let bitXor := leftAssociative [("^", .bitXor)] bitAnd
  leftAssociative [("|", .bitOr)] bitXor

def comparisonOp? (first second : Token) : Option (Operator × Nat) :=
  match first.lexeme with
  | .mark m =>
    ([("==", Operator.eq), ("!=", .notEq), ("<", .lt), ("<=", .ltE), (">", .gt), (">=", .gtE)].lookup m).map (·, 1)
  | .word "in" _ => some (.in, 1)
  | .word "is" _ => if second.isWord "not" then some (.isNot, 2) else some (.is, 1)
  | .word "not" _ => if second.isWord "in" then some (.notIn, 2) else none
  | _ => none

def comparison (r : Rules) : Parse Node := do
  let start ← peek
  let left ← bitwiseOr r
  let pairs ← many do
    match comparisonOp? (← peek) (← peekSecond) with
    | none => return none
    | some (op, width) =>
      advance
      if width == 2 then advance
      return some (op, ← bitwiseOr r)
  if pairs.isEmpty then return left
  else
    return .compare (← spanFrom start) left (pairs.map fun p => .operator p.1) (pairs.map (·.2))

def inversion (r : Rules) : Parse Node := do
  let start ← peek
  if ← tryWord "not" then spanned start (.unaryOp · (.operator .not)) r.inversion else comparison r

def booleanChain (keyword : String) (op : Operator) (operand : Parse Node) : Parse Node := do
  let start ← peek
  let first ← operand
  let rest ← many (optionally (tryWord keyword) operand)
  if rest.isEmpty then return first
  else return .boolOp (← spanFrom start) (.operator op) (first :: rest)

def disjunction (r : Rules) : Parse Node := booleanChain "or" .or (booleanChain "and" .and (inversion r))

def lambda (r : Rules) : Parse Node := do
  let start ← peek
  word "lambda"
  let args ← parameters r false ":"
  mark ":"
  spanned start (.lambda · args) r.expression

def expression (r : Rules) : Parse Node := do
  let start ← peek
  if start.isWord "lambda" then lambda r
  else
    let body ← disjunction r
    if ← tryWord "if" then
      let test ← disjunction r
      word "else"
      spanned start (.ifExp · test body) r.expression
    else return body

end SourceAudit.Grammar
