import SourceAudit.Grammar.Expression

/-! The rules for patterns, statements and whole programs. -/

namespace SourceAudit.Grammar

def signedNumber : Parse Node := do
  let start ← peek
  if ← tryMark "-" then
    let digits ← peek
    match digits.lexeme with
    | .number value => spanned start (.unaryOp · (.operator .uSub)) (literal digits value)
    | _ => reject
  else match start.lexeme with
    | .number value => literal start value
    | _ => reject

def isImaginary : Node → Bool
  | .constant _ (.imaginary _) => true
  | .unaryOp _ _ (.constant _ (.imaginary _)) => true
  | _ => false

def numberPattern : Parse Node := do
  let start ← peek
  let left ← signedNumber
  let joined := fun (op : Operator) => do
    advance
    let digits ← peek
    match digits.lexeme with
    | .number (.imaginary value) =>
      if isImaginary left then reject
      spanned start (.binOp · left (.operator op)) (literal digits (.imaginary value))
    | _ => reject
  if ← nextIsMark "+" then joined .add
  else if ← nextIsMark "-" then joined .sub
  else return left

/-- A name that a pattern binds; the low line binds nothing and is no such name. -/
def captureName : Parse String := do
  if ← nextIsWord "_" then reject else name

def dottedValue : Parse Node := do
  let start ← peek
  let first ← spanned start (.name · · .load) name
  repeated (fun n => optionally (tryMark ".") (spanned start (.attr · n · .load) name)) first

def maybeStarPattern (r : Rules) : Parse Node := do
  let start ← peek
  if ← tryMark "*" then spanned start .matchStar (optionally (not <$> tryWord "_") captureName) else r.pattern

def sequenceItems (r : Rules) (close : String) : Parse (List Node × Bool) := do
  if ← tryMark close then return ([], true)
  let (items, comma) ← commaSeparated (nextIsMark close) (maybeStarPattern r)
  mark close
  return (items, comma)

/-- The pattern of items between brackets: several, or one that is followed by a comma or not. -/
def sequencePattern (start : Token) : List Node × Bool → Parse Node
  | ([.matchStar ..], false) => reject
  | ([one], false) => return one
  | (items, _) => return .matchSequence (← spanFrom start) items

def mappingKey (r : Rules) : Parse Node := do
  let t ← peek
  match t.lexeme with
  | .number _ | .mark "-" => numberPattern
  | .quotation _ => strings r
  | lexeme =>
    match namedConstant? lexeme with
    | some c => literal t c
    | none =>
      match ← dottedValue with
      | .attr s v n ctx => return .attr s v n ctx
      | _ => reject

def mappingEntry (r : Rules) : Parse ((Node × Node) ⊕ String) := do
  if ← tryMark "**" then return .inr (← captureName)
  else
    let key ← mappingKey r
    mark ":"
    return .inl (key, ← r.pattern)

def mappingPattern (r : Rules) : Parse Node := do
  let start ← peek
  mark "\x7b"
  if ← tryMark "\x7d" then return .matchMapping (← spanFrom start) [] [] none
  let (items, _) ← commaSeparated (nextIsMark "\x7d") (mappingEntry r)
  mark "\x7d"
  let pairs := items.filterMap fun | .inl p => some p | .inr _ => none
  let rests := items.filterMap fun | .inr n => some n | .inl _ => none
  let restLast := match items.getLast? with | some (.inr _) => true | _ => false
  if rests.length > 1 || (rests.length == 1 && !restLast) then reject
  return .matchMapping (← spanFrom start) (pairs.map (·.1)) (pairs.map (·.2)) rests.head?

def classEntry (r : Rules) : Parse (Option String × Node) := do
  return (← tryKeyword, ← r.pattern)

def classPattern (r : Rules) (start : Token) (cls : Node) : Parse Node := do
  mark "("
  if ← tryMark ")" then return .matchClass (← spanFrom start) cls [] [] []
  let (items, _) ← commaSeparated (nextIsMark ")") (classEntry r)
  mark ")"
  let positional := items.takeWhile fun i => i.1.isNone
  let keyword := items.dropWhile fun i => i.1.isNone
  if keyword.any fun i => i.1.isNone then reject
  return .matchClass (← spanFrom start) cls (positional.map (·.2)) (keyword.filterMap (·.1))
    (keyword.map (·.2))

def closedPattern (r : Rules) : Parse Node := do
  let t ← peek
  match t.lexeme with
  | .number _ | .mark "-" => spanned t .matchValue numberPattern
  | .quotation _ => spanned t .matchValue (strings r)
  | .mark "[" =>
    advance
    spanned t .matchSequence ((·.1) <$> sequenceItems r "]")
  | .mark "(" =>
    advance
    sequencePattern t (← sequenceItems r ")")
  | .mark "\x7b" => mappingPattern r
  | lexeme =>
    if let some c := namedConstant? lexeme then spanned t .matchSingleton (do advance; return c)
    else
      let value ← dottedValue
      if ← nextIsMark "(" then classPattern r t value
      else if ← nextIsMark "=" then reject
      else match value with
        | .name span id _ => return .matchAs span none (if t.isWord "_" then none else some id)
        | value => return .matchValue (← spanFrom t) value

def pattern (r : Rules) : Parse Node := do
  let start ← peek
  let first ← closedPattern r
  let rest ← many (optionally (tryMark "|") (closedPattern r))
  let body ← if rest.isEmpty then pure first
    else pure (Node.matchOr (← spanFrom start) (first :: rest))
  if ← tryWord "as" then spanned start (.matchAs · (some body)) (some <$> captureName) else return body

def casePatterns (r : Rules) : Parse Node := do
  let start ← peek
  let stops := return (← nextIsMark ":") || (← nextIsWord "if")
  sequencePattern start (← commaSeparated stops (maybeStarPattern r))

/-! ### Simple statements -/

def augmented : List (String × Operator) :=
  [("+=", .add), ("-=", .sub), ("*=", .mult), ("@=", .matMult), ("/=", .div), ("%=", .mod),
    ("&=", .bitAnd), ("|=", .bitOr), ("^=", .bitXor), ("<<=", .lShift), (">>=", .rShift),
    ("**=", .pow), ("//=", .floorDiv)]

def assignmentChain (r : Rules) (first : Node) : Parse (List Node × Node) := do
  let sides ← many (optionally (tryMark "=") (yieldOrStarExpressions r))
  let all := first :: sides
  match all.reverse with
  | value :: targets =>
    if targets.all (isTarget true) then return (allInContext .store targets.reverse, value) else reject
  | [] => reject

def expressionStatement (r : Rules) : Parse Node := do
  let start ← peek
  let first ← starExpressions r
  let next ← peek
  if next.isMark "=" then
    let (targets, value) ← assignmentChain r first
    return .assign (← spanFrom start) targets value
  else if next.isMark ":" then
    if !isSingleTarget first then reject
    advance
    let annotation ← r.expression
    spanned start (.annAssign · (inContext .store first) annotation)
      (optionally (tryMark "=") (yieldOrStarExpressions r))
  else
    match operatorAt augmented next with
    | some op =>
      if !isSingleTarget first then reject
      advance
      spanned start (.augAssign · (inContext .store first) (.operator op)) (yieldOrStarExpressions r)
    | none => return .exprStmt (← spanFrom start) first

def dottedName : Parse String := do
  let first ← name
  let rest ← many do
    if ← tryMark "." then return some (← name) else return none
  return joinStrings "." (first :: rest)

def aliased (rule : Parse String) : Parse Node := do
  let start ← peek
  let id ← rule
  let asName ← if ← tryWord "as" then pure (some (← name)) else pure none
  return .importedName (← spanFrom start) id asName

def listed {α : Type} (item : Parse α) : Parse (List α) := do
  let (items, comma) ← commaSeparated (return false) item
  if comma then reject else return items

def importStatement : Parse Node := do
  let start ← peek
  word "import"
  let names ← listed (aliased dottedName)
  return .importStmt (← spanFrom start) names

def importedNames : Parse (List Node) := do
  let t ← peek
  if ← tryMark "*" then return [.importedName (← spanFrom t) "*" none]
  else if ← tryMark "(" then
    let (names, _) ← commaSeparated (nextIsMark ")") (aliased name)
    mark ")"
    return names
  else listed (aliased name)

def fromStatement : Parse Node := do
  let start ← peek
  word "from"
  let dots ← many do
    if ← tryMark "." then return some 1
    else if ← tryMark "..." then return some 3
    else return none
  let level := dots.foldl (· + ·) 0
  let module ← if level > 0 && (← nextIsWord "import") then pure none
    else pure (some (← dottedName))
  word "import"
  let names ← importedNames
  return .importFrom (← spanFrom start) module names level

def nextEndsStatement : Parse Bool := do
  let t ← peek
  match t.lexeme with
  | .newline => return true
  | _ => return t.isMark ";"

def deleteStatement (r : Rules) : Parse Node := do
  let start ← peek
  word "del"
  let (targets, _) ← commaSeparated nextEndsStatement r.primary
  if targets.all (isTarget false) && (← nextEndsStatement) then
    return .delete (← spanFrom start) (allInContext .del targets)
  else reject

def simpleStatement (r : Rules) : Parse Node := do
  let start ← peek
  let optional := fun (rule : Parse Node) => optionally (not <$> nextEndsStatement) rule
  match start.lexeme with
  | .word "return" _ =>
    advance
    spanned start .returnStmt (optional (starExpressions r))
  | .word "import" _ => importStatement
  | .word "from" _ => fromStatement
  | .word "raise" _ =>
    advance
    match ← optional r.expression with
    | none => return .raise (← spanFrom start) none none
    | some exc => spanned start (.raise · (some exc)) (optionally (tryWord "from") r.expression)
  | .word "pass" _ => advance; return .pass (← spanFrom start)
  | .word "del" _ => deleteStatement r
  | .word "yield" _ => spanned start .exprStmt (yieldExpression r)
  | .word "assert" _ =>
    advance
    let test ← r.expression
    spanned start (.assertStmt · test) (optionally (tryMark ",") r.expression)
  | .word "break" _ => advance; return .break (← spanFrom start)
  | .word "continue" _ => advance; return .continue (← spanFrom start)
  | .word "global" _ =>
    advance
    spanned start .globalStmt (listed name)
  | .word "nonlocal" _ =>
    advance
    spanned start .nonlocalStmt (listed name)
  | _ => expressionStatement r

def simpleStatements (r : Rules) : Parse (List Node) := do
  let first ← simpleStatement r
  let rest ← many do
    if ← tryMark ";" then
      match (← peek).lexeme with
      | .newline => return some none
      | _ => return some (some (← simpleStatement r))
    else return none
  newline
  return first :: rest.filterMap id

/-! ### Compound statements -/

def suite (r : Rules) : Parse (List Node) := do
  mark ":"
  match (← peek).lexeme with
  | .newline =>
    advance
    match (← peek).lexeme with
    | .indent =>
      advance
      r.block
    | .refused why => throw why
    | _ => throw .indentation
  | _ => simpleStatements r

def elseBlock (r : Rules) : Parse (List Node) := do
  if ← tryWord "else" then suite r else return []

/-- The branches behind the first one; each `elif` is an `if` in the `else` of the one before. -/
def ifRest (r : Rules) : Nat → Parse (List Node)
  | 0 => return []
  | depth + 1 => do
    let start ← peek
    if ← tryWord "elif" then
      let test ← namedExpression r
      let body ← suite r
      return [← spanned start (.ifStmt · test body) (ifRest r depth)]
    else elseBlock r

def ifStatement (r : Rules) : Parse Node := do
  let start ← peek
  word "if"
  let test ← namedExpression r
  let body ← suite r
  spanned start (.ifStmt · test body) (ifRest r (← get).left)

def whileStatement (r : Rules) : Parse Node := do
  let start ← peek
  word "while"
  let test ← namedExpression r
  let body ← suite r
  spanned start (.whileLoop · test body) (elseBlock r)

def forStatement (r : Rules) (start : Token) (async : Bool) : Parse Node := do
  word "for"
  let target ← starTargets r
  word "in"
  let iter ← starExpressions r
  let body ← suite r
  spanned start (.forLoop · async target iter body) (elseBlock r)

def withItem (r : Rules) : Parse Node := do
  let context ← r.expression
  if ← tryWord "as" then
    let target ← starTarget r
    if (← nextIsMark ",") || (← nextIsMark ")") || (← nextIsMark ":") then
      return .withItem context (some (inContext .store target))
    else reject
  else return .withItem context none

/-- The items of a with statement. They may stand in parentheses, if a colon follows these. -/
def withItems (r : Rules) : Parse (List Node) := do
  let enclosed : Parse (List Node) := do
    mark "("
    let (items, _) ← commaSeparated (nextIsMark ")") (withItem r)
    mark ")"
    if ← nextIsMark ":" then return items else reject
  if ← nextIsMark "(" then either enclosed (listed (withItem r)) else listed (withItem r)

def withStatement (r : Rules) (start : Token) (async : Bool) : Parse Node := do
  word "with"
  let items ← withItems r
  spanned start (.withStmt · async items) (suite r)

def functionStatement (r : Rules) (start : Token) (async : Bool) (decorators : List Node) :
    Parse Node := do
  word "def"
  let id ← name
  mark "("
  let args ← parameters r true ")"
  mark ")"
  let returns ← optionally (tryMark "->") r.expression
  spanned start (.functionDef · async id args · decorators returns) (suite r)

def classStatement (r : Rules) (decorators : List Node) : Parse Node := do
  let start ← peek
  word "class"
  let id ← name
  let (bases, keywords) ← if ← tryMark "(" then plainArguments r else pure ([], [])
  spanned start (.classDef · id bases keywords · decorators) (suite r)

def decorated (r : Rules) : Parse Node := do
  let decorators ← many do
    if ← tryMark "@" then
      let value ← namedExpression r
      newline
      return some value
    else return none
  let start ← peek
  if start.isWord "class" then classStatement r decorators
  else if start.isWord "async" then
    advance
    functionStatement r start true decorators
  else functionStatement r start false decorators

def handlers (r : Rules) (star : Bool) : Parse (List Node) := many do
  let start ← peek
  if start.isWord "except" then
    advance
    if star then mark "*"
    let type ← optionally (return star || !(← nextIsMark ":")) r.expression
    let id ← optionally (return type.isSome && (← tryWord "as")) name
    return some (← spanned start (.exceptHandler · type id) (suite r))
  else return none

def tryStatement (r : Rules) : Parse Node := do
  let start ← peek
  word "try"
  let body ← suite r
  let star := (← nextIsWord "except") && (← peekSecond).isMark "*"
  let handlers ← handlers r star
  let orelse ← if handlers.isEmpty then pure [] else elseBlock r
  let finalbody ← if ← tryWord "finally" then suite r else pure []
  if handlers.isEmpty && finalbody.isEmpty then reject
  return .tryStmt (← spanFrom start) star body handlers orelse finalbody

def matchHeader (r : Rules) : Parse Node := do
  word "match"
  let start ← peek
  let first ← starNamedExpression r
  let subject ←
    if ← nextIsMark "," then
      spanned start (.tuple · · .load) ((first :: ·) <$> moreItems noStarred (starNamedExpression r))
    else if isStarred first then reject
    else pure first
  mark ":"
  newline
  return subject

def caseBlocks (r : Rules) : Parse (List Node) := many do
  if ← tryWord "case" then
    let pattern ← casePatterns r
    let guard ← optionally (tryWord "if") (namedExpression r)
    let body ← suite r
    return some (.matchCase pattern guard body)
  else return none

def matchStatement (r : Rules) (start : Token) (subject : Node) : Parse Node := do
  match (← peek).lexeme with
  | .indent =>
    advance
    let cases ← caseBlocks r
    if cases.isEmpty then reject
    match (← peek).lexeme with
    | .dedent => advance; return .matchStmt (← spanFrom start) subject cases
    | _ => reject
  | .refused why => throw why
  | _ => throw .indentation

def statement (r : Rules) : Parse (List Node) := do
  let start ← peek
  let one := fun (rule : Parse Node) => do return [← rule]
  match start.lexeme with
  | .word "def" _ => one (functionStatement r start false [])
  | .mark "@" => one (decorated r)
  | .word "class" _ => one (classStatement r [])
  | .word "if" _ => one (ifStatement r)
  | .word "while" _ => one (whileStatement r)
  | .word "for" _ => one (forStatement r start false)
  | .word "with" _ => one (withStatement r start false)
  | .word "try" _ => one (tryStatement r)
  | .word "async" _ =>
    advance
    if ← nextIsWord "def" then one (functionStatement r start true [])
    else if ← nextIsWord "with" then one (withStatement r start true)
    else if ← nextIsWord "for" then one (forStatement r start true)
    else reject
  | .word "match" _ =>
    match ← either (some <$> matchHeader r) (return none) with
    | some subject => one (matchStatement r start subject)
    | none => simpleStatements r
  | _ => simpleStatements r

def block (r : Rules) : Parse (List Node) := do
  let body ← many do
    match (← peek).lexeme with
    | .dedent => return none
    | _ => return some (← statement r)
  advance
  return body.flatten

def rules : Nat → Rules
  | 0 => ⟨reject, reject, reject, reject, reject, reject, reject, reject⟩
  | n + 1 => {
    expression := fun s => expression (rules n) s
    disjunction := fun s => disjunction (rules n) s
    inversion := fun s => inversion (rules n) s
    bitwiseOr := fun s => bitwiseOr (rules n) s
    factor := fun s => factor (rules n) s
    primary := fun s => primary (rules n) s
    pattern := fun s => pattern (rules n) s
    block := fun s => block (rules n) s }

def program (r : Rules) : Parse Node := do
  let body ← many do
    match (← peek).lexeme with
    | .endOfInput => return none
    | _ => return some (← statement r)
  return .module body.flatten

def parse (cs : List Char) : Except Rejection Node :=
  let ended := if cs.getLast? == some '\n' then cs else cs ++ ['\n']
  let feed := Feed.ofTokens (Lexer.tokens 1 ended)
  ((program (rules (2 * ended.length + 20))).run feed).map Prod.fst

end SourceAudit.Grammar
