import SourceAudit.Issue.Basic
import SourceAudit.Text.CharacterName
import SourceAudit.Tree.Node

/-! Rules: tests that look at one place of a program and may report an issue. What is known about the place may have gaps. -/

namespace SourceAudit

/-- A node around another one, and by which of its children the way to the other one leads. -/
structure Ancestor where
  node : Node
  slot : Nat

structure Visit where
  node : Node
  next : Option Node
  ancestors : List Ancestor
  depth : Nat
  /-- The dotted name of the module, the classes and the functions around it; its own name counts. -/
  scope : String

namespace Scope

def join (outer name : String) : String := outer ++ "." ++ name

def split (scope : String) : List String :=
  match Segments.cutLast '.' scope.toList with
  | some (outer, name) => [String.ofList outer, String.ofList name]
  | none => [scope]

def outer (scope : String) : String := (split scope).headD scope

end Scope

namespace Node

def scopeName? : Node → Option String
  | functionDef _ false id .. => some id
  | classDef _ id .. => some id
  | _ => none

def scopeIn (outer : String) (n : Node) : String := (n.scopeName?.map (Scope.join outer)).getD outer

def visitsBelow (ancestors : List Ancestor) (depth : Nat) (scope : String) (n : Node) : List Visit :=
  n.children.attach.zipIdx.flatMap fun (⟨(c, next), _⟩, slot) =>
    let inner := c.scopeIn scope
    let around := ⟨n, slot⟩ :: ancestors
    ⟨c, next, around, depth, inner⟩ :: c.visitsBelow around (depth + 1) inner
termination_by sizeOf n
decreasing_by rename_i present; exact sizeOf_lt_of_mem_children present

end Node

/-- Local names and what they stand for, in the order in which they were first bound. -/
abbrev Aliases := List (String × String)

namespace Aliases

def bind (as : Aliases) (name target : String) : Aliases := Entries.put name (fun _ => target) target as

def resolve (as : Aliases) (name : String) : String := (as.lookup name).getD name

end Aliases

namespace Node

/-- The dotted name of a name or a chain of attributes, each step looked up among the aliases; else empty. -/
def dottedName (aliases : Aliases) : Node → String
  | name _ id _ => aliases.resolve id
  | attr _ value id _ => aliases.resolve (value.dottedName aliases ++ "." ++ id)
  | _ => ""

def callName (aliases : Aliases) : Node → String
  | call _ func _ _ => func.dottedName aliases
  | _ => ""

/-- The name of an attribute with the name in front of it; the latter is left out when it is no plain
name. -/
def attrName (aliases : Aliases) : Node → String
  | attr _ (name _ id _) own _ => aliases.resolve id ++ "." ++ own
  | attr _ _ own _ => "." ++ own
  | _ => ""

def calledName : Node → String
  | call _ (attr _ _ id _) _ _ => id
  | call _ (name _ id _) _ _ => id
  | _ => ""

def defaultNames (aliases : Aliases) : Node → List String
  | functionDef _ _ _ (arguments _ _ _ _ _ _ defaults) _ _ _ => defaults.map (attrName aliases)
  | lambda _ (arguments _ _ _ _ _ _ defaults) _ => defaults.map (attrName aliases)
  | _ => []

def operands : Node → List Node
  | binOp _ left _ right => left.operands ++ right.operands
  | n => [n]

def joinedText (ns : List Node) : Text :=
  Segments.join [32] (ns.filterMap fun | constant _ (.text t) => some t | _ => none)

/-- The outermost of the binary operators that directly enclose the node, or the node itself. -/
def chainRoot (n : Node) : List Ancestor → Node
  | ⟨binOp s left op right, _⟩ :: rest => (binOp s left op right).chainRoot rest
  | _ => n

/-- The operands of the binary operators that directly enclose some operands. -/
def chainAround (inner : List Node) : List Ancestor → List Node
  | ⟨binOp _ left _ right, slot⟩ :: rest =>
    chainAround (if slot == 0 then inner ++ right.operands else left.operands ++ inner) rest
  | _ => inner

def chainText (n : Node) (ancestors : List Ancestor) : Text :=
  match n.chainRoot ancestors with
  | binOp s left op right => joinedText (n :: (binOp s left op right).operands)
  | _ => joinedText [n]

def outerChainText (n : Node) (ancestors : List Ancestor) : Text :=
  match ancestors with
  | ⟨binOp .., _⟩ :: rest => joinedText (n :: chainAround [] rest)
  | _ => joinedText [n]

end Node

inductive FileName where
  | text (s : String)
  | raw (b : Bytes)
  deriving DecidableEq, Repr

structure Context where
  node : Option Node := none
  ancestors : List Ancestor := []
  call : Option Node := none
  qualname : Option String := none
  name : Option String := none
  module : Option String := none
  imports : Option (List String) := none
  aliases : Option Aliases := none
  text : Option Text := none
  bytes : Option Bytes := none
  filename : Option FileName := none
  /-- The bytes of the file, where it can be opened again by its name. -/
  contents : Option Bytes := none
  /-- The bytes of a file from standard input. -/
  input : Option Bytes := none
  line : Option Int := none
  lineRange : Option (List Int) := none
  column : Option Int := none
  endColumn : Option Int := none
  visit : Option Nat := none

namespace Node

mutual

/-- The value that an argument spells; names stand for themselves, and what has no value gives null. -/
def literal : Node → Answer Value
  | constant _ c =>
    .ok <| match c with
      | .none => .str "None"
      | .ellipsis => .null
      | .bool b => .str (if b then "True" else "False")
      | .int n => .int n
      | .float x => .float x
      | .imaginary x => .imaginary x
      | .text t => .text t
      | .bytes b => .bytes b
  | list _ elts _ => .list <$> literals elts
  | tuple _ elts _ => .tuple <$> literals elts
  | set _ elts => do
    let items ← literals elts
    if items.all Value.hashable then return Value.setOf items else throw .wrongKind
  | dict _ keys values =>
    .ok <| Value.dictOf ((keys.zip values).map fun (k, v) =>
      (match k with | some k => .fragment k.kind | none => .null, .fragment v.kind))
  | name _ id _ => .ok (.str id)
  | _ => .ok .null

def literals : List Node → Answer (List Value)
  | [] => .ok []
  | n :: ns => do return (← n.literal) :: (← literals ns)

end

def argumentValue : Node → Answer Value
  | attr _ _ id _ => .ok (.str id)
  | n => n.literal

def isText : Node → Bool
  | constant _ (.text _) => true
  | _ => false

def textOf? : Node → Option Text
  | constant _ (.text t) => some t
  | _ => none

def id? : Node → Option String
  | name _ id _ => some id
  | _ => none

end Node

namespace Context

def args? (c : Context) : Option (List Node) :=
  match c.call with
  | some (.call _ _ args _) => some args
  | _ => none

def callArgs (c : Context) : Answer (List Value) :=
  match c.args? with
  | some args => args.mapM Node.argumentValue
  | none => .ok []

def callArgsCount (c : Context) : Option Nat := c.args?.map List.length

/-- The keyword arguments of the call, the last of equal names winning; unpacked mappings come under
null. -/
def callKeywords (c : Context) : Answer (Option Fields) :=
  match c.call with
  | some (.call _ _ _ keywords) => do
    let pairs ← keywords.mapM fun
      | .keyword _ arg value => do
        return ((arg.map Value.str).getD .null, ← value.argumentValue)
      | n => do return (.null, ← n.argumentValue)
    return some (pairs.foldl (fun acc (k, v) => Value.put k v acc) [])
  | _ => .ok none

def keywordsOr (c : Context) (fault : Fault) : Answer Fields := do
  match ← c.callKeywords with
  | some ks => return ks
  | none => throw fault

def argValue (c : Context) (name : String) : Answer Value := do
  match ← c.callKeywords with
  | some ks => return (Value.lookup (.str name) ks).getD .null
  | none => return .null

/-- Whether the keyword argument has one of the values; none when it is missing or has no value. -/
def checkArgValue (c : Context) (name : String) (values : Value) : Answer (Option Bool) := do
  match ← c.argValue name with
  | .null => return none
  | v =>
    match values with
    | .list vs => return some (vs.any v.equals)
    | one => return some (v.equals one)

def argIs (c : Context) (name : String) (value : Value) : Answer Bool := do
  return (← c.checkArgValue name value).getD false

def argLine (c : Context) (name : String) : Option Int :=
  let keywords := match c.node with
    | some (.call _ _ _ ks) => ks
    | some (.classDef _ _ _ ks _ _) => ks
    | _ => []
  (keywords.findSome? fun
    | .keyword _ arg value => if arg == some name then some value.line? else none
    | _ => none).join.map fun (l : Nat) => (l : Int)

def argAt (c : Context) (position : Int) : Answer Value :=
  match c.args? with
  | some args =>
    if args.isEmpty || position ≥ args.length then .ok .null
    else
      let i := if position < 0 then position + args.length else position
      if i < 0 then .error .outOfRange
      else match args[i.toNat]? with
        | some n => n.argumentValue
        | none => .ok .null
  | none => .ok .null

def importsExactly (c : Context) (module : String) : Bool := (c.imports.getD []).contains module

def importsLike (c : Context) (module : String) : Bool :=
  (c.imports.getD []).any fun i => Segments.occurs module.toList i.toList

def escapeBytes (b : Bytes) : Answer Text :=
  match Escape.decode? CharacterName.find? (Bytes.toText b) with
  | some t => .ok (Escape.encode t)
  | none => .error .undecodable

def escaped (c : Context) : Answer (Option Text) :=
  match c.text, c.bytes with
  | some t, _ => .ok (some (Escape.encode t))
  | none, some b => some <$> escapeBytes b
  | none, none => .ok none

def defaultNames (c : Context) : Answer (List String) :=
  let defaults := match c.node with
    | some (.functionDef _ _ _ (.arguments _ _ _ _ _ _ ds) ..) => ds
    | some (.lambda _ (.arguments _ _ _ _ _ _ ds) _) => ds
    | _ => []
  match c.aliases with
  | some as => .ok (defaults.map (Node.attrName as))
  | none => if defaults.isEmpty then .ok [] else .error .missingKey

/-! ### Parts that a rule cannot do without -/

def theNode (c : Context) : Answer Node := c.node.elim (.error .missingAttribute) .ok

def theQualname (c : Context) : Answer String := c.qualname.elim (.error .missingAttribute) .ok

def qualnameParts (c : Context) : Answer (List String) := splitString '.' <$> c.theQualname

def callParts (c : Context) : Answer (List Node × List Node) :=
  match c.node with
  | some (.call _ _ args keywords) => .ok (args, keywords)
  | _ => .error .missingAttribute

def qualnameValue (c : Context) : Value := (c.qualname.map Value.str).getD .null

/-! ### Display -/

def FileName.toValue : FileName → Value
  | .text s => .str s
  | .raw b => .bytes b

def entries (c : Context) : Fields :=
  let part (label : String) (v : Option Value) : Fields :=
    match v with
    | some v => [(.str label, v)]
    | none => []
  part "node" (c.node.map fun n => .fragment n.kind) ++ part "call" (c.call.map fun n => .fragment n.kind) ++
    part "qualname" (c.qualname.map .str) ++
    part "import_aliases" (c.aliases.map fun as => .dict (as.map fun (a, b) => (.str a, .str b))) ++
    part "imports" (c.imports.map fun is => .set (is.map .str)) ++
    part "module" (c.module.map .str) ++
    part "name" (c.name.map .str) ++
    part "str" (c.text.map .text) ++
    part "filename" (c.filename.map FileName.toValue) ++
    part "bytes" (c.bytes.map .bytes)

def render (c : Context) : Text := "<Context " ++ (Value.dict c.entries).render ++ ">"

end Context

structure Rule where
  id : String
  name : String
  testName : String
  /-- The kinds of places that the rule looks at. -/
  checks : List String
  /-- The block of settings that the rule reads, and what holds when it is not given. -/
  settings : Option (String × Value) := none
  run : Context → Value → Answer (Option Issue)

namespace Rule

def plain (id name check : String) (run : Context → Answer (Option Issue)) : Rule :=
  { id, name, testName := name, checks := [check], run := fun c _ => run c }

def configured (id name check block : String) (defaults : Value)
    (run : Context → Value → Answer (Option Issue)) : Rule :=
  { id, name, testName := name, checks := [check], settings := some (block, defaults), run }

end Rule

def finding (severity confidence : Rank) (weakness : Int) (text : Text) (line : Option Int := none) : Issue :=
  { severity := severity.name, confidence := confidence.name, weakness := ⟨weakness⟩, text, line }

def reportIf (condition : Bool) (issue : Issue) : Option Issue := if condition then some issue else none

def namesValue (names : List String) : Value := .list (names.map Value.str)

end SourceAudit
