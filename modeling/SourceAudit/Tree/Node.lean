import SourceAudit.Text.Basic
import SourceAudit.Number.Binary64

/-! The tree of a scanned program, with the fields of each node in the order in which a walk meets them. -/

namespace SourceAudit

/-- Where a node stands. Lines count from one; columns count the bytes of the UTF-8 form from zero. -/
structure Span where
  line : Nat
  column : Nat
  endLine : Nat
  endColumn : Nat
  deriving DecidableEq, Repr, Inhabited

inductive Constant where
  | none
  | ellipsis
  | bool (value : Bool)
  | int (value : Nat)
  | float (value : Binary64)
  | imaginary (value : Binary64)
  | text (value : Text)
  | bytes (value : Bytes)
  deriving DecidableEq, Repr, Inhabited

/-- Operators and the ways in which an expression is used are nodes of their own, without a place in the source. -/
inductive Operator where
  | and | or
  | add | sub | mult | matMult | div | mod | pow | lShift | rShift | bitOr | bitXor | bitAnd | floorDiv
  | invert | not | uAdd | uSub
  | eq | notEq | lt | ltE | gt | gtE | is | isNot | in | notIn
  | load | store | del
  deriving DecidableEq, Repr, Inhabited

inductive Node where
  | module (body : List Node)
  -- statements
  | functionDef (span : Span) (async : Bool) (name : String) (args : Node) (body : List Node)
      (decorators : List Node) (returns : Option Node)
  | classDef (span : Span) (name : String) (bases keywords body decorators : List Node)
  | returnStmt (span : Span) (value : Option Node)
  | delete (span : Span) (targets : List Node)
  | assign (span : Span) (targets : List Node) (value : Node)
  | augAssign (span : Span) (target op value : Node)
  | annAssign (span : Span) (target hint : Node) (value : Option Node)
  | forLoop (span : Span) (async : Bool) (target iter : Node) (body orelse : List Node)
  | whileLoop (span : Span) (test : Node) (body orelse : List Node)
  | ifStmt (span : Span) (test : Node) (body orelse : List Node)
  | withStmt (span : Span) (async : Bool) (items body : List Node)
  | matchStmt (span : Span) (subject : Node) (cases : List Node)
  | raise (span : Span) (exc cause : Option Node)
  | tryStmt (span : Span) (star : Bool) (body handlers orelse finalbody : List Node)
  | assertStmt (span : Span) (test : Node) (msg : Option Node)
  | importStmt (span : Span) (names : List Node)
  | importFrom (span : Span) (module : Option String) (names : List Node) (level : Nat)
  | globalStmt (span : Span) (names : List String)
  | nonlocalStmt (span : Span) (names : List String)
  | exprStmt (span : Span) (value : Node)
  | pass (span : Span)
  | break (span : Span)
  | continue (span : Span)
  -- expressions
  | boolOp (span : Span) (op : Node) (values : List Node)
  | namedExpr (span : Span) (target value : Node)
  | binOp (span : Span) (left op right : Node)
  | unaryOp (span : Span) (op operand : Node)
  | lambda (span : Span) (args body : Node)
  | ifExp (span : Span) (test body orelse : Node)
  | dict (span : Span) (keys : List (Option Node)) (values : List Node)
  | set (span : Span) (elts : List Node)
  | listComp (span : Span) (elt : Node) (generators : List Node)
  | setComp (span : Span) (elt : Node) (generators : List Node)
  | dictComp (span : Span) (key value : Node) (generators : List Node)
  | generatorExp (span : Span) (elt : Node) (generators : List Node)
  | await (span : Span) (value : Node)
  | yield (span : Span) (value : Option Node)
  | yieldFrom (span : Span) (value : Node)
  | compare (span : Span) (left : Node) (ops comparators : List Node)
  | call (span : Span) (func : Node) (args keywords : List Node)
  | formattedValue (span : Span) (value : Node) (formatSpec : Option Node)
  | joinedStr (span : Span) (values : List Node)
  | constant (span : Span) (value : Constant)
  | attr (span : Span) (value : Node) (name : String) (ctx : Operator)
  | subscript (span : Span) (value index : Node) (ctx : Operator)
  | starred (span : Span) (value : Node) (ctx : Operator)
  | name (span : Span) (id : String) (ctx : Operator)
  | list (span : Span) (elts : List Node) (ctx : Operator)
  | tuple (span : Span) (elts : List Node) (ctx : Operator)
  | slice (span : Span) (lower upper step : Option Node)
  -- parts of statements and expressions
  | comprehension (target iter : Node) (ifs : List Node)
  | exceptHandler (span : Span) (type : Option Node) (name : Option String) (body : List Node)
  | arguments (posOnly args : List Node) (vararg : Option Node) (kwOnly : List Node)
      (kwDefaults : List (Option Node)) (kwarg : Option Node) (defaults : List Node)
  | arg (span : Span) (name : String) (hint : Option Node)
  | keyword (span : Span) (arg : Option String) (value : Node)
  | importedName (span : Span) (name : String) (asName : Option String)
  | withItem (context : Node) (vars : Option Node)
  | matchCase (pattern : Node) (guard : Option Node) (body : List Node)
  | matchValue (span : Span) (value : Node)
  | matchSingleton (span : Span) (value : Constant)
  | matchSequence (span : Span) (patterns : List Node)
  | matchMapping (span : Span) (keys patterns : List Node) (rest : Option String)
  | matchClass (span : Span) (cls : Node) (patterns : List Node) (attrs : List String)
      (attrPatterns : List Node)
  | matchStar (span : Span) (name : Option String)
  | matchAs (span : Span) (pattern : Option Node) (name : Option String)
  | matchOr (span : Span) (patterns : List Node)
  | operator (op : Operator)
  deriving Inhabited

namespace Operator

def kind : Operator → String
  | .and => "And" | .or => "Or"
  | .add => "Add" | .sub => "Sub" | .mult => "Mult" | .matMult => "MatMult" | .div => "Div"
  | .mod => "Mod" | .pow => "Pow" | .lShift => "LShift" | .rShift => "RShift" | .bitOr => "BitOr"
  | .bitXor => "BitXor" | .bitAnd => "BitAnd" | .floorDiv => "FloorDiv"
  | .invert => "Invert" | .not => "Not" | .uAdd => "UAdd" | .uSub => "USub"
  | .eq => "Eq" | .notEq => "NotEq" | .lt => "Lt" | .ltE => "LtE" | .gt => "Gt" | .gtE => "GtE"
  | .is => "Is" | .isNot => "IsNot" | .in => "In" | .notIn => "NotIn"
  | .load => "Load" | .store => "Store" | .del => "Del"

def family : Operator → String
  | .and | .or => "boolop"
  | .invert | .not | .uAdd | .uSub => "unaryop"
  | .eq | .notEq | .lt | .ltE | .gt | .gtE | .is | .isNot | .in | .notIn => "cmpop"
  | .load | .store | .del => "expr_context"
  | _ => "operator"

end Operator

namespace Node

/-- The name of the node's class, which is also the name of the check that runs on it. -/
def kind : Node → String
  | module .. => "Module"
  | functionDef _ async .. => if async then "AsyncFunctionDef" else "FunctionDef"
  | classDef .. => "ClassDef" | returnStmt .. => "Return" | delete .. => "Delete" | assign .. => "Assign"
  | augAssign .. => "AugAssign" | annAssign .. => "AnnAssign"
  | forLoop _ async .. => if async then "AsyncFor" else "For"
  | whileLoop .. => "While" | ifStmt .. => "If"
  | withStmt _ async .. => if async then "AsyncWith" else "With"
  | matchStmt .. => "Match" | raise .. => "Raise"
  | tryStmt _ star .. => if star then "TryStar" else "Try"
  | assertStmt .. => "Assert" | importStmt .. => "Import" | importFrom .. => "ImportFrom" | globalStmt .. => "Global"
  | nonlocalStmt .. => "Nonlocal" | exprStmt .. => "Expr" | pass .. => "Pass" | .break .. => "Break"
  | .continue .. => "Continue" | boolOp .. => "BoolOp" | namedExpr .. => "NamedExpr" | binOp .. => "BinOp"
  | unaryOp .. => "UnaryOp" | lambda .. => "Lambda" | ifExp .. => "IfExp" | dict .. => "Dict" | set .. => "Set"
  | listComp .. => "ListComp" | setComp .. => "SetComp" | dictComp .. => "DictComp"
  | generatorExp .. => "GeneratorExp" | await .. => "Await" | yield .. => "Yield" | yieldFrom .. => "YieldFrom"
  | compare .. => "Compare" | call .. => "Call" | formattedValue .. => "FormattedValue" | joinedStr .. => "JoinedStr"
  | constant .. => "Constant" | attr .. => "Attribute" | subscript .. => "Subscript" | starred .. => "Starred"
  | name .. => "Name" | list .. => "List" | tuple .. => "Tuple" | slice .. => "Slice"
  | comprehension .. => "comprehension" | exceptHandler .. => "ExceptHandler" | arguments .. => "arguments"
  | arg .. => "arg" | keyword .. => "keyword" | importedName .. => "alias" | withItem .. => "withitem"
  | matchCase .. => "match_case" | matchValue .. => "MatchValue" | matchSingleton .. => "MatchSingleton"
  | matchSequence .. => "MatchSequence" | matchMapping .. => "MatchMapping" | matchClass .. => "MatchClass"
  | matchStar .. => "MatchStar" | matchAs .. => "MatchAs" | matchOr .. => "MatchOr"
  | operator op => op.kind

/-- Where the node stands; the module, parameter lists, operators and a few other parts stand nowhere. -/
def span? : Node → Option Span
  | module .. | comprehension .. | arguments .. | withItem .. | matchCase .. | operator .. => none
  | functionDef s .. | classDef s .. | returnStmt s .. | delete s .. | assign s .. | augAssign s ..
  | annAssign s .. | forLoop s .. | whileLoop s .. | ifStmt s .. | withStmt s .. | matchStmt s ..
  | raise s .. | tryStmt s .. | assertStmt s .. | importStmt s .. | importFrom s .. | globalStmt s ..
  | nonlocalStmt s .. | exprStmt s .. | pass s .. | .break s .. | .continue s .. | boolOp s ..
  | namedExpr s .. | binOp s .. | unaryOp s .. | lambda s .. | ifExp s .. | dict s .. | set s ..
  | listComp s .. | setComp s .. | dictComp s .. | generatorExp s .. | await s .. | yield s ..
  | yieldFrom s .. | compare s .. | call s .. | formattedValue s .. | joinedStr s .. | constant s ..
  | attr s .. | subscript s .. | starred s .. | name s .. | list s .. | tuple s .. | slice s ..
  | exceptHandler s .. | arg s .. | keyword s .. | importedName s .. | matchValue s .. | matchSingleton s ..
  | matchSequence s .. | matchMapping s .. | matchClass s .. | matchStar s .. | matchAs s ..
  | matchOr s .. => some s

def line? (n : Node) : Option Nat := n.span?.map Span.line

/-- The children by field, a single child in a group of one; items of a list may be absent. -/
def groups : Node → List (List (Option Node))
  | module items | delete _ items | importStmt _ items | importFrom _ _ items _ | set _ items | joinedStr _ items
  | matchSequence _ items | matchOr _ items => [items.map some]
  | exprStmt _ value | await _ value | yieldFrom _ value | keyword _ _ value | matchValue _ value => [[some value]]
  | list _ items ctx | tuple _ items ctx => [items.map some, [some (operator ctx)]]
  | attr _ value _ ctx | starred _ value ctx => [[some value], [some (operator ctx)]]
  | subscript _ value index ctx => [[some value], [some index], [some (operator ctx)]]
  | name _ _ ctx => [[some (operator ctx)]]
  | returnStmt _ value | yield _ value | arg _ _ value | matchAs _ value _ => [[value]]
  | globalStmt .. | nonlocalStmt .. | pass .. | .break .. | .continue .. | constant .. | importedName ..
  | matchSingleton .. | matchStar .. | operator _ => []
  | functionDef _ _ _ args body decorators returns => [[some args], body.map some, decorators.map some, [returns]]
  | classDef _ _ bases keywords body decorators =>
    [bases.map some, keywords.map some, body.map some, decorators.map some]
  | assign _ targets value => [targets.map some, [some value]]
  | annAssign _ target hint value => [[some target], [some hint], [value]]
  | forLoop _ _ target iter body orelse => [[some target], [some iter], body.map some, orelse.map some]
  | whileLoop _ test body orelse | ifStmt _ test body orelse => [[some test], body.map some, orelse.map some]
  | withStmt _ _ items body => [items.map some, body.map some]
  | matchStmt _ subject cases => [[some subject], cases.map some]
  | raise _ exc cause => [[exc], [cause]]
  | tryStmt _ _ body handlers orelse finalbody =>
    [body.map some, handlers.map some, orelse.map some, finalbody.map some]
  | assertStmt _ test msg => [[some test], [msg]]
  | boolOp _ op values => [[some op], values.map some]
  | unaryOp _ first second | lambda _ first second | namedExpr _ first second => [[some first], [some second]]
  | augAssign _ first second third | binOp _ first second third | ifExp _ first second third =>
    [[some first], [some second], [some third]]
  | dict _ keys values => [keys, values.map some]
  | listComp _ elt generators | setComp _ elt generators | generatorExp _ elt generators =>
    [[some elt], generators.map some]
  | dictComp _ key value generators => [[some key], [some value], generators.map some]
  | compare _ left ops comparators => [[some left], ops.map some, comparators.map some]
  | call _ func args keywords => [[some func], args.map some, keywords.map some]
  | formattedValue _ value formatSpec => [[some value], [formatSpec]]
  | slice _ lower upper step => [[lower], [upper], [step]]
  | comprehension target iter ifs => [[some target], [some iter], ifs.map some]
  | exceptHandler _ type _ body => [[type], body.map some]
  | arguments posOnly args vararg kwOnly kwDefaults kwarg defaults =>
    [posOnly.map some, args.map some, [vararg], kwOnly.map some, kwDefaults, [kwarg], defaults.map some]
  | withItem context vars => [[some context], [vars]]
  | matchCase pattern guard body => [[some pattern], [guard], body.map some]
  | matchMapping _ keys patterns _ => [keys.map some, patterns.map some]
  | matchClass _ cls patterns _ attrPatterns => [[some cls], patterns.map some, attrPatterns.map some]

def withNext : List (Option Node) → List (Node × Option Node)
  | [] => []
  | none :: rest => withNext rest
  | some n :: rest => (n, rest.head?.join) :: withNext rest

def children (n : Node) : List (Node × Option Node) := n.groups.flatMap withNext

theorem mem_of_mem_withNext {group : List (Option Node)} {c : Node} {next : Option Node}
    (present : (c, next) ∈ withNext group) : some c ∈ group := by
  fun_induction withNext group with
  | case1 => simp at present
  | case2 rest ih => exact List.mem_cons_of_mem _ (ih present)
  | case3 n rest ih =>
    rcases List.mem_cons.mp present with same | later
    · cases same; exact List.mem_cons_self
    · exact List.mem_cons_of_mem _ (ih later)

theorem sizeOf_some_lt {group : List (Option Node)} {c : Node} (present : some c ∈ group) :
    sizeOf c < sizeOf group := by
  have := List.sizeOf_lt_of_mem present
  simp only [Option.some.sizeOf_spec] at this
  omega

theorem sizeOf_mem_map_some {items : List Node} {c : Node} (present : some c ∈ items.map some) :
    sizeOf c < sizeOf items := by
  simp only [List.mem_map, Option.some.injEq, exists_eq_right] at present
  exact List.sizeOf_lt_of_mem present

theorem sizeOf_pos (n : Node) : 0 < sizeOf n := by cases n <;> simp +arith

theorem sizeOf_span_pos (s : Span) : 0 < sizeOf s := by cases s; simp +arith

theorem sizeOf_lt_of_mem_groups {n c : Node} {group : List (Option Node)}
    (hg : group ∈ n.groups) (hc : some c ∈ group) : sizeOf c < sizeOf n := by
  cases n <;> simp only [groups, List.mem_cons, List.not_mem_nil, or_false] at hg <;>
    (repeat' (obtain hg | hg := hg)) <;>
    first
    | (simp only [List.mem_singleton, Option.some.injEq] at hc; subst hc; simp +arith; done)
    | (simp only [List.mem_singleton, Option.some.injEq] at hc; subst hc
       rename Span => s
       have := sizeOf_span_pos s
       simp
       omega)
    | (have bound := sizeOf_mem_map_some hc; simp; omega)
    | (have bound := sizeOf_some_lt hc; simp; omega)

theorem sizeOf_lt_of_mem_children {n c : Node} {next : Option Node}
    (present : (c, next) ∈ n.children) : sizeOf c < sizeOf n := by
  obtain ⟨group, hg, hm⟩ := List.mem_flatMap.mp present
  exact sizeOf_lt_of_mem_groups hg (mem_of_mem_withNext hm)

end Node

end SourceAudit
