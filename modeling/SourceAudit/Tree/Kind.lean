import SourceAudit.Tree.Node

/-! The names of the kinds of nodes. -/

namespace SourceAudit.Kind

/-- Kinds of nodes, the families that they belong to, and kinds that are no longer made. -/
def names : List String := ["AST", "mod", "Module", "Interactive", "Expression", "FunctionType", "stmt", "FunctionDef",
  "AsyncFunctionDef", "ClassDef", "Return", "Delete", "Assign", "AugAssign", "AnnAssign", "For", "AsyncFor",
  "While", "If", "With", "AsyncWith", "Match", "Raise", "Try", "TryStar", "Assert", "Import", "ImportFrom",
  "Global", "Nonlocal", "Expr", "Pass", "Break", "Continue", "expr", "BoolOp", "NamedExpr", "BinOp",
  "UnaryOp", "Lambda", "IfExp", "Dict", "Set", "ListComp", "SetComp", "DictComp", "GeneratorExp", "Await",
  "Yield", "YieldFrom", "Compare", "Call", "FormattedValue", "JoinedStr", "Constant", "Attribute",
  "Subscript", "Starred", "Name", "List", "Tuple", "Slice", "expr_context", "Load", "Store", "Del", "boolop",
  "And", "Or", "operator", "Add", "Sub", "Mult", "MatMult", "Div", "Mod", "Pow", "LShift", "RShift", "BitOr",
  "BitXor", "BitAnd", "FloorDiv", "unaryop", "Invert", "Not", "UAdd", "USub", "cmpop", "Eq", "NotEq", "Lt",
  "LtE", "Gt", "GtE", "Is", "IsNot", "In", "NotIn", "comprehension", "excepthandler", "ExceptHandler",
  "arguments", "arg", "keyword", "alias", "withitem", "match_case", "pattern", "MatchValue",
  "MatchSingleton", "MatchSequence", "MatchMapping", "MatchClass", "MatchStar", "MatchAs", "MatchOr",
  "type_ignore", "TypeIgnore", "Num", "Str", "Bytes", "NameConstant", "Ellipsis", "slice", "Index",
  "ExtSlice", "Suite", "AugLoad", "AugStore", "Param"]

/-- Names that stand beside the kinds and mean no class at all: operations on trees and constants. -/
def operations : List String := [
  "parse", "literal_eval", "dump", "copy_location", "fix_missing_locations", "increment_lineno",
  "iter_fields", "iter_child_nodes", "get_docstring", "get_source_segment", "walk", "unparse", "main", "sys",
  "contextmanager", "PyCF_ALLOW_TOP_LEVEL_AWAIT", "PyCF_ONLY_AST", "PyCF_TYPE_COMMENTS",
  "_splitlines_no_ff", "_pad_whitespace", "_new", "_getter", "_setter", "_const_types", "_const_types_not",
  "_const_node_type_names", "_MULTI_QUOTES", "_ALL_QUOTES", "_SINGLE_QUOTES", "_INFSTR", "_dims_getter",
  "_dims_setter", "_simple_enum", "__name__", "__doc__", "__file__", "__spec__", "__loader__",
  "__package__", "__builtins__", "__cached__"]

inductive NameError where
  | notClass
  | unknown (name : String)
  deriving DecidableEq, Repr

def NameError.message : NameError → String
  | .notClass => "issubclass() arg 1 must be a class"
  | .unknown name => "Error: " ++ name ++ " is not a valid node type in AST"

def check (name : String) : Except NameError String :=
  if names.contains name then .ok name
  else if operations.contains name then .error .notClass
  else .error (.unknown name)

end SourceAudit.Kind
