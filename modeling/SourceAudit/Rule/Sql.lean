import SourceAudit.Rule.Basic

/-! Queries to databases that are put together from text. -/

namespace SourceAudit.Rule

def occurrences (word : Text) : Text → List Text
  | [] => []
  | p :: t =>
    let rest := occurrences word t
    if word.isPrefixOf (p :: t) then ((p :: t).drop word.length) :: rest else rest

def behindBlank? : Text → Option Text
  | b :: rest => if Folding.isBlank b then some rest else none
  | [] => none

def wordThenBlank? (word t : Text) : Option Text :=
  if word.isPrefixOf t then behindBlank? (t.drop word.length) else none

def mentions (word : String) : Text → Bool
  | [] => false
  | p :: t => (wordThenBlank? word (p :: t)).isSome || mentions word t

def behindWord (word : String) (t : Text) : List Text := (occurrences word t).filterMap behindBlank?

def wordPairs (first second : String) (t : Text) : List Text :=
  (occurrences first t).filterMap fun rest =>
    if (behindBlank? rest).isSome then wordThenBlank? second (rest.dropWhile Folding.isBlank) else none

/-- Whether the text looks like a query, letter case aside: a selection, deletion, insertion or update. -/
def looksLikeQuery (statement : Text) : Bool :=
  let t := Folding.foldText statement
  (behindWord "select" t).any (mentions "from") || !(wordPairs "delete" "from" t).isEmpty ||
    (wordPairs "insert" "into" t).any (mentions "values") || (behindWord "update" t).any (mentions "set")

/-- A text of a query: the whole text, what it is handed to, and whether it is put together by replacement. -/
structure Assembly where
  statement : Text := []
  wrapper : Option Node := none
  replaced : Bool := false

def chainWrapper? (ancestors : List Ancestor) : Option Node :=
  (ancestors.dropWhile fun a => match a.node with | .binOp .. => true | _ => false).head?.map
    Ancestor.node

/-- How a text takes part in an assembly: as operand, format, or first text of a formatted literal, for all of them. -/
def assemblyOf (node : Node) (t : Text) (ancestors : List Ancestor) : Assembly :=
  match ancestors with
  | ⟨.binOp .., _⟩ :: _ => { statement := node.outerChainText ancestors, wrapper := chainWrapper? ancestors }
  | ⟨.attr _ _ id _, _⟩ :: rest =>
    if id == "format" || id == "replace" then
      { statement := t, wrapper := (rest.drop 1).head?.map Ancestor.node, replaced := id == "replace" }
    else {}
  | ⟨.joinedStr _ values, slot⟩ :: rest =>
    if values.findIdx? Node.isText == some slot then
      { statement := values.flatMap fun v => v.textOf?.getD [], wrapper := rest.head?.map Ancestor.node }
    else {}
  | _ => {}

def hardcodedSql : Rule :=
  plain "B608" "hardcoded_sql_expressions" "Str" fun c => do
    let node ← c.theNode
    let a := assemblyOf node (node.textOf?.getD []) c.ancestors
    let executed := match a.wrapper with
      | some call => ["execute", "executemany"].contains call.calledName
      | none => false
    return reportIf (looksLikeQuery a.statement)
      (finding .medium (if executed && !a.replaced then .medium else .low) 89
        "Possible SQL injection vector through string-based query construction.")

/-- The last value given for each name; positional values come first in the given order of names. -/
def argumentFor (names : List String) (args keywords : List Node) (name : String) : Option Node :=
  match (names.zip args).lookup name with
  | some v => some v
  | none => keywordNamedLast
where
  keywordNamedLast : Option Node :=
    keywords.reverse.findSome? fun
      | .keyword _ arg value => if arg == some name then some value else none
      | _ => none

def isTextList : Node → Bool
  | .list _ elts _ => elts.all Node.isText
  | _ => false

def isTextDict : Node → Bool
  | .dict _ keys values => keys.all (fun k => k.any Node.isText) && values.all Node.isText
  | _ => false

def djangoExtra : Rule :=
  plain "B610" "django_extra_used" "Call" fun c => do
    if c.name == some "extra" then
      let (args, keywords) ← c.callParts
      let given := argumentFor ["select", "where", "params", "tables", "order_by", "select_params"] args
        keywords
      let insecure := (given "where").any (fun n => !isTextList n) ||
        (given "tables").any (fun n => !isTextList n) || (given "select").any (fun n => !isTextDict n)
      return reportIf insecure
        (finding .medium .medium 89 "Use of extra potential SQL attack vector.")
    else return none

def djangoRawSql : Rule :=
  plain "B611" "django_rawsql_used" "Call" fun c => do
    if c.importsLike "django.db.models" && c.name == some "RawSQL" then
      let (args, keywords) ← c.callParts
      match argumentFor ["sql"] args keywords "sql" with
      | some sql =>
        return reportIf (!sql.isText)
          (finding .medium .medium 89 "Use of RawSQL potential SQL attack vector.")
      | none => throw .missingKey
    else return none

end SourceAudit.Rule
