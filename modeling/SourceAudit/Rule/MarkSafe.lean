import SourceAudit.Rule.Basic

/-! Text that is declared safe for a page. It is harmless when it is put together from literals only. -/

namespace SourceAudit

/-- What a statement gives to a name: nothing, one thing, or what its branches give. -/
inductive Assigned where
  | nothing
  | one (value : Node)
  | several (values : List Node)

def Assigned.toList : Assigned → List Node
  | nothing => []
  | one n => [n]
  | several ns => ns

namespace Node

def family : Node → String
  | module .. => "mod"
  | functionDef .. | classDef .. | returnStmt .. | delete .. | assign .. | augAssign .. | annAssign ..
  | forLoop .. | whileLoop .. | ifStmt .. | withStmt .. | matchStmt .. | raise .. | tryStmt ..
  | assertStmt .. | importStmt .. | importFrom .. | globalStmt .. | nonlocalStmt .. | exprStmt ..
  | pass .. | .break .. | .continue .. => "stmt"
  | exceptHandler .. => "excepthandler"
  | operator op => op.family
  | matchValue .. | matchSingleton .. | matchSequence .. | matchMapping .. | matchClass ..
  | matchStar .. | matchAs .. | matchOr .. => "pattern"
  | comprehension .. | arguments .. | arg .. | keyword .. | importedName .. | withItem .. | matchCase .. => "AST"
  | _ => "expr"

def isA (n : Node) (cls : String) : Bool := n.kind == cls || n.family == cls || cls == "AST"

def pairedItem (var : String) : List Node → List Node → Answer Assigned
  | [], _ => .ok .nothing
  | name _ id _ :: targets, values =>
    if id == var then
      match values with
      | v :: _ => .ok (.one v)
      | [] => .error .outOfRange
    else pairedItem var targets values.tail
  | _ :: _, _ => .error .missingAttribute

/-- What an assignment gives to a name; of several targets only the first counts. -/
def assignedTarget (var : String) (targets : List Node) (value : Node) : Answer Assigned :=
  match targets with
  | name _ id _ :: _ => .ok (if id == var then .one value else .nothing)
  | tuple _ elts _ :: _ =>
    match value with
    | tuple _ values _ => pairedItem var elts values
    | _ => .ok .nothing
  | _ => .ok .nothing

def bindsName (var : String) : Node → Bool
  | withItem _ (some (name _ id _)) => id == var
  | _ => false

mutual

/-- What a node gives to a name. Nodes of the classes to skip give nothing. -/
def assigned (skip : List String) (var : String) (n : Node) : Answer Assigned :=
  if skip.any n.isA then .ok .nothing
  else match n with
    | exprStmt _ value => value.assigned skip var
    | functionDef _ false _ _ body _ _ => .several <$> assignedIn skip var body
    | withStmt _ false items body =>
      match items.getLast? with
      | none => .ok .nothing
      | some last => do
        -- the statements inside are looked at for every item that does not bind the name
        let inside ← if items.all (bindsName var) then pure [] else assignedIn skip var body
        return if last.bindsName var then .one n else .several inside
    | tryStmt _ false body handlers orelse finalbody => do
      return .several ((← assignedIn skip var body) ++ (← assignedIn skip var handlers) ++
        (← assignedIn skip var orelse) ++ (← assignedIn skip var finalbody))
    | exceptHandler _ _ _ body => .several <$> assignedIn skip var body
    | ifStmt _ _ body orelse | forLoop _ false _ _ body orelse | whileLoop _ _ body orelse => do
      return .several ((← assignedIn skip var body) ++ (← assignedIn skip var orelse))
    | augAssign _ (name _ id _) _ value => .ok (if id == var then .one value else .nothing)
    | assign _ targets value => assignedTarget var targets value
    | _ => .ok .nothing

def assignedIn (skip : List String) (var : String) : List Node → Answer (List Node)
  | [] => .ok []
  | n :: ns => do return (← n.assigned skip var).toList ++ (← assignedIn skip var ns)

end

def parameterNames : Node → List String
  | functionDef _ false _ (arguments _ args ..) .. => args.filterMap fun | arg _ id _ => some id | _ => none
  | _ => []

def block : Node → List Node
  | module body => body
  | functionDef _ _ _ _ body _ _ => body
  | _ => []

end Node

namespace MarkSafe

/-- What a statement says about a name. -/
inductive Verdict where
  /-- Nothing: what was known before still holds. -/
  | unchanged
  | becomes (harmless : Bool)
  /-- The name is beyond help, whatever comes later. -/
  | lost

/-- What is known about a name after the statements that start above a line. -/
def settle (until_ : Int) (judge : Node → Answer Verdict) (known : Bool) : List Node → Answer Bool
  | [] => .ok known
  | n :: ns => do
    if until_ ≤ (n.line?.getD 0 : Nat) then return known
    else match ← judge n with
      | .unchanged => settle until_ judge known ns
      | .becomes harmless => settle until_ judge harmless ns
      | .lost => return false

def spread? : Node → Option (List Node)
  | .starred _ (.list _ elts _) _ => some elts
  | .starred _ (.tuple _ elts _) _ => some elts
  | _ => none

noncomputable def totalSize : List Node → Nat
  | [] => 0
  | n :: ns => sizeOf n + totalSize ns

theorem totalSize_append (as bs : List Node) : totalSize (as ++ bs) = totalSize as + totalSize bs := by
  induction as with
  | nil => exact (Nat.zero_add _).symm
  | cons a as ih => rw [List.cons_append, totalSize, totalSize, ih, Nat.add_assoc]

theorem totalSize_le (ns : List Node) : totalSize ns ≤ sizeOf ns := by
  induction ns with
  | nil => exact Nat.zero_le _
  | cons n ns ih =>
    rw [totalSize, List.cons.sizeOf_spec]
    omega

theorem totalSize_lt_of_spread? {n : Node} {elts : List Node} (found : spread? n = some elts) :
    totalSize elts < sizeOf n := by
  have bound := totalSize_le elts
  unfold spread? at found
  split at found <;> first | (cases found; simp <;> omega) | cases found

theorem totalSize_spread_lt {n : Node} {elts : List Node} (found : spread? n = some elts) (ns : List Node) :
    totalSize (ns ++ elts) < totalSize (n :: ns) := by
  have shrinks := totalSize_lt_of_spread? found
  rw [totalSize_append, totalSize]
  omega

theorem totalSize_tail_lt (n : Node) (ns : List Node) : totalSize ns < totalSize (n :: ns) := by
  have positive := Node.sizeOf_pos n
  rw [totalSize]
  omega

/-- Goes through the arguments up to one that is not harmless, and compares how many it has counted with how many
arguments there are. Items that are spread over the arguments come last. -/
def countHarmless (judge : Node → Answer Bool) (counted total : Nat) : List Node → Answer Bool
  | [] => .ok (counted == total)
  | n :: ns =>
    match _found : spread? n with
    | some elts => countHarmless judge (counted + 1) (total + elts.length) (ns ++ elts)
    | none => do if ← judge n then countHarmless judge (counted + 1) total ns else return counted == total
termination_by args => totalSize args
decreasing_by
  · exact totalSize_spread_lt _found ns
  · exact totalSize_tail_lt n ns

def filledIn? : Node → Option (List Node)
  | .call _ (.attr _ template "format" _) args [] => if template.isText then some args else none
  | _ => none

/-- How far one thing may refer to another. A thousand calls can be nested, and the walk to the rule needs some. -/
def depth : Nat := 800

/-- What a single thing says about the name it is given to, by other names and calls at their lines. -/
def verdictOnOne (nameAt : String → Int → Answer Bool) (callAt : Int → Option (List Node) → Answer Bool) :
    Node → Answer Verdict
  | .constant _ (.text _) => .ok (.becomes true)
  | .name span id _ => .becomes <$> nameAt id span.line
  | n@(.call span ..) => .becomes <$> callAt span.line (filledIn? n)
  | _ => .ok .lost

/-- What the things that a statement at a line gives to a name say about it. -/
def verdictOn (nameAt : String → Int → Answer Bool) (callAt : Int → Option (List Node) → Answer Bool)
    (line : Int) : Assigned → Answer Verdict
  | .nothing | .several [] => .ok .unchanged
  | .one n => verdictOnOne nameAt callAt n
  | .several ns => do
    let bad ← findAnswer (fun n =>
      match n with
      | .constant _ (.text _) => .ok false
      | .name _ id _ => not <$> nameAt id line
      | _ => .ok true) ns
    return if bad.isNone then .becomes true else .lost

def fillingHarmless (nameAt : String → Int → Answer Bool) (callAt : Int → Option (List Node) → Answer Bool)
    (line : Int) : Node → Answer Bool
  | .constant _ (.text _) => .ok true
  | .name _ id _ => nameAt id line
  | n@(.call span ..) => callAt span.line (filledIn? n)
  | _ => .ok false

mutual

def harmlessName (skip : List String) (scope : Node) : Nat → String → Int → Answer Bool
  | 0, _, _ => .error .endless
  | fuel + 1, var, until_ =>
    if scope.parameterNames.contains var then .ok false
    else settle until_ (fun statement => do
      verdictOn (harmlessName skip scope fuel) (harmlessCall skip scope fuel) (statement.line?.getD 0 : Nat)
        (← statement.assigned skip var)) false scope.block

def harmlessCall (skip : List String) (scope : Node) : Nat → Int → Option (List Node) → Answer Bool
  | 0, _, _ => .error .endless
  | _ + 1, _, none => .ok false
  | fuel + 1, line, some args =>
    countHarmless (fillingHarmless (harmlessName skip scope fuel) (harmlessCall skip scope fuel) line)
      0 args.length args

end

/-- Whether the first argument of a call is harmless, as far as can be told at a depth. -/
def traced (fuel : Nat) (scope call argument : Node) : Answer Bool :=
  match argument with
  | .name _ id _ => harmlessName [] scope fuel id (call.line?.getD 0 : Nat)
  | .call span .. => harmlessCall [] scope fuel span.line (filledIn? argument)
  | .binOp span left (.operator .mod) right =>
    if left.isText then
      harmlessCall [] scope fuel span.line (some (match right with | .tuple _ elts _ => elts | n => [n]))
    else .ok false
  | _ => .ok false

end MarkSafe

namespace Rule

def markSafeFunctions : List String := ["mark_safe", "SafeText", "SafeUnicode", "SafeString", "SafeBytes"]

def opensScope : Node → Bool
  | .module _ | .functionDef _ false .. => true
  | _ => false

def djangoMarkSafe : Rule :=
  .plain "B703" "django_mark_safe" "Call" fun c => do
    if !(c.importsLike "django.utils.safestring" && c.name.any markSafeFunctions.contains) then
      return none
    let call ← c.theNode
    match ← c.callParts with
    | ([], _) => throw .outOfRange
    | (argument :: _, _) =>
      if argument.isText then return none
      let scope := ((c.ancestors.find? fun a => opensScope a.node).map Ancestor.node).getD (.module [])
      let safe ← MarkSafe.traced MarkSafe.depth scope call argument
      return reportIf (!safe) (finding .medium .high 80 "Potential XSS on mark_safe function.")

end Rule

end SourceAudit
