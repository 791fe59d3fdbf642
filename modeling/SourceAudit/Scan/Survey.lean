import SourceAudit.Rule.Basic
import SourceAudit.Tree.Lines

/-! The places of a program at which rules look, in the order of the walk, each with what is known there. -/

namespace SourceAudit

structure Bindings where
  imports : List String := []
  aliases : Aliases := []

namespace Bindings

def addImport (name : String) (b : Bindings) : Bindings :=
  if b.imports.contains name then b else { b with imports := b.imports ++ [name] }

def importModule (b : Bindings) : Node → Bindings
  | .importedName _ name asName =>
    let b := b.addImport name
    match asName with
    | some short => { b with aliases := b.aliases.bind short name }
    | none => b
  | _ => b

def importMember (module : String) (b : Bindings) : Node → Bindings
  | .importedName _ name asName =>
    let full := module ++ "." ++ name
    let b := b.addImport full
    { b with aliases := b.aliases.bind (asName.getD name) full }
  | _ => b

def after (b : Bindings) : Node → Bindings
  | .importStmt _ names => names.foldl importModule b
  | .importFrom _ none names _ => names.foldl importModule b
  | .importFrom _ (some module) names _ => names.foldl (importMember module) b
  | _ => b

end Bindings

structure Stop where
  visit : Visit
  bindings : Bindings

def Stop.walk (b : Bindings) : List Visit → List Stop × Bindings
  | [] => ([], b)
  | v :: vs =>
    let b := b.after v.node
    let (stops, last) := walk b vs
    (⟨v, b⟩ :: stops, last)

structure Walker where
  /-- How many nodes below the root are open. -/
  depth : Nat := 0
  scope : String
  bindings : Bindings := {}

namespace Walker

def enter (n : Node) (w : Walker) : Walker :=
  { depth := w.depth + 1, scope := n.scopeIn w.scope, bindings := w.bindings.after n }

/-- Closes a node. The scope loses its last name if the node has brought one. -/
def leave (n : Node) (w : Walker) : Walker :=
  { w with
    depth := w.depth - 1
    scope := if n.scopeName?.isSome then Scope.outer w.scope else w.scope }

def along {α : Type} (visit : α → Walker → List Stop × Walker) : List α → Walker → List Stop × Walker
  | [], w => ([], w)
  | a :: rest, w =>
    let (here, w) := visit a w
    let (later, w) := along visit rest w
    (here ++ later, w)

def below (ancestors : List Ancestor) (n : Node) (w : Walker) : List Stop × Walker :=
  along (fun (⟨(c, next), _⟩, slot) w =>
    let around := ⟨n, slot⟩ :: ancestors
    let inside := w.enter c
    let (inner, last) := below around c inside
    (⟨⟨c, next, around, w.depth, inside.scope⟩, inside.bindings⟩ :: inner, last.leave c))
    n.children.attach.zipIdx w
termination_by sizeOf n
decreasing_by rename_i present; exact Node.sizeOf_lt_of_mem_children present

end Walker

namespace Stop

def lastName? (names : List Node) : Option String := names.getLast?.bind fun | .importedName _ n _ => some n | _ => none

def lastPart (dotted : String) : String := ((splitString '.' dotted).getLast?).getD ""

def context (s : Stop) : Context :=
  let n := s.visit.node
  let base : Context :=
    { node := some n
      ancestors := s.visit.ancestors
      imports := some s.bindings.imports
      aliases := some s.bindings.aliases
      line := n.span?.map fun p => (p.line : Int)
      column := n.span?.map fun p => (p.column : Int)
      endColumn := n.span?.map fun p => (p.endColumn : Int)
      lineRange := some ((n.lines s.visit.next).map Int.ofNat) }
  match n with
  | .functionDef _ false name .. => { base with qualname := some s.visit.scope, name := some name }
  | .call .. =>
    let qualname := n.callName s.bindings.aliases
    { base with call := some n, qualname := some qualname, name := some (lastPart qualname) }
  | .importStmt _ names => { base with module := lastName? names }
  | .importFrom _ none names _ => { base with module := lastName? names }
  | .importFrom _ (some module) names _ => { base with module := some module, name := lastName? names }
  | .constant _ (.text t) => { base with text := some t }
  | .constant _ (.bytes b) => { base with bytes := some b }
  | _ => base

def parent? (s : Stop) : Option Node := s.visit.ancestors.head?.map Ancestor.node

/-- The kind of check at a stop. Classes, literals that stand alone, and most constants have none. -/
def check? (s : Stop) : Option String :=
  match s.visit.node with
  | .classDef .. => none
  | .importFrom _ none _ _ => some "Import"
  | .constant _ c =>
    match s.parent? with
    | some (.exprStmt ..) => none
    | _ =>
      match c with
      | .text _ => some "Str"
      | .bytes _ => some "Bytes"
      | _ => none
  | n => some n.kind

/-- What rules get to see: a literal has the lines of the node around it. -/
def checkedContext (s : Stop) : Context :=
  let c := s.context
  match s.visit.node, s.parent? with
  | .constant .., some parent => { c with lineRange := some ((parent.lines none).map Int.ofNat) }
  | _, _ => c

end Stop

end SourceAudit
