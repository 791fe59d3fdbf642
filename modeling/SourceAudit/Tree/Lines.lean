import SourceAudit.Tree.Node

/-! The lines that a node covers. A node without a place of its own covers the lines of its parts. -/

namespace SourceAudit

namespace Node

def hull : Option (Nat × Nat) → Option (Nat × Nat) → Option (Nat × Nat)
  | none, r => r
  | r, none => r
  | some (a, b), some (c, d) => some (min a c, max b d)

/-- The first and last line on which the node or a part of it begins; none when nothing in it has a
place. -/
def extent (n : Node) : Option (Nat × Nat) :=
  let own := n.line?.map fun l => (l, l)
  n.children.attach.foldl (fun acc ⟨(c, _), _⟩ => hull acc c.extent) own
termination_by sizeOf n
decreasing_by rename_i present; exact sizeOf_lt_of_mem_children present

def extentOfParts (n : Node) : Option (Nat × Nat) := n.children.foldl (fun acc (c, _) => hull acc c.extent) none

/-- The groups of children without bodies, alternatives, handlers and final blocks. -/
def headGroups : Node → List (List (Option Node))
  | module _ => []
  | functionDef _ _ _ args _ decorators returns => [[some args], decorators.map some, [returns]]
  | classDef _ _ bases keywords _ decorators =>
    [bases.map some, keywords.map some, decorators.map some]
  | forLoop _ _ target iter _ _ => [[some target], [some iter]]
  | whileLoop _ test _ _ => [[some test]]
  | ifStmt _ test _ _ => [[some test]]
  | withStmt _ _ items _ => [items.map some]
  | tryStmt .. => []
  | lambda _ args _ => [[some args]]
  | ifExp _ test _ _ => [[some test]]
  | exceptHandler _ type _ _ => [[type]]
  | matchCase pattern guard _ => [[some pattern], [guard]]
  | n => n.groups

/-- The first and last line of a node, found from its parts; a node without any is given lines 0 and 1. -/
def headRange (n : Node) : Nat × Nat :=
  let parts := n.headGroups.flatMap withNext
  (parts.foldl (fun acc (c, _) => hull acc c.extent) none).getD (0, 1)

def linesBetween (first last : Nat) : List Nat := List.range' first (last + 1 - first)

/-- The lines of a range that was found from parts. The lines up to the neighbour `next` count as well. -/
def reaching (next : Option Node) (range : Nat × Nat) : List Nat :=
  match next.bind line? with
  | some line => linesBetween range.1 (if line > range.1 + 1 then line - 1 else range.2)
  | none => linesBetween range.1 range.2

def partLines (n : Node) (next : Option Node) : List Nat := reaching next n.headRange

/-- The lines that the node covers; `next` is its neighbour in the same list. -/
def lines (n : Node) (next : Option Node) : List Nat :=
  match n.span? with
  | some s => linesBetween s.line s.endLine
  | none => n.partLines next

/-! ### Noted lines -/

/-- The node at an address, which tells at each step from the root the number of a child, with its neighbour. -/
def at? (tree : Node) (a : List Nat) : Option (Node × Option Node) :=
  a.foldlM (fun p i => p.1.children[i]?) (tree, none)

/-- The children that a node has at the moment, with their numbers. Only nodes without a place are emptied, and
these have their bodies last. -/
def parts (n : Node) (emptied : Bool) : List ((Node × Option Node) × Nat) :=
  n.children.zipIdx.take (if emptied then (n.headGroups.flatMap withNext).length else n.children.length)

end Node

/-- A question about the node at an address: on which lines the whole of it begins, or what lines it covers. -/
structure LineQuestion where
  whole : Bool
  address : List Nat
  deriving DecidableEq

/-- Ranges that were found are noted with the nodes. For a while, bodies of nodes may be taken out. -/
structure Notes where
  known : LineQuestion → Option (Option (Nat × Nat)) := fun _ => none
  emptied : List Nat → Bool := fun _ => false

namespace Notes

def put (q : LineQuestion) (range : Option (Nat × Nat)) (s : Notes) : Notes :=
  { s with known := fun r => if r = q then some range else s.known r }

def empty (a : List Nat) (out : Bool) (s : Notes) : Notes :=
  { s with emptied := fun b => if b = a then out else s.emptied b }

end Notes

namespace Node

/-- The range of the whole node at an address, or that of its parts outside the bodies, which are then taken out. -/
def rangeAt (n : Node) (a : List Nat) (whole : Bool) (s : Notes) : Option (Nat × Nat) × Notes :=
  match s.known ⟨whole, a⟩ with
  | some e => (e, s)
  | none =>
    let begun := if whole then s else s.empty a true
    let r := (n.parts (begun.emptied a)).attach.foldl (fun r p =>
      (p.val.1.1.rangeAt (a ++ [p.val.2]) true r.2).map (hull r.1) id) (n.line?.map fun l => (l, l), begun)
    let e := if whole then r.1 else some (r.1.getD (0, 1))
    (e, (r.2.empty a (s.emptied a)).put ⟨whole, a⟩ e)
termination_by sizeOf n
decreasing_by exact sizeOf_lt_of_mem_children (List.fst_mem_of_mem_zipIdx (List.mem_of_mem_take p.property))

/-- Neighbours count only when the range is found, and not when it was noted. -/
def linesAt (n : Node) (next : Option Node) (a : List Nat) (s : Notes) : List Nat × Notes :=
  match n.span? with
  | some p => (linesBetween p.line p.endLine, s)
  | none =>
    let next := if (s.known ⟨false, a⟩).isSome then none else next
    (n.rangeAt a false s).map (fun e => reaching next (e.getD (0, 1))) id

end Node

namespace Notes

/-- The answer to a question, a first and last line or all lines; none if there is no node at the address. -/
def answer (tree : Node) (s : Notes) (q : LineQuestion) : Option (Option (Nat × Nat) ⊕ List Nat) × Notes :=
  match tree.at? q.address with
  | none => (none, s)
  | some (n, next) =>
    if q.whole then (n.rangeAt q.address true s).map (some ∘ .inl) id
    else (n.linesAt next q.address s).map (some ∘ .inr) id

def answers (tree : Node) (s : Notes) : List LineQuestion → List (Option (Option (Nat × Nat) ⊕ List Nat)) × Notes
  | [] => ([], s)
  | q :: rest =>
    let (x, s) := s.answer tree q
    (s.answers tree rest).map (x :: ·) id

end Notes

end SourceAudit
