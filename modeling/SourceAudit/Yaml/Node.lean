import SourceAudit.Yaml.Scalar
import SourceAudit.Yaml.Token

/-! The nodes of a document, each with its tag. -/

namespace SourceAudit.Yaml

inductive Node where
  | scalar (tag : Tag) (t : Text)
  | list (tag : Tag) (items : List Node)
  | dict (tag : Tag) (entries : List (Node × Node))
  deriving Inhabited

namespace Node

def empty : Node := .scalar .null []

/-- What stands in front of the names of the tags that a document can use without saying so. -/
def tagStem : Text := "tag:yaml.org,2002:"

def knownTags : List (Text × Tag) := [
  ("null", .null), ("bool", .bool), ("int", .int), ("float", .float), ("timestamp", .timestamp),
  ("merge", .merge), ("value", .value), ("str", .str), ("seq", .seq), ("map", .map), ("binary", .binary),
  ("omap", .omap), ("pairs", .pairs), ("set", .set)]

def tagNamed (name : Text) : Tag :=
  if tagStem.isPrefixOf name then (knownTags.lookup (name.drop tagStem.length)).getD (.other name)
  else .other name

structure Reading where
  rest : List Token
  anchors : List (Text × Node) := []
  unfinished : List Text := []
  handles : List (Text × Text) := []

abbrev NodeReader := StateT Reading Read

def fail {α : Type} : NodeReader α := throw .malformed

def peek : NodeReader (Option Token) := return (← get).rest.head?

def next : NodeReader Unit := modify fun s => { s with rest := s.rest.tail }

def accept (t : Token) : NodeReader Bool := do
  if (← peek) == some t then
    next
    return true
  else return false

def at_ (ts : List Token) : NodeReader Bool := return (← peek).any ts.contains

def anchor? : NodeReader (Option Text) := do
  let some (.anchor name) ← peek | return none
  next
  return some name

def tagName? : NodeReader (Option Text) := do
  let some (.tag handle suffix) ← peek | return none
  next
  match handle with
  | none => return some suffix
  | some handle =>
    let some stem := (← get).handles.lookup handle | fail
    return some (stem ++ suffix)

def properties : NodeReader (Option Text × Option Text) := do
  match ← anchor? with
  | some anchor => return (some anchor, ← tagName?)
  | none =>
    let tag ← tagName?
    let anchor ← if tag.isSome then anchor? else pure none
    return (anchor, tag)

/-- The tag that a node says it has; none if it says nothing, or only that it has none. -/
def explicit (name : Option Text) : Option Tag :=
  match name with
  | some name => if name == [33] then none else some (tagNamed name)
  | none => none

/-- A scalar. A plain one, or one whose tag is left open, gets the tag of its form. -/
def ofScalar (name : Option Text) (plain : Bool) (t : Text) : Node :=
  let open_ := plain || name.isSome
  .scalar ((explicit name).getD (if open_ then Scalar.tagOf t else .str)) t

mutual

/-- A node. Blocks are allowed only outside of brackets, and a list that is not indented only below a key. -/
def node (block bare : Bool) : Nat → NodeReader Node
  | 0 => fail
  | fuel + 1 => do
    if let some (.reference name) ← peek then
      next
      let some n := (← get).anchors.lookup name | fail
      return n
    let (anchor, name) ← properties
    if let some anchor := anchor then
      let s ← get
      if (s.anchors.lookup anchor).isSome || s.unfinished.contains anchor then fail
      modify fun s => { s with unfinished := anchor :: s.unfinished }
    let list (items : List Node) : Node := .list ((explicit name).getD .seq) items
    let dict (entries : List (Node × Node)) : Node := .dict ((explicit name).getD .map) entries
    let n ← match ← peek, bare, block with
      | some (.scalar plain t), _, _ => do
        next
        pure (ofScalar name plain t)
      | some .flowList, _, _ => do
        next
        let item : Node × Option Node → Node
          | (key, some value) => .dict .map [(key, value)]
          | (n, none) => n
        pure (list ((← flowParts .flowListEnd true fuel).map item))
      | some .flowDict, _, _ => do
        next
        pure (dict ((← flowParts .flowDictEnd true fuel).map fun (key, value) => (key, value.getD empty)))
      | some .entry, true, _ => do pure (list (← blockItems true fuel))
      | some .blockList, _, true => do
        next
        pure (list (← blockItems false fuel))
      | some .blockDict, _, true => do
        next
        pure (dict (← blockEntries fuel))
      | _, _, _ => if anchor.isSome || name.isSome then pure (ofScalar name true []) else fail
    if let some anchor := anchor then
      modify fun s => { s with anchors := (anchor, n) :: s.anchors, unfinished := s.unfinished.erase anchor }
    return n

def blockItems (bare : Bool) : Nat → NodeReader (List Node)
  | 0 => fail
  | fuel + 1 => do
    if ← accept .entry then
      let n ← if ← at_ (if bare then [.entry, .key, .value, .blockEnd] else [.entry, .blockEnd]) then pure empty
        else node true false fuel
      return n :: (← blockItems bare fuel)
    else if bare then return []
    else if ← accept .blockEnd then return []
    else fail

def blockEntries : Nat → NodeReader (List (Node × Node))
  | 0 => fail
  | fuel + 1 => do
    let part : NodeReader Node := do
      if ← at_ [.key, .value, .blockEnd] then pure empty else node true true fuel
    if ← accept .key then
      let key ← part
      let value ← if ← accept .value then part else pure empty
      return (key, value) :: (← blockEntries fuel)
    else if ← accept .blockEnd then return []
    else fail

def flowParts (close : Token) (first : Bool) : Nat → NodeReader (List (Node × Option Node))
  | 0 => fail
  | fuel + 1 => do
    if ← accept close then return []
    if !first then
      if !(← accept .comma) then fail
    let part (ends : List Token) : NodeReader Node := do
      if ← at_ (ends ++ [.comma, close]) then pure empty else node false false fuel
    if ← accept .key then
      let key ← part [.value]
      let value ← if ← accept .value then part [] else pure empty
      return (key, some value) :: (← flowParts close false fuel)
    else if ← accept close then return []
    else
      let n ← node false false fuel
      return (n, none) :: (← flowParts close false fuel)

end

/-! ### Documents -/

def directives (versionSeen : Bool) (handles : List (Text × Text)) :
    List Token → Read (List (Text × Text) × List Token)
  | .version major :: rest =>
    if versionSeen || major != 1 then .error .malformed else directives true handles rest
  | .tagHandle h stem :: rest =>
    if (handles.lookup h).isSome then .error .malformed else directives versionSeen ((h, stem) :: handles) rest
  | .otherDirective :: rest => directives versionSeen handles rest
  | rest => .ok (handles, rest)

def handles : List (Text × Text) := [([33], [33]), ([33, 33], tagStem)]

def isDirective : Token → Bool
  | .version _ | .tagHandle _ _ | .otherDirective => true
  | _ => false

def ofTokens (ts : List Token) : Read (Option Node) := do
  let explicitStart (t : Token) : Bool := isDirective t || t == .documentStart
  let body (given : List (Text × Text)) (mayBeEmpty : Bool) (ts : List Token) : Read Node := do
    let ended (t : Token) : Bool := explicitStart t || t == .documentEnd
    let (n, s) ← if mayBeEmpty && (ts.head?.map ended).getD true then
        pure (empty, ({ rest := ts } : Reading))
      else (node true false (3 * ts.length + 8)).run { rest := ts, handles := given ++ handles }
    if (s.rest.dropWhile (· == .documentEnd)).isEmpty then return n else refuse
  match ts with
  | [] => return none
  | first :: _ =>
    if explicitStart first then
      let (given, rest) ← directives false [] ts
      let .documentStart :: rest := rest | refuse
      return some (← body given true rest)
    else return some (← body [] false ts)

end Node

end SourceAudit.Yaml
