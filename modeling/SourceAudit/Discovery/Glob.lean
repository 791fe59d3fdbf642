/-! Shell patterns. Letter case counts and slashes are ordinary characters. -/

namespace SourceAudit.Glob

inductive Piece where
  | literal (c : Char)
  | any
  | star
  /-- A character of the set, given by members and ranges, or one outside of it. -/
  | oneOf (negated : Bool) (members : List Char) (ranges : List (Char × Char))
  deriving DecidableEq, Repr

/-- The parts of a set between the hyphens that make ranges. A hyphen is plain where it comes first or next to the end
of a range; `first` characters are passed over. -/
def chunks (fuel first : Nat) (cs : List Char) : List (List Char) :=
  match fuel with
  | 0 => [cs]
  | fuel + 1 =>
    let head := cs.take first
    let rest := cs.drop first
    match rest.span (· != '-') with
    | (_, []) => [cs]
    | (before, _ :: after) => (head ++ before) :: chunks fuel 2 after

def closeLast : List (List Char) → List (List Char)
  | [] => []
  | [c] => [c]
  | [c, []] => [c ++ ['-']]
  | c :: cs => c :: closeLast cs

/-- Joins the parts around each empty range, dropping its ends, from the last range on. -/
def dropEmptyRanges : List (List Char) → List (List Char)
  | [] => []
  | c :: cs =>
    match dropEmptyRanges cs with
    | [] => [c]
    | d :: ds =>
      match c.getLast?, d.head? with
      | some lo, some hi => if hi < lo then (c.dropLast ++ d.drop 1) :: ds else c :: d :: ds
      | _, _ => c :: d :: ds

def rangesOf : List (List Char) → List (Char × Char)
  | c :: d :: rest =>
    match c.getLast?, d.head? with
    | some lo, some hi => (lo, hi) :: rangesOf (d :: rest)
    | _, _ => rangesOf (d :: rest)
  | _ => []

/-- The set written between brackets. An empty set matches nothing, and its negation everything. -/
def setPiece (stuff : List Char) : Piece :=
  let parts :=
    if stuff.contains '-' then
      let first := if stuff.head? == some '!' then 2 else 1
      dropEmptyRanges (closeLast (chunks stuff.length first stuff))
    else [stuff]
  match parts with
  | ('!' :: rest) :: more => .oneOf true (rest ++ more.flatten) (rangesOf (rest :: more))
  | parts => .oneOf false parts.flatten (rangesOf parts)

/-- The content of a set and what follows its closing bracket, which is not its first character. -/
def bracket? (cs : List Char) : Option (List Char × List Char) :=
  let skip := match cs with
    | '!' :: ']' :: _ => 2
    | '!' :: _ => 1
    | ']' :: _ => 1
    | _ => 0
  match (cs.drop skip).span (· != ']') with
  | (_, []) => none
  | (inner, _ :: rest) => some (cs.take skip ++ inner, rest)

def parse (fuel : Nat) : List Char → List Piece
  | [] => []
  | c :: cs =>
    match fuel with
    | 0 => []
    | fuel + 1 =>
      if c == '*' then .star :: parse fuel cs
      else if c == '?' then .any :: parse fuel cs
      else if c == '[' then
        match bracket? cs with
        | some (stuff, rest) => setPiece stuff :: parse fuel rest
        | none => .literal '[' :: parse fuel cs
      else .literal c :: parse fuel cs

def someEnd (fits : List Char → Bool) : List Char → Bool
  | [] => fits []
  | c :: cs => fits (c :: cs) || someEnd fits cs

def matchPieces : List Piece → List Char → Bool
  | [], cs => cs.isEmpty
  | .star :: ps, cs => someEnd (matchPieces ps) cs
  | .any :: ps, cs =>
    match cs with
    | [] => false
    | _ :: rest => matchPieces ps rest
  | .literal c :: ps, cs =>
    match cs with
    | [] => false
    | d :: rest => c == d && matchPieces ps rest
  | .oneOf negated members ranges :: ps, cs =>
    match cs with
    | [] => false
    | d :: rest =>
      (members.contains d || ranges.any fun (lo, hi) => lo ≤ d && d ≤ hi) != negated &&
        matchPieces ps rest

def fits (pattern text : String) : Bool := matchPieces (parse pattern.length pattern.toList) text.toList

end SourceAudit.Glob
