import SourceAudit.Log
import SourceAudit.Rule.Catalogue

/-! Comments that suppress findings on their line: all of them, or those of the tests that they name. -/

namespace SourceAudit.Suppression

open Folding

/-- The text behind the marker, up to the next number sign, of the first comment that has it; perhaps empty. -/
def marked? : Text → Option Text
  | [] => none
  | p :: rest =>
    let body := rest.dropWhile isBlank
    if p == 35 && ("nosec" : Text).isPrefixOf body then
      let after := body.drop 5
      let after := if after.head? == some 58 then after.tail else after
      some ((after.dropWhile isBlank).takeWhile (· != 35))
    else marked? rest

def isWordPart (p : CodePoint) : Bool :=
  let f := fold p
  (97 ≤ f.val && f.val ≤ 122) || f.val == 95 || DecimalDigit.isDecimal p

/-- The word at the start and the rest. An id ends with its digits, others with the last word character. -/
def word (t : Text) : Text × Text :=
  let digits := match t with
    | p :: rest => if fold p == 98 then rest.takeWhile DecimalDigit.isDecimal else []
    | [] => []
  if digits.isEmpty then (t.takeWhile isWordPart, t.dropWhile isWordPart)
  else (t.take (digits.length + 1), t.drop (digits.length + 1))

def lastOfRun : Nat → Text → Text → Text × Text
  | 0, last, t => (last, t)
  | fuel + 1, last, t =>
    let (w, rest) := word t
    if w.isEmpty then (last, t)
    else lastOfRun fuel w (if rest.head? == some 44 then rest.tail else rest)

def names : Nat → Text → List Text
  | 0, _ => []
  | _, [] => []
  | fuel + 1, p :: rest =>
    if isWordPart p then
      let (last, rest) := lastOfRun (rest.length + 1) [] (p :: rest)
      last :: names fuel rest
    else names fuel rest

/-- The id that a name in a comment means; unknown ones are reported. -/
def identify (name : Text) : Option String × Log :=
  let s := name.toStringLossy
  if Catalogue.isKnown s then (some s, [])
  else match Catalogue.idOf? s with
    | some id => (some id, [])
    | none => (none, [warning ("Test in comment: " ++ name ++ " is not a test name or id, ignoring")])

/-- What a comment suppresses: nothing, everything (an empty list), or the tests with the ids. -/
def read (comment : Text) : Option (List String) × Log :=
  match marked? comment with
  | none => (none, [])
  | some t =>
    let found := (names (t.length + 1) t).map identify
    (some (found.filterMap Prod.fst).eraseDups, found.flatMap Prod.snd)

end SourceAudit.Suppression

namespace SourceAudit

abbrev Suppressions := List (Int × Option (List String))

namespace Suppressions

def latest : Suppressions → Suppressions
  | [] => []
  | e :: rest => if rest.any fun later => later.1 == e.1 then latest rest else e :: latest rest

def at_ (ss : Suppressions) (line : Int) : Option (List String) := (ss.lookup line).join

def within (ss : Suppressions) (lines : List Int) : Option (List String) :=
  if ss.isEmpty then none else lines.findSome? ss.at_

def covering (ss : Suppressions) (line : Option Int) (lines : List Int) : Option (List String) :=
  match line.bind ss.at_, ss.within lines with
  | none, none => none
  | a, b => some (a.getD [] ++ b.getD [])

end Suppressions

end SourceAudit
