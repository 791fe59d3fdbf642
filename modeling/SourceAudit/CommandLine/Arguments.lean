import SourceAudit.Text.Basic

/-! Words of a command line: options with their arguments, and targets. -/

namespace SourceAudit.CommandLine

inductive Takes where
  | nothing
  | one
  | atMostOne
  deriving DecidableEq, Repr

structure Flag (κ : Type) where
  key : κ
  names : List String
  takes : Takes := .nothing

/-- A flag under one of its names, with the argument in the same word. -/
structure Use (κ : Type) where
  flag : Flag κ
  name : String
  argument : Option String := none

inductive Word (κ : Type) where
  | plain (w : String)
  | divider
  | known (u : Use κ)
  | unknown

inductive Request (κ : Type) where
  | flag (key : κ) (argument : Option String)
  | targets (words : List String)
  /-- The words make no sense from here on. -/
  | refused
  deriving DecidableEq, Repr

/-- How many targets a program takes: any number or none at all, or at least one. -/
inductive TargetCount where
  | none
  | any
  | some
  deriving DecidableEq, Repr

namespace Word

variable {κ : Type}

def flagNamed? (flags : List (Flag κ)) (name : String) : Option (Flag κ) := flags.find? fun f => f.names.contains name

def atEquals (w : String) : String × Option String :=
  let cs := w.toList
  match cs.dropWhile (· != '=') with
  | [] => (w, none)
  | _ :: rest => (String.ofList (cs.takeWhile (· != '=')), some (String.ofList rest))

def candidates (flags : List (Flag κ)) (w : String) : List (Use κ) :=
  let named := flags.flatMap fun f => f.names.map fun n => (f, n)
  if w.startsWith "--" then
    let (start, argument) := atEquals w
    named.filterMap fun (flag, name) => if name.startsWith start then some { flag, name, argument } else none
  else
    let short := String.ofList (w.toList.take 2)
    named.filterMap fun (flag, name) =>
      if name == short then some { flag, name, argument := some (String.ofList (w.toList.drop 2)) }
      else if name.startsWith w then some { flag, name }
      else none

def isNegative (w : String) : Bool :=
  let isDigit (c : Char) : Bool := (DecimalDigit.value? (CodePoint.ofNat c.toNat)).isSome
  match w.toList with
  | '-' :: rest =>
    let behind := rest.dropWhile isDigit
    match behind with
    | [] => !rest.isEmpty
    | '.' :: places => !places.isEmpty && places.all isDigit
    | _ => false
  | _ => false

/-- The role of a word; none if it may be short for several options. -/
def ofString? (flags : List (Flag κ)) (w : String) : Option (Word κ) :=
  if !w.startsWith "-" then some (.plain w)
  else
    match flagNamed? flags w with
    | some flag => some (.known { flag, name := w })
    | none =>
      if w == "-" then some (.plain w)
      else
        let (start, argument) := atEquals w
        match argument.isSome, flagNamed? flags start with
        | true, some flag => some (.known { flag, name := start, argument })
        | _, _ =>
          match candidates flags w with
          | [u] => some (.known u)
          | _ :: _ => none
          | [] => some (if isNegative w || w.toList.contains ' ' then .plain w else .unknown)

def ofStrings? (flags : List (Flag κ)) : List String → Option (List (Word κ))
  | [] => some []
  | "--" :: rest => some (.divider :: rest.map .plain)
  | w :: rest => do return (← ofString? flags w) :: (← ofStrings? flags rest)

def isBare : Word κ → Bool
  | .plain _ | .divider => true
  | _ => false

def strings (words : List (Word κ)) : List String :=
  words.filterMap fun
    | .plain w => some w
    | _ => none

end Word

namespace Request

variable {κ : Type}

/-- The requests of one word with options, all or none, and the words behind its arguments. -/
def ofUse (flags : List (Flag κ)) (rest : List (Word κ)) :
    Nat → Use κ → Option (List (Request κ) × List (Word κ))
  | 0, _ => none
  | fuel + 1, u =>
    match u.argument, u.flag.takes with
    | some a, .nothing =>
      match a.toList with
      | c :: more =>
        if u.name.startsWith "--" then none
        else do
          let name := String.ofList ['-', c]
          let flag ← Word.flagNamed? flags name
          let argument := if more.isEmpty then none else some (String.ofList more)
          let (requests, rest) ← ofUse flags rest fuel { flag, name, argument }
          return (.flag u.flag.key none :: requests, rest)
      | [] => none
    | some a, _ => some ([.flag u.flag.key (some a)], rest)
    | none, .nothing => some ([.flag u.flag.key none], rest)
    | none, takes =>
      match rest, takes with
      | .plain w :: rest, _ => some ([.flag u.flag.key (some w)], rest)
      | rest, .atMostOne => some ([.flag u.flag.key none], rest)
      | _, _ => none

def fits (count : TargetCount) (words : List (Word κ)) : Bool :=
  match count with
  | .none => false
  | .any => true
  | .some => !(Word.strings words).isEmpty

/-- The requests of words. Targets stand together; `strict` refuses words that are left over in the end. -/
def ofWords (flags : List (Flag κ)) (strict : Bool) : Nat → TargetCount → Bool → List (Word κ) → List (Request κ)
  | 0, _, _, _ => [.refused]
  | _, count, extra, [] =>
    match count with
    | .some => [.refused]
    | .any => .targets [] :: (if strict && extra then [.refused] else [])
    | .none => if strict && extra then [.refused] else []
  | fuel + 1, count, extra, .known u :: rest =>
    match ofUse flags rest (u.argument.elim 0 (·.length) + 1) u with
    | some (requests, rest) => requests ++ ofWords flags strict fuel count extra rest
    | none => [.refused]
  | fuel + 1, count, _, .unknown :: rest => ofWords flags strict fuel count true rest
  | fuel + 1, count, extra, w :: rest =>
    let words := w :: rest.takeWhile Word.isBare
    let rest := rest.dropWhile Word.isBare
    if fits count words then .targets (Word.strings words) :: ofWords flags strict fuel .none extra rest
    else ofWords flags strict fuel count true rest

def ofStrings (flags : List (Flag κ)) (count : TargetCount) (strict : Bool) (args : List String) : List (Request κ) :=
  match Word.ofStrings? flags args with
  | some words => ofWords flags strict (words.length + 1) count false words
  | none => [.refused]

end Request

end SourceAudit.CommandLine
