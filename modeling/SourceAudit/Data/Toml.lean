import SourceAudit.Data.Json
import SourceAudit.Data.Moment
import SourceAudit.Number.Decimal

/-! Settings in tables of named values. -/

namespace SourceAudit.Toml

/-- A name of dotted parts. -/
abbrev Key := List Text

abbrev Entries := Fields

def isBlank (p : CodePoint) : Bool := p == 32 || p == 9

def isBlankOrBreak (p : CodePoint) : Bool := isBlank p || p == 10

def skipBlanks (t : Text) : Text := t.dropWhile isBlank

def isForbidden (p : CodePoint) : Bool := (p.val < 32 && p != 9) || p == 127

def skipComment (t : Text) : Option Text :=
  match t with
  | 35 :: rest =>
    if (rest.takeWhile (· != 10)).any isForbidden then none else some (rest.dropWhile (· != 10))
  | t => some t

def skipGaps : Nat → Text → Option Text
  | 0, t => some t
  | fuel + 1, t => do
    let next ← skipComment (t.dropWhile isBlankOrBreak)
    if next.length == t.length then return t else skipGaps fuel next

/-! ### Text -/

def numbered (width : Nat) (t : Text) : Option (Text × Text) := do
  let (n, rest) ← Escape.hexRun? width t
  if n < 0xD800 || (0xE000 ≤ n && n < 0x110000) then some ([CodePoint.ofNat n], rest) else none

def escape (multiline : Bool) : Text → Option (Text × Text)
  | [] => none
  | p :: rest =>
    if multiline && isBlankOrBreak p then
      let rest := if p == 10 then 10 :: rest else skipBlanks rest
      match rest with
      | [] => some ([], [])
      | q :: rest => if q == 10 then some ([], rest.dropWhile isBlankOrBreak) else none
    else
      match p with
      | 117 => numbered 4 rest
      | 85 => numbered 8 rest
      | _ => (Json.letters.lookup p.val).map fun n => ([CodePoint.ofNat n], rest)

def escaped (multiline : Bool) : Nat → Text → Option (Text × Text)
  | 0, _ => none
  | _, [] => none
  | fuel + 1, p :: rest =>
    let go (t rest : Text) : Option (Text × Text) := do
      let (more, rest) ← escaped multiline fuel rest
      return (t ++ more, rest)
    if p == 34 then
      if !multiline then some ([], rest)
      else
        match rest with
        | 34 :: 34 :: rest => some ([], rest)
        | rest => go [34] rest
    else if p == 92 then do
      let (t, rest) ← escape multiline rest
      go t rest
    else if isForbidden p && !(multiline && p == 10) then none
    else go [p] rest

def literal (t : Text) : Option (Text × Text) := do
  let (body, rest) ← Segments.cut 39 t
  if body.any isForbidden then none else some (body, rest)

def longLiteral : Text → Option (Text × Text)
  | [] => none
  | 39 :: 39 :: 39 :: rest => some ([], rest)
  | p :: rest => do
    if isForbidden p && p != 10 then none
    let (more, rest) ← longLiteral rest
    return (p :: more, rest)

/-- Text over several lines: a first line break does not count, and two quotes may precede the closing ones. -/
def longText (quote : CodePoint) (t : Text) : Option (Text × Text) := do
  let t := if t.head? == some 10 then t.tail else t
  let (body, rest) ← if quote == 39 then longLiteral t else escaped true (t.length + 1) t
  let extra := (rest.takeWhile (· == quote)).take 2
  return (body ++ extra, rest.drop extra.length)

/-! ### Names -/

def keyPart (t : Text) : Option (Text × Text) :=
  match t with
  | [] => none
  | 39 :: rest => literal rest
  | 34 :: rest => escaped false (rest.length + 1) rest
  | p :: _ => if isWordPoint p then some (t.span isWordPoint) else none

def key : Nat → Text → Option (Key × Text)
  | 0, _ => none
  | fuel + 1, t => do
    let (part, rest) ← keyPart t
    match skipBlanks rest with
    | 46 :: rest =>
      let (parts, rest) ← key fuel (skipBlanks rest)
      return (part :: parts, rest)
    | rest => return ([part], rest)

/-! ### Numbers and times -/

def digitRun (ok : CodePoint → Bool) : Text → Text × Text
  | [] => ([], [])
  | p :: rest =>
    if ok p then
      match rest with
      | 95 :: q :: more =>
        if ok q then
          let (ds, rest) := digitRun ok (q :: more)
          (p :: ds, rest)
        else ([p], rest)
      | rest =>
        let (ds, rest) := digitRun ok rest
        (p :: ds, rest)
    else ([], p :: rest)
termination_by t => t.length

def inBase (base : Nat) (t : Text) : Option (Value × Text) :=
  let ok (p : CodePoint) : Bool := (Escape.hexValue? p).any (· < base)
  match digitRun ok t with
  | ([], _) => none
  | (ds, rest) => some (.int (ds.foldl (fun n p => base * n + (Escape.hexValue? p).getD 0) 0 : Nat), rest)

def decimal (t : Text) : Option (Value × Text) := do
  let (sign, t) : Text × Text := match t with
    | 45 :: rest => ([45], rest)
    | 43 :: rest => ([], rest)
    | t => ([], t)
  let (whole, rest) : Text × Text ← match t with
    | 48 :: rest => some ([48], rest)
    | t =>
      let (ds, rest) := digitRun isDigit t
      if ds.isEmpty then none else some (ds, rest)
  let (fraction, rest) : Text × Text := match rest with
    | 46 :: more =>
      let (ds, more) := digitRun isDigit more
      if ds.isEmpty then ([], rest) else (46 :: ds, more)
    | rest => ([], rest)
  let (exponent, rest) : Text × Text := match rest with
    | e :: more =>
      let (mark, more) : Text × Text := match more with
        | 45 :: more => ([101, 45], more)
        | 43 :: more => ([101], more)
        | more => ([101], more)
      let (ds, more) := digitRun isDigit more
      if (e == 101 || e == 69) && !ds.isEmpty then (mark ++ ds, more) else ([], rest)
    | [] => ([], rest)
  if fraction.isEmpty && exponent.isEmpty then return (.int (← Whole.read? (sign ++ whole)), rest)
  else return (.float (← Decimal.read? (sign ++ whole ++ fraction ++ exponent)), rest)

def number (t : Text) : Option (Value × Text) :=
  let inOtherBase := match t with
    | 48 :: 120 :: rest => inBase 16 rest
    | 48 :: 98 :: rest => inBase 2 rest
    | 48 :: 111 :: rest => inBase 8 rest
    | _ => none
  inOtherBase.orElse fun _ => decimal t

def fixed (width least most : Nat) (t : Text) : Option (Nat × Text) :=
  let ds := t.take width
  let n := digitsValue ds
  if ds.length == width && ds.all isDigit && least ≤ n && n ≤ most then some (n, t.drop width) else none

def expect (p : CodePoint) : Text → Option Text
  | q :: rest => if q == p then some rest else none
  | [] => none

def timeOfDay (m : Moment) (t : Text) : Option (Moment × Text) := do
  let (hour, t) ← fixed 2 0 23 t
  let (minute, t) ← fixed 2 0 59 (← expect 58 t)
  let (second, t) ← fixed 2 0 59 (← expect 58 t)
  let m := { m with hour, minute, second }
  match t with
  | 46 :: rest =>
    let ds := rest.takeWhile isDigit
    if ds.isEmpty then return (m, t)
    else
      return ({ m with microsecond := digitsValue ((ds ++ List.replicate 6 48).take 6) }, rest.dropWhile isDigit)
  | t => return (m, t)

def zone (t : Text) : Option Int × Text :=
  match t with
  | 90 :: rest | 122 :: rest => (some 0, rest)
  | sign :: rest =>
    let given : Option (Int × Text) := do
      if sign != 43 && sign != 45 then none
      let (hours, rest) ← fixed 2 0 23 rest
      let (minutes, rest) ← fixed 2 0 59 (← expect 58 rest)
      let total : Int := 60 * hours + minutes
      return (if sign == 45 then -total else total, rest)
    match given with
    | some (minutes, rest) => (some minutes, rest)
    | none => (none, t)
  | [] => (none, t)

def day (t : Text) : Option (Option Value × Text) := do
  let (year, t) ← fixed 4 0 9999 t
  let (month, t) ← fixed 2 1 12 (← expect 45 t)
  let (day, t) ← fixed 2 1 31 (← expect 45 t)
  let m : Moment := { year, month, day }
  let timed : Option (Moment × Text) := match t with
    | p :: rest => if p == 84 || p == 116 || p == 32 then timeOfDay m rest else none
    | [] => none
  let exists_ := Moment.isDay year month day
  match timed with
  | some (m, rest) =>
    let (zone, rest) := zone rest
    return (if exists_ then some (.stamp { m with zone }.dateTime) else none, rest)
  | none => return (if exists_ then some (.stamp m.date) else none, t)

def words : List (Text × Value) := [
  ("inf", .float (.infinite false)), ("nan", .float .nan), ("-inf", .float (.infinite true)),
  ("+inf", .float (.infinite false)), ("-nan", .float .nan), ("+nan", .float .nan),
  ("true", .bool true), ("false", .bool false)]

def atom (t : Text) : Option (Value × Text) :=
  match words.find? fun (w, _) => w.isPrefixOf t with
  | some (w, v) => some (v, t.drop w.length)
  | none =>
    match day t with
    | some (v, rest) => v.map fun v => (v, rest)
    | none =>
      match timeOfDay { year := 1, month := 1, day := 1 } t with
      | some (m, rest) => some (.stamp m.preciseTime, rest)
      | none => number t

/-! ### Tables -/

def within (lists : Bool) (change : Entries → Option Entries) : Key → Entries → Option Entries
  | [], entries => change entries
  | k :: rest, entries => do
    let inner (v : Value) : Option Value := match v with
      | .dict entries => (within lists change rest entries).map .dict
      | _ => none
    let changed ← match Value.lookup (.text k) entries with
      | none => inner (.dict [])
      | some (.list items) =>
        if lists then do
          let last ← inner (← items.getLast?)
          some (.list (items.dropLast ++ [last]))
        else none
      | some v => inner v
    return Value.put (.text k) changed entries

/-- A name that is declared, and perhaps closed against changes with all below it. -/
structure Mark where
  frozen : Bool
  key : Key
  deriving DecidableEq

def isFrozen (marks : List Mark) (key : Key) : Bool := marks.any fun m => m.frozen && m.key.isPrefixOf key

def isDeclared (marks : List Mark) (key : Key) : Bool := marks.contains ⟨false, key⟩

def isCompound : Value → Bool
  | .dict _ | .list _ => true
  | _ => false

def addNew (name : Text) (v : Value) (entries : Entries) : Option Entries :=
  if (Value.lookup (.text name) entries).isSome then none else some (entries ++ [(.text name, v)])

def parent (key : Key) : Key × Text := (key.dropLast, key.getLastD [])

mutual

def value : Nat → Text → Option (Value × Text)
  | 0, _ => none
  | fuel + 1, t =>
    match t with
    | 34 :: 34 :: 34 :: rest => (longText 34 rest).map (·.map .text id)
    | 39 :: 39 :: 39 :: rest => (longText 39 rest).map (·.map .text id)
    | 34 :: rest => (escaped false (rest.length + 1) rest).map (·.map .text id)
    | 39 :: rest => (literal rest).map (·.map .text id)
    | 91 :: rest => (items fuel rest).map (·.map .list id)
    | 123 :: rest =>
      match skipBlanks rest with
      | 125 :: rest => some (.dict [], rest)
      | rest => (inlineEntries [] [] fuel rest).map (·.map .dict id)
    | t => atom t

def items : Nat → Text → Option (List Value × Text)
  | 0, _ => none
  | fuel + 1, t => do
    let t ← skipGaps (t.length + 1) t
    match t with
    | 93 :: rest => return ([], rest)
    | t =>
      let (v, t) ← value fuel t
      match ← skipGaps (t.length + 1) t with
      | 93 :: rest => return ([v], rest)
      | 44 :: rest =>
        let (more, rest) ← items fuel rest
        return (v :: more, rest)
      | _ => none

def inlineEntries (marks : List Mark) (entries : Entries) : Nat → Text → Option (Entries × Text)
  | 0, _ => none
  | fuel + 1, t => do
    let (k, t) ← key (t.length + 1) t
    let (v, t) ← value fuel (skipBlanks (← expect 61 t))
    if isFrozen marks k then none
    let (place, name) := parent k
    let entries ← within false (addNew name v) place entries
    match skipBlanks t with
    | 125 :: rest => return (entries, rest)
    | 44 :: rest =>
      inlineEntries (if isCompound v then ⟨true, k⟩ :: marks else marks) entries fuel (skipBlanks rest)
    | _ => none

end

/-! ### The whole text -/

/-- What was read, what is closed now and at the next heading, and the table of the last heading. -/
structure Reading where
  entries : Entries := []
  marks : List Mark := []
  pending : List Mark := []
  header : Key := []

def entryStatement (s : Reading) (t : Text) : Option (Reading × Text) := do
  let (k, t) ← key (t.length + 1) t
  let t := skipBlanks (← expect 61 t)
  let (v, t) ← value (t.length + 1) t
  let (place, name) := parent k
  let outer := (List.range place.length).map fun i => s.header ++ k.take (i + 1)
  if outer.any (isDeclared s.marks) || isFrozen s.marks (s.header ++ place) then none
  let entries ← within true (addNew name v) (s.header ++ place) s.entries
  return ({ s with
    entries
    pending := outer.map (⟨false, ·⟩) ++ s.pending
    marks := if isCompound v then ⟨true, s.header ++ k⟩ :: s.marks else s.marks }, t)

def tableStatement (s : Reading) (t : Text) : Option (Reading × Text) := do
  let (k, t) ← key (t.length + 1) (skipBlanks t)
  if isDeclared s.marks k || isFrozen s.marks k then none
  let entries ← within true some k s.entries
  let t ← expect 93 t
  return ({ s with entries, marks := ⟨false, k⟩ :: s.marks, header := k }, t)

/-- A new table at the end of a list of tables, which opens all names below it again. -/
def listStatement (s : Reading) (t : Text) : Option (Reading × Text) := do
  let (k, t) ← key (t.length + 1) (skipBlanks t)
  if isFrozen s.marks k then none
  let (place, name) := parent k
  let append (entries : Entries) : Option Entries :=
    match Value.lookup (.text name) entries with
    | none => some (entries ++ [(.text name, .list [.dict []])])
    | some (.list items) => some (Value.put (.text name) (.list (items ++ [.dict []])) entries)
    | some _ => none
  let entries ← within true append place s.entries
  let t ← expect 93 (← expect 93 t)
  let marks := ⟨false, k⟩ :: s.marks.filter fun m => !k.isPrefixOf m.key
  return ({ s with entries, marks, header := k }, t)

def statement (s : Reading) (t : Text) : Option (Reading × Text) :=
  match t with
  | [] => some (s, [])
  | 91 :: rest =>
    let s := { s with marks := s.pending ++ s.marks, pending := [] }
    match rest with
    | 91 :: rest => listStatement s rest
    | rest => tableStatement s rest
  | p :: _ =>
    if isWordPoint p || p == 34 || p == 39 then entryStatement s t
    else if p == 35 || p == 10 then some (s, t)
    else none

def statements : Nat → Reading → Text → Option Entries
  | 0, _, _ => none
  | fuel + 1, s, t => do
    let (s, t) ← statement s (skipBlanks t)
    match ← skipComment (skipBlanks t) with
    | [] => return s.entries
    | 10 :: rest => statements fuel s rest
    | _ => none

def unifyBreaks : Text → Text
  | 13 :: 10 :: rest => 10 :: unifyBreaks rest
  | p :: rest => p :: unifyBreaks rest
  | [] => []

def read? (t : Text) : Option Value :=
  let t := unifyBreaks t
  (statements (t.length + 1) {} t).map .dict

end SourceAudit.Toml
