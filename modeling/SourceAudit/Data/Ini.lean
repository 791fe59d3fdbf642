import SourceAudit.Source.Comment
import SourceAudit.Text.LowerCase

/-! Files of options in sections; a value may refer to other options of the section. -/

namespace SourceAudit.Ini

abbrev Options := List (Text × List Text)

structure Section where
  name : Text
  options : Options := []

/-- The sections read, the open one, the option that may go on and its indentation; `broken` if some line fits nothing.
-/
structure Reading where
  sections : List Section := []
  current : Option Text := none
  option : Option Text := none
  indent : Nat := 0
  broken : Bool := false

def defaultName : Text := "DEFAULT"

def strip (t : Text) : Text := Segments.trim Folding.isBlank t

def header? : Text → Option Text
  | 91 :: rest => (Segments.cutLast 93 rest).bind fun (name, _) => if name.isEmpty then none else some name
  | _ => none

def cutOption (t : Text) : Option (Text × Text) :=
  match t.span fun p => p != 61 && p != 58 with
  | (option, _ :: value) => some (strip option, strip value)
  | _ => none

namespace Reading

def modifySection (name : Text) (f : Options → Options) (r : Reading) : Reading :=
  { r with sections := r.sections.map fun s => if s.name == name then { s with options := f s.options } else s }

def hasOption (r : Reading) (name option : Text) : Bool :=
  r.sections.any fun s => s.name == name && s.options.any fun o => o.1 == option

def goOn (name option line : Text) (r : Reading) : Reading :=
  r.modifySection name fun os => os.map fun (o, ls) => if o == option then (o, ls ++ [line]) else (o, ls)

def openSection (name : Text) (r : Reading) : Option Reading :=
  let known := r.sections.any fun s => s.name == name
  if known && name != defaultName then none
  else
    let sections := if known then r.sections else r.sections ++ [⟨name, []⟩]
    some { r with sections, current := some name, option := none }

def openOption (section_ option value : Text) (r : Reading) : Option Reading :=
  let name := Text.lower option
  if r.hasOption section_ name then none
  else
    let r := r.modifySection section_ fun os => os ++ [(name, [value])]
    some { r with option := some name, broken := r.broken || name.isEmpty }

def blankLine (r : Reading) : Reading :=
  match r.current, r.option with
  | some s, some o => if o.isEmpty then r else r.goOn s o []
  | _, _ => r

def contentLine (indent : Nat) (value : Text) (r : Reading) : Option Reading :=
  let opened (r : Reading) : Option Reading :=
    match header? value with
    | some name => r.openSection name
    | none => do
      let s ← r.current
      match cutOption value with
      | some (option, value) => r.openOption s option value
      | none => some { r with broken := true }
  match r.current, r.option with
  | some s, some o =>
    if !o.isEmpty && r.indent < indent then some (r.goOn s o value) else opened { r with indent }
  | _, _ => opened { r with indent }

def line (r : Reading) (l : Text) : Option Reading :=
  let value := strip l
  if value.isEmpty then some r.blankLine
  else if value.head?.any fun p => p == 35 || p == 59 then some r
  else r.contentLine (l.takeWhile Folding.isBlank).length value

end Reading

/-- The options of all sections; none when a line fits nothing, or a name comes twice. -/
def sections? (lines : List Text) : Option (List Section) := do
  let r ← lines.foldlM Reading.line {}
  if r.broken then none else some r.sections

def joined (lines : List Text) : Text := Segments.trimEnd Folding.isBlank (Segments.join [10] lines)

def replaceReferences (value : Text → Option Text) : Nat → Text → Option Text
  | 0, _ => some []
  | _, [] => some []
  | fuel + 1, 37 :: 37 :: rest => (replaceReferences value fuel rest).map (37 :: ·)
  | fuel + 1, 37 :: 40 :: rest => do
    match Segments.cut 41 rest with
    | some (name, 115 :: rest) =>
      if name.isEmpty then none
      else return (← value (Text.lower name)) ++ (← replaceReferences value fuel rest)
    | _ => none
  | _, 37 :: _ => none
  | fuel + 1, p :: rest => (replaceReferences value fuel rest).map (p :: ·)

def expand (values : List (Text × Text)) : Nat → Text → Option Text
  | 0, _ => none
  | depth + 1, t =>
    replaceReferences (fun name => do
      let v ← values.lookup name
      if v.contains 37 then expand values depth v else some v) t.length t

def depth : Nat := 10

def options? (sections : List Section) (name : Text) : Option (List (Text × Text)) := do
  let own ← sections.find? fun s => s.name == name
  let defaults := (sections.find? fun s => s.name == defaultName).elim [] Section.options
  let values := (own.options.foldl (fun acc (o, ls) =>
    if acc.any (·.1 == o) then acc.map fun e => if e.1 == o then (o, ls) else e else acc ++ [(o, ls)])
    defaults).map fun (o, ls) => (o, joined ls)
  values.mapM fun (o, v) => do return (o, ← expand values depth v)

def read? (section_ : Text) (content : List Char) : Option (List (Text × Text)) := do
  options? (← sections? ((Source.splitLines (Source.unifyLineEnds content)).map Text.ofChars)) section_

end SourceAudit.Ini
