import SourceAudit.Discovery.FileTree
import SourceAudit.Settings.Basic

/-! Which files are scanned. -/

namespace SourceAudit

structure Targets where
  files : List String := []
  excluded : List String := []
  deriving DecidableEq, Repr

namespace Targets

def fitsOne (path : String) (patterns : List Value) : Answer Bool :=
  anyAnswer (fun
    | .text p => .ok (Glob.fits p.toStringLossy path)
    | _ => .error .wrongKind) patterns

def holdsOne (path : String) (texts : List Value) : Answer Bool :=
  anyAnswer (fun
    | .text t => .ok (Segments.occurs t (path : Text))
    | _ => .error .wrongKind) texts

/-- Whether a file is scanned: it must fit a pattern to include, if asked for, and no entry to exclude. -/
def isIncluded (path : String) (include_ exclude : List Value) (mustFit : Bool) : Answer Bool := do
  let fits ← fitsOne path include_
  if !fits && mustFit then return false
  if ← fitsOne path exclude then return false
  return !(← holdsOne path exclude)

def standardPatterns : List Value := [.str "*.py"]

def below (t : FileTree) (folder : String) (include_ exclude : List Value) : Answer Targets := do
  let include_ := if include_.isEmpty then standardPatterns else include_
  let paths := (t.walk folder).flatMap fun (root, names) => names.map (Path.join root)
  let judged ← paths.mapM fun p => do return (p, ← isIncluded p include_ exclude true)
  return { files := (judged.filter Prod.snd).map Prod.fst
           excluded := (judged.filter fun j => !j.2).map Prod.fst }

def distinct (paths : List String) : List String := (FileTree.sorted paths).eraseDups

def exclusion (t : FileTree) (path : String) : Value := .str (if t.isFolder path then Path.join path "*" else path)

def patterns (v : Value) (otherwise : List Value) : Answer (List Value) :=
  if v.truthy then v.items else .ok otherwise

/-- The entries to exclude, and the settings, to whose list those of the caller are added for good. -/
def exclusions (t : FileTree) (s : Settings) (excluded : String) : Answer (List Value × Settings) := do
  let v ← s.option "exclude_dirs"
  let given := if excluded.isEmpty then [] else (splitString ',' excluded).map (exclusion t)
  if !v.truthy then return (given, s)
  if given.isEmpty then return (← v.items, s)
  match v, s.content with
  | .list xs, .dict es => return (xs ++ given, ⟨.dict (Value.put (.str "exclude_dirs") (.list (xs ++ given)) es)⟩)
  | _, _ => throw .missingAttribute

def scannedName (target : String) : String := if target == "-" then target else Path.join "." target

def ofTarget (t : FileTree) (include_ exclude : List Value) (recursive : Bool) (target : String) :
    Answer (Targets × Log) := do
  if t.isFolder target then
    if recursive then return (← below t target include_ exclude, [])
    else return ({}, [warning ("Skipping directory (" ++ target ++ "), use -r flag to scan contents")])
  else if ← isIncluded target include_ exclude false then
    return ({ files := [scannedName target] }, [])
  else return ({ excluded := [target] }, [])

def discover (t : FileTree) (include_ exclude : List Value) (recursive : Bool) (targets : List String) :
    Answer (Targets × Log) := do
  let parts ← targets.mapM (ofTarget t include_ exclude recursive)
  return ({ files := distinct (parts.flatMap fun p => p.1.files)
            excluded := distinct (parts.flatMap fun p => p.1.excluded) },
    parts.flatMap Prod.snd)

/-- The messages about targets that are passed over, up to one that cannot be judged. -/
def remarks (t : FileTree) (include_ exclude : List Value) (recursive : Bool) : List String → Log
  | [] => []
  | target :: rest =>
    match ofTarget t include_ exclude recursive target with
    | .ok (_, log) => log ++ remarks t include_ exclude recursive rest
    | .error _ => []

end Targets

end SourceAudit
