import SourceAudit.Text.Basic

/-! The files and folders that a run can see, and the dotted names of modules in them. -/

namespace SourceAudit

namespace Path

def isAbsolute (path : String) : Bool := path.startsWith "/"

/-- A path continued by another one, which wins when it starts at the root. -/
def join (head tail : String) : String :=
  if isAbsolute tail then tail
  else if head.isEmpty || head.endsWith "/" then head ++ tail
  else head ++ "/" ++ tail

/-- The parts before and behind the last slash; the first loses its last slashes, if it has more. -/
def split (path : String) : String × String :=
  let cs := path.toList.reverse
  let tail := (cs.takeWhile (· != '/')).reverse
  let head := cs.dropWhile (· != '/')
  let bare := head.dropWhile (· == '/')
  let head := if bare.isEmpty then head else bare
  (String.ofList head.reverse, String.ofList tail)

/-- The name of a file without its last extension; dots in front of the name make no extension. -/
def stem (name : String) : String :=
  match Segments.cutLast '.' name.toList with
  | some (before, _) => if before.all (· == '.') then name else String.ofList before
  | none => name

def steps (path : String) : List String := (splitString '/' path).filter fun s => !(s.isEmpty || s == ".")

def settle (steps : List String) : List String :=
  (steps.foldl (fun acc s => if s == ".." then acc.tail else s :: acc) []).reverse

def absoluteSteps (home path : String) : List String :=
  settle (steps (if isAbsolute path then path else join home path))

def root (path : String) : String :=
  if path.startsWith "//" && !path.startsWith "///" then "//" else "/"

def absolute (home path : String) : String :=
  root (if isAbsolute path then path else home) ++ joinStrings "/" (absoluteSteps home path)

def commonLength : List String → List String → Nat
  | a :: as, b :: bs => if a == b then commonLength as bs + 1 else 0
  | _, _ => 0

def relative (home path : String) : String :=
  let start := absoluteSteps home home
  let target := absoluteSteps home path
  let common := commonLength start target
  let way := List.replicate (start.length - common) ".." ++ target.drop common
  if way.isEmpty then "." else joinStrings "/" way

end Path

/-- A place in the tree: the names on the way from the root. -/
abbrev Place := List String

structure FileTree where
  /-- The folder from which relative paths start. -/
  home : Place := []
  files : List (Place × Bytes) := []
  folders : List Place := []
  /-- Files that cannot be opened although they are there, each with the reason. -/
  barred : List (Place × String) := []

inductive OpenError where
  | missing
  | isFolder
  | notFolder
  /-- The system has a reason of its own. -/
  | refused (why : String)
  deriving DecidableEq, Repr

abbrev Input := Except OpenError Bytes

def OpenError.message : OpenError → String
  | .missing => "No such file or directory"
  | .isFolder => "Is a directory"
  | .notFolder => "Not a directory"
  | .refused why => why

namespace FileTree

def above (p : Place) : List Place := (List.range p.length).map fun n => p.take n

def addFolder (p : Place) (t : FileTree) : FileTree :=
  let folders := (above p ++ [p]).foldl (fun acc q => if acc.contains q then acc else acc ++ [q]) t.folders
  { t with folders }

def addFile (p : Place) (content : Bytes) (t : FileTree) : FileTree :=
  let t := t.addFolder p.dropLast
  { t with files := t.files.filter (fun f => f.1 != p) ++ [(p, content)] }

def removeFolder (p : Place) (t : FileTree) : FileTree :=
  { t with
    files := t.files.filter fun f => !p.isPrefixOf f.1
    folders := t.folders.filter fun f => !p.isPrefixOf f }

def hasFolder (t : FileTree) (p : Place) : Bool := t.folders.contains p

def contentAt? (t : FileTree) (p : Place) : Option Bytes := t.files.lookup p

/-- Goes one step from a folder; one step up is possible from folders only. -/
def step (t : FileTree) (p : Place) (s : String) : Except OpenError Place :=
  if t.hasFolder p then .ok (if s == ".." then p.dropLast else p ++ [s])
  else if (t.contentAt? p).isSome then .error .notFolder
  else .error .missing

def place (t : FileTree) (path : String) : Except OpenError Place :=
  if path.isEmpty then .error .missing
  else (Path.steps path).foldlM t.step (if Path.isAbsolute path then [] else t.home)

/-- The place for a new file; the last step need not exist yet. -/
def placeFor (t : FileTree) (path : String) : Place :=
  (Path.steps path).foldl (fun p s => if s == ".." then p.dropLast else p ++ [s])
    (if Path.isAbsolute path then [] else t.home)

def namesFolder (path : String) : Bool :=
  match (splitString '/' path).getLast? with
  | some last => last.isEmpty || last == "." || last == ".."
  | none => false

def isFolder (t : FileTree) (path : String) : Bool :=
  match t.place path with
  | .ok p => t.hasFolder p
  | .error _ => false

def isFile (t : FileTree) (path : String) : Bool :=
  match t.place path with
  | .ok p => (t.contentAt? p).isSome && !namesFolder path
  | .error _ => false

def read (t : FileTree) (path : String) : Except OpenError Bytes := do
  let p ← t.place path
  if t.hasFolder p then throw .isFolder
  match t.contentAt? p with
  | some b =>
    if namesFolder path then throw .notFolder
    match t.barred.lookup p with
    | some why => throw (.refused why)
    | none => return b
  | none => throw .missing

def sorted (names : List String) : List String := names.mergeSort fun a b => a ≤ b

def fileNames (t : FileTree) (p : Place) : List String :=
  sorted (t.files.filterMap fun (q, _) => if q.dropLast == p then q.getLast? else none)

def folderNames (t : FileTree) (p : Place) : List String :=
  sorted (t.folders.filterMap fun q => if q.dropLast == p then q.getLast? else none)

def walkFrom (t : FileTree) : Nat → String → Place → List (String × List String)
  | 0, _, _ => []
  | fuel + 1, path, p =>
    (path, t.fileNames p) ::
      (t.folderNames p).flatMap fun name => walkFrom t fuel (Path.join path name) (p ++ [name])

/-- The folders below a path; none when it leads to no folder. -/
def walk (t : FileTree) (path : String) : List (String × List String) :=
  match t.place path with
  | .ok p => if t.hasFolder p then t.walkFrom (t.folders.length + 1) path p else []
  | .error _ => []

def withFolder {α : Type} (p : Place) (run : FileTree → FileTree × α) (t : FileTree) : FileTree × α :=
  let (t, a) := run (t.addFolder p)
  (t.removeFolder p, a)

end FileTree

inductive ModuleNameError where
  | invalid (path : String)
  | endless
  deriving DecidableEq, Repr

def ModuleNameError.message : ModuleNameError → String
  | .invalid path => "Invalid python file path: \"" ++ path ++ "\" Missing path or file name"
  | .endless => ""

def packagesAround (isFile : String → Bool) : Nat → String → List String → Except ModuleNameError (List String)
  | 0, _, _ => .error .endless
  | fuel + 1, folder, names =>
    if ["/", ".", ""].contains folder then .ok names
    else if isFile (Path.join folder "__init__.py") then
      let (head, tail) := Path.split folder
      packagesAround isFile fuel head (tail :: names)
    else .ok names

def moduleName (isFile : String → Bool) (path : String) : Except ModuleNameError String := do
  let (head, tail) := Path.split path
  if head.isEmpty || tail.isEmpty then throw (.invalid path)
  let names ← packagesAround isFile (path.length + 1) head [Path.stem tail]
  return joinStrings "." names

end SourceAudit
