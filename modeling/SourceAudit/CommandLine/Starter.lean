import SourceAudit.CommandLine.Arguments
import SourceAudit.CommandLine.Command

/-! The command that writes a settings file to start from. -/

namespace SourceAudit.CommandLine

/-- Shows a message at once; those that matter are noted as well. -/
def announce (form : Level → Text → Text) (level : Level) (text : Text) : Command Unit := do
  Command.print (Log.line (form level text))
  if level == .warning || level == .error then Command.say ⟨level, text⟩

def levelColumn (width : Nat) (level : Level) : Text :=
  let name : Text := level.name
  List.replicate (width - name.length) 32 ++ name

namespace Starter

inductive StarterFlag where
  | help
  | showDefaults
  | out
  | tests
  | skips
  deriving DecidableEq, Repr

def flags : List (Flag StarterFlag) := [
  ⟨.help, ["-h", "--help"], .nothing⟩,
  ⟨.showDefaults, ["--show-defaults"], .nothing⟩,
  ⟨.out, ["-o", "--out"], .one⟩,
  ⟨.tests, ["-t", "--tests"], .one⟩,
  ⟨.skips, ["-s", "--skip"], .one⟩]

structure StarterOptions where
  showDefaults : Bool := false
  out : String := ""
  tests : String := ""
  skips : String := ""

def programName : String := "bandit-config-generator"

def help : Text := "usage: " ++ Text.ofString programName ++ Log.line " [-h] [--show-defaults] [-o OUTPUT_FILE] [-t TESTS] [-s SKIPS]"

def carryOut (o : StarterOptions) : List (Request StarterFlag) → Command StarterOptions
  | [] => return o
  | .refused :: _ => Command.stop 2
  | .targets _ :: rest => carryOut o rest
  | .flag flag argument :: rest => do
    let argument := argument.getD ""
    match flag with
    | .help =>
      Command.print help
      Command.stop 0
    | .showDefaults => carryOut { o with showDefaults := true } rest
    | .out => carryOut { o with out := argument } rest
    | .tests => carryOut { o with tests := argument } rest
    | .skips => carryOut { o with skips := argument } rest

def message (level : Level) (text : Text) : Text := "[" ++ levelColumn 5 level ++ "]: " ++ text

def treeOf : Value → Yaml.Tree
  | .bool b => .word (if b then "true" else "false")
  | .int n => .word (toString n)
  | .text t => .text t
  | .list items => .list none (trees items)
  | .dict entries =>
    .dict ((namedTrees entries).mergeSort fun a b => a.1.toStringLossy ≤ b.1.toStringLossy)
  | _ => .word "null"
where
  trees : List Value → List Yaml.Tree
    | [] => []
    | v :: rest => treeOf v :: trees rest
  namedTrees : Fields → List (Text × Yaml.Tree)
    | [] => []
    | (k, v) :: rest => (k.display, treeOf v) :: namedTrees rest

def sections : Fields := Catalogue.rules.filterMap fun r => r.settings.map fun (_, v) => (Value.str r.name, v)

def defaults : Text := Yaml.render (treeOf (.dict sections))

def testList : List String :=
  let entry (id name : String) : String := "# " ++ id ++ " : " ++ name
  (Catalogue.rules.map (fun r => entry r.id r.name) ++ Banned.all.map fun b => entry b.id b.name).mergeSort
    fun a b => a ≤ b

def choice (name : String) (ids : List String) : Text :=
  if ids.isEmpty then name ++ ":" else name ++ ": " ++ (Value.list (ids.map .str)).render

def content (call : String) (tests skips : List String) : Text :=
  "
### Bandit config file generated from:
# '" ++ Text.ofString call ++ "'

### This config may optionally select a subset of tests to run or skip by
### filling out the 'tests' and 'skips' lists given below. If no tests are
### specified for inclusion then it is assumed all tests are desired. The skips
### set will remove specific tests from the include set. This can be controlled
### using the -t/-s CLI options. Note that the same test ID should not appear
### in both 'tests' and 'skips', this would be nonsensical and is detected by
### Bandit at runtime.

# Available tests:
" ++ Text.ofString ("\n".intercalate testList) ++ "

# (optional) list included test IDs here, eg '[B101, B406]':
" ++ choice "tests" tests ++ "

# (optional) list skipped test IDs here, eg '[B101, B406]':
" ++ choice "skips" skips ++ "

### (optional) plugin settings - some test plugins require configuration data
### that may be given here, per-plugin. All bandit test plugins have a built in
### set of sensible defaults and these will be used if no configuration is
### provided. It is not necessary to provide settings for every (or any) plugin
### if the defaults are acceptable.

" ++ defaults ++ "
"

def idsIn (t : String) : List String := if t.isEmpty then [] else splitString ',' t

def unknown? (tests skips : List String) : Option (String × String) :=
  let find (list : String) (ids : List String) : Option (String × String) :=
    (ids.find? fun id => !Catalogue.isKnown id).map fun id => (list, id)
  (find "skips" skips).orElse fun _ => find "tests" tests

def isTaken (t : FileTree) (path : String) : Bool :=
  let p := t.placeFor path
  t.hasFolder p || (t.contentAt? p).isSome

/-- Writes the settings file; one that exists is left alone. -/
def writeFile (o : StarterOptions) (call : String) : Command Unit := do
  if isTaken (← get).files o.out then
    announce message .error ("File " ++ Text.ofString o.out ++ " already exists, exiting")
    Command.stop 2
  if !(← Command.create o.out) then
    announce message .error ("Unable to open " ++ Text.ofString o.out ++ " for writing")
    return
  let tests := idsIn o.tests
  let skips := idsIn o.skips
  match unknown? tests skips with
  | some (list, id) => announce message .error (Text.ofString ("Error: unknown ID in " ++ list ++ ": " ++ id))
  | none =>
    Command.write o.out ((Utf8.encodeText? (content call tests skips)).getD [])
    announce message .info ("Successfully wrote profile: " ++ Text.ofString o.out)

end Starter

def starter (args : List String) : Command Unit := do
  let o ← Starter.carryOut {} (Request.ofStrings Starter.flags .none true args)
  if o.out.isEmpty && !o.showDefaults then
    Command.print Starter.help
    Command.stop 1
  if o.showDefaults then Command.print (Log.line Starter.defaults)
  if !o.out.isEmpty then Starter.writeFile o (" ".intercalate (Starter.programName :: args))

end SourceAudit.CommandLine
