import SourceAudit.Report.Output

/-! Commands: they read and write files, show text, say things, and end. -/

namespace SourceAudit

inductive Ending where
  | exit (code : Nat)
  | fault (f : Fault)
  | unreported (e : ReportError)
  /-- The command goes on for ever. -/
  | endless
  deriving DecidableEq, Repr

/-- All that a command can see and change. -/
structure Console where
  files : FileTree
  input : Bytes := []
  now : Moment
  shown : Text := []
  log : Log := []

/-- Steps of a command; what they have done stays done when one of them ends it. -/
abbrev Command := EStateM Ending Console

namespace Command

def stop {α : Type} (code : Nat) : Command α := throw (.exit code)

def ofAnswer {α : Type} : Answer α → Command α
  | .ok a => pure a
  | .error f => throw (.fault f)

def say (m : Message) : Command Unit := modify fun c => { c with log := c.log ++ [m] }

def sayAll (log : Log) : Command Unit := modify fun c => { c with log := c.log ++ log }

def print (t : Text) : Command Unit := modify fun c => { c with shown := c.shown ++ t }

def read (path : String) : Command (Except OpenError Bytes) := return (← get).files.read path

/-- Makes a file empty, or a new one; false if that is not possible. -/
def create (path : String) : Command Bool := do
  let t := (← get).files
  match t.place path with
  | .ok p =>
    if t.hasFolder p || !t.hasFolder p.dropLast || FileTree.namesFolder path then return false
    modify fun c => { c with files := c.files.addFile p [] }
    return true
  | .error _ => return false

def write (path : String) (b : Bytes) : Command Unit :=
  modify fun c => { c with files := c.files.addFile (c.files.placeFor path) b }

def run (command : Command Unit) (c : Console) : Ending × Console :=
  match EStateM.run command c with
  | .ok _ c => (.exit 0, c)
  | .error e c => (e, c)

end Command

end SourceAudit
