import SourceAudit.Text.Basic

/-! Messages about a run, beside its results. -/

namespace SourceAudit

inductive Level where
  | debug
  | info
  | warning
  | error
  deriving DecidableEq, Repr, Inhabited

def Level.name : Level → String
  | .debug => "DEBUG"
  | .info => "INFO"
  | .warning => "WARNING"
  | .error => "ERROR"

structure Message where
  level : Level
  text : Text
  deriving DecidableEq, Repr, Inhabited

abbrev Log := List Message

def warning (text : Text) : Message := ⟨.warning, text⟩

def alert (text : Text) : Message := ⟨.error, text⟩

def Log.line (text : Text) : Text := text ++ [10]

end SourceAudit
