import SourceAudit.CommandLine.Starter

/-! The command that compares the results for two states of a project; without a history it ends after its arguments. -/

namespace SourceAudit.CommandLine

namespace Comparison

inductive ComparisonFlag where
  | help
  | format
  deriving DecidableEq, Repr

def flags : List (Flag ComparisonFlag) := [
  ⟨.help, ["-h", "--help"], .nothing⟩,
  ⟨.format, ["-f"], .one⟩]

def formats : List String := ["txt", "html", "json"]

def terminal : String := "terminal"

def carryOut (format : String) : List (Request ComparisonFlag) → Command String
  | [] => return format
  | .refused :: _ => Command.stop 2
  | .targets _ :: rest => carryOut format rest
  | .flag .help _ :: _ => do
    Command.print (Log.line "usage: bandit-baseline [-h] [-f FORMAT] targets [targets ...]")
    Command.stop 0
  | .flag .format argument :: rest =>
    let argument := argument.getD ""
    if formats.contains argument then carryOut argument rest else Command.stop 2

def message (level : Level) (text : Text) : Text := "[" ++ levelColumn 7 level ++ " ] " ++ text

end Comparison

def comparison (args : List String) : Command Unit := do
  let format ← Comparison.carryOut Comparison.terminal
    (Request.ofStrings Comparison.flags .some false args)
  if format == Comparison.terminal then
    announce Comparison.message .info
      (Text.ofString ("No output format specified, using " ++ Comparison.terminal))
  announce Comparison.message .error "Git not available, reinstall with baseline extra"
  Command.stop 2

end SourceAudit.CommandLine
