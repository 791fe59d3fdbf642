import SourceAudit.Rule.Basic

/-! Processes that are started, with or without a shell. The functions that start them are settings. -/

namespace SourceAudit.Rule

def subprocessFunctions : List String :=
  ["subprocess.Popen", "subprocess.call", "subprocess.check_call", "subprocess.check_output", "subprocess.run"]

def shellFunctions : List String :=
  ["os.system", "os.popen", "os.popen2", "os.popen3", "os.popen4", "popen2.popen2", "popen2.popen3",
    "popen2.popen4", "popen2.Popen3", "popen2.Popen4", "commands.getoutput",
    "commands.getstatusoutput", "subprocess.getoutput", "subprocess.getstatusoutput"]

def noShellFunctions : List String :=
  ["os.execl", "os.execle", "os.execlp", "os.execlpe", "os.execv", "os.execve", "os.execvp",
    "os.execvpe", "os.spawnl", "os.spawnle", "os.spawnlp", "os.spawnlpe", "os.spawnv", "os.spawnve",
    "os.spawnvp", "os.spawnvpe", "os.startfile"]

def shellSettings : Value :=
  .dict [(.str "subprocess", namesValue subprocessFunctions), (.str "shell", namesValue shellFunctions),
    (.str "no_shell", namesValue noShellFunctions)]

def shellRule (id name : String) (run : Context → Value → Answer (Option Issue)) : Rule :=
  configured id name "Call" "shell_injection" shellSettings run

def calls (c : Context) (settings : Value) (key : String) : Answer Bool := do
  (← settings.entry key).holds c.qualnameValue

def asksForShell : Node → Bool
  | .constant _ (.int n) => n != 0
  | .constant _ (.float x) => !x.isZero
  | .constant _ (.imaginary x) => !x.isZero
  | .list _ elts _ => !elts.isEmpty
  | .dict _ keys _ => !keys.isEmpty
  | .constant _ .none => false
  | .constant _ (.bool b) => b
  | _ => true

/-- Whether the call asks for a shell; the last `shell` argument counts. -/
def hasShell (c : Context) : Answer Bool := do
  let (_, keywords) ← c.callParts
  let given ← c.keywordsOr .wrongKind
  if (Value.lookup (.str "shell") given).isNone then return false
  return keywords.foldl (fun result k => match k with
    | .keyword _ arg value => if arg == some "shell" then asksForShell value else result
    | _ => result) false

def firstArgIsText (c : Context) : Answer Bool := do
  let (args, _) ← c.callParts
  match args with
  | a :: _ => return a.isText
  | [] => throw .outOfRange

def popenWithShell : Rule :=
  shellRule "B602" "subprocess_popen_with_shell_equals_true" fun c settings => do
    if !settings.truthy then return none
    if !(← calls c settings "subprocess") then return none
    if !(← hasShell c) then return none
    if (← c.callArgs).isEmpty then return none
    if ← firstArgIsText c then
      return some (finding .low .high 78
        ("subprocess call with shell=True seems safe, but may be changed in the future, consider " ++
          "rewriting without shell") (c.argLine "shell"))
    else
      return some (finding .high .high 78
        "subprocess call with shell=True identified, security issue." (c.argLine "shell"))

def subprocessWithoutShell : Rule :=
  shellRule "B603" "subprocess_without_shell_equals_true" fun c settings => do
    if !settings.truthy then return none
    if !(← calls c settings "subprocess") then return none
    return reportIf (!(← hasShell c)) (finding .low .high 78
      "subprocess call - check for execution of untrusted input." (c.argLine "shell"))

def otherFunctionWithShell : Rule :=
  shellRule "B604" "any_other_function_with_shell_equals_true" fun c settings => do
    if !settings.truthy then return none
    if ← calls c settings "subprocess" then return none
    return reportIf (← hasShell c) (finding .medium .low 78
      "Function call with shell=True parameter identified, possible security issue."
      (c.argLine "shell"))

def processWithShell : Rule :=
  shellRule "B605" "start_process_with_a_shell" fun c settings => do
    if !settings.truthy then return none
    if !(← calls c settings "shell") then return none
    if (← c.callArgs).isEmpty then return none
    if ← firstArgIsText c then
      return some (finding .low .high 78
        ("Starting a process with a shell: Seems safe, but may be changed in the future, consider " ++
          "rewriting without shell"))
    else
      return some (finding .high .high 78
        "Starting a process with a shell, possible injection detected, security issue.")

def processWithoutShell : Rule :=
  shellRule "B606" "start_process_with_no_shell" fun c settings => do
    if !settings.truthy then return none
    return reportIf (← calls c settings "no_shell")
      (finding .low .medium 78 "Starting a process without a shell.")

def isRooted : Text → Bool
  | [] => false
  | p :: rest =>
    p.val == 92 || p.val == 47 || p.val == 46 ||
      (((65 ≤ p.val && p.val ≤ 90) || (97 ≤ p.val && p.val ≤ 122)) && rest.head? == some 58)

def processWithPartialPath : Rule :=
  shellRule "B607" "start_process_with_partial_path" fun c settings => do
    if !settings.truthy then return none
    if (← c.callArgs).isEmpty then return none
    if !(← anyAnswer (calls c settings) ["subprocess", "shell", "no_shell"]) then return none
    let (args, _) ← c.callParts
    let program := match args.head? with
      | some (.list _ (first :: _) _) => some first
      | other => other
    return reportIf ((program.bind Node.textOf?).any fun t => !isRooted t)
      (finding .low .high 78 "Starting a process with a partial executable path")

def commandLine : Value → Text
  | .list items => items.flatMap fun v => [32] ++ v.display
  | .text t => t
  | _ => []

def wildcardInjection : Rule :=
  shellRule "B609" "linux_commands_wildcard_injection" fun c settings => do
    if !((← settings.holds (.str "shell")) && (← settings.holds (.str "subprocess"))) then return none
    let inShell ← do
      if ← calls c settings "shell" then pure true
      else if ← calls c settings "subprocess" then c.argIs "shell" (.str "True")
      else pure false
    if !inShell then return none
    match c.callArgsCount with
    | none => throw .wrongKind
    | some 0 => return none
    | some _ =>
      let command := commandLine (← c.argAt 0)
      let names := fun (s : String) => Segments.occurs (Text.ofString s) command
      return reportIf (["chown", "chmod", "tar", "rsync"].any names && names "*")
        (finding .high .medium 155 ("Possible wildcard injection in call: " ++ c.qualnameValue.display)
          (c.argLine "shell"))

end SourceAudit.Rule
