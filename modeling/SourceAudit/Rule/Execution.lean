import SourceAudit.Discovery.Glob
import SourceAudit.Rule.Basic

/-! Code that runs what it should not, or that does not run. -/

namespace SourceAudit.Rule

/-- The parts of the name of the called function, when the module is imported; a call without one is a fault. -/
def importedParts? (c : Context) (module : String) : Answer (Option (List String)) := do
  if !c.importsExactly module && c.qualname.isSome then return none
  else return some (← c.qualnameParts)

def pytorchLoadSave : Rule :=
  plain "B614" "pytorch_load_save" "Call" fun c => do
    match ← importedParts? c "torch" with
    | none => return none
    | some parts =>
      let onCpu ← c.argIs "map_location" (.str "cpu")
      let function := parts.getLast?.getD ""
      return reportIf (parts.contains "torch" && ["load", "save"].contains function && !onCpu)
        (finding .medium .high 502 "Use of unsafe PyTorch load or save" (c.argLine "load"))

def yamlLoad : Rule :=
  plain "B506" "yaml_load" "Call" fun c => do
    match ← importedParts? c "yaml" with
    | none => return none
    | some parts =>
      let byKeyword ← ["SafeLoader", "CSafeLoader"].mapM fun l => c.argIs "Loader" (.str l)
      let second ← c.argAt 1
      let byPosition := second.equals (.str "SafeLoader") || second.equals (.str "CSafeLoader")
      let safe := byKeyword.contains true || byPosition
      if parts.contains "yaml" && parts.getLast? == some "load" && !safe then
        let line := (← c.theNode).line?.map fun (l : Nat) => (l : Int)
        return some (finding .medium .high 20
          ("Use of unsafe yaml load. Allows instantiation of arbitrary objects. Consider " ++ "yaml.safe_load().") line)
      else return none

def handlerSettings : Value := .dict [(.str "check_typed_exception", .bool false)]

/-- A handler that only does `idle`. Those of other exceptions count if the settings say so. -/
def idleHandler (id name : String) (idle : Node → Bool) (text : String) : Rule :=
  configured id name "ExceptHandler" name handlerSettings fun c settings => do
    match c.node with
    | some (.exceptHandler _ type _ body) =>
      match body with
      | [only] =>
        let typed := (← settings.entry "check_typed_exception").truthy
        let specific := match type with
          | some t => t.id? != some "Exception"
          | none => false
        if !typed && specific then return none
        else return reportIf (idle only) (finding .low .high 703 text)
      | _ => return none
    | _ => throw .missingAttribute

def tryExceptContinue : Rule :=
  idleHandler "B112" "try_except_continue" (fun | .continue _ => true | _ => false)
    "Try, Except, Continue detected."

def tryExceptPass : Rule :=
  idleHandler "B110" "try_except_pass" (fun | .pass _ => true | _ => false)
    "Try, Except, Pass detected."

def fileFits (c : Context) (pattern : Value) : Answer Bool :=
  match c.filename, pattern.text? with
  | some (.text f), some p => .ok (Glob.fits p.toStringLossy f)
  | _, _ => .error .wrongKind

def assertUsed : Rule :=
  configured "B101" "assert_used" "Assert" "assert_used" (.dict [(.str "skips", .list [])])
    fun c settings => do
      let skips ← (← settings.entryD "skips" (.list [])).items
      if ← anyAnswer (fileFits c) skips then return none
      else
        return some (finding .low .high 703
          "Use of assert detected. The enclosed code will be removed when compiling to optimised byte code.")

def execUsed : Rule :=
  plain "B102" "exec_used" "Call" fun c =>
    return reportIf (c.qualname == some "exec") (finding .medium .high 78 "Use of exec detected.")

def flaskDebugTrue : Rule :=
  plain "B201" "flask_debug_true" "Call" fun c => do
    if c.importsLike "flask" then
      if (← c.theQualname).endsWith ".run" then
        if ← c.argIs "debug" (.str "True") then
          return some (finding .high .medium 94
            ("A Flask app appears to be run with debug=True, which exposes the Werkzeug debugger and " ++
              "allows the execution of arbitrary code.") (c.argLine "debug"))
    return none

def loggingListen : Rule :=
  plain "B612" "logging_config_insecure_listen" "Call" fun c => do
    if c.qualname == some "logging.config.listen" then
      let keywords ← c.keywordsOr .wrongKind
      return reportIf ((Value.lookup (.str "verify") keywords).isNone)
        (finding .medium .high 94 "Use of insecure logging.config.listen detected.")
    else return none

end SourceAudit.Rule
