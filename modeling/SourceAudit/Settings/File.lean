import SourceAudit.Data.Toml
import SourceAudit.Settings.Basic
import SourceAudit.Yaml.Content

/-! Settings from the bytes of a file. The ending of its name tells the format. -/

namespace SourceAudit.Settings

def refuseFile {α : Type} (path : String) : Loading α := do
  Loading.say (alert "config parse error")
  throw (.malformed path)

def tableEntry (key : String) : Value → Answer Value
  | .dict es => .ok ((Value.lookup (.str key) es).getD (.dict []))
  | _ => .error .missingAttribute

/-- The block for this program in a file that programs share. -/
def sharedContent (path : String) (b : Bytes) : Loading Value := do
  let some cs := Utf8.decode? b | throw (.fault .undecodable)
  match Toml.read? (Text.ofChars cs) with
  | none => refuseFile path
  | some v => Loading.ofAnswer do tableEntry "bandit" (← tableEntry "tool" v)

def ownContent (path : String) (b : Bytes) : Loading Value := do
  let some cs := Utf8.decode? b | refuseFile path
  match Yaml.read (Text.ofChars cs) with
  | .ok v => return v
  | .error .malformed => refuseFile path
  | .error (.fault f) => throw (.fault f)

def ofFile (path : String) (b : Bytes) : Loading Settings := do
  let content ← if path.endsWith ".toml" then sharedContent path b else ownContent path b
  ofContent path content

end SourceAudit.Settings
