import SourceAudit.Rule.Banned
import SourceAudit.Rule.Bidirectional
import SourceAudit.Rule.Crypto
import SourceAudit.Rule.Execution
import SourceAudit.Rule.FileSystem
import SourceAudit.Rule.MarkSafe
import SourceAudit.Rule.Password
import SourceAudit.Rule.Shell
import SourceAudit.Rule.Sql
import SourceAudit.Rule.Template
import SourceAudit.Rule.Transport

/-! All rules, in the order in which they run, the names under which they are known, and which of them a profile chooses. -/

namespace SourceAudit

def version : String := "1.8.1.dev5"

end SourceAudit

namespace SourceAudit.Catalogue

open Rule

/-- The rules that look for more than banned names, sorted by name. -/
def rules : List Rule := [
  otherFunctionWithShell, assertUsed, djangoExtra, djangoMarkSafe, djangoRawSql, execUsed, flaskDebugTrue,
  bindAllInterfaces, hardcodedPasswordDefault, hardcodedPasswordFuncarg, hardcodedPasswordString,
  hardcodedSql, hardcodedTmpDirectory, insecureHash, jinjaAutoescape, wildcardInjection, loggingListen,
  paramikoCalls, pytorchLoadSave, noCertValidation, requestWithoutTimeout, badFilePermissions,
  snmpInsecureVersion, snmpWeakCryptography, noHostKeyVerification, sslWithBadDefaults,
  sslWithBadVersion, sslWithNoVersion, processWithShell, processWithoutShell, processWithPartialPath,
  popenWithShell, subprocessWithoutShell, tarfileUnsafeMembers, trojanSource, tryExceptContinue,
  tryExceptPass, makoTemplates, weakKey, yamlLoad]

def blacklistId : String := "B001"

def ruleOf? (id : String) : Option Rule := rules.find? fun r => r.id == id

def bannedOf? (id : String) : Option Banned := Banned.all.find? fun b => b.id == id

def isKnown (id : String) : Bool := (ruleOf? id).isSome || (bannedOf? id).isSome || id == blacklistId

def idOf? (name : String) : Option String :=
  ((rules.find? fun r => r.name == name).map Rule.id).orElse fun _ =>
    (Banned.all.find? fun b => b.name == name).map Banned.id

def manual : String := "https://bandit.readthedocs.io/en/" ++ version ++ "/"

/-- The part of the manual's page on banned functions that covers several of them together. -/
def sharedSection (b : Banned) : String × String :=
  let name := b.name.map fun c => if c == '_' then '-' else c
  if ["B304", "B305"].contains b.id then ("b304-b305", "ciphers-and-modes")
  else if ["B313", "B314", "B315", "B316", "B317", "B318", "B319", "B320"].contains b.id then
    ("b313-b320", name)
  else (b.id, name)

def link (id : String) : String :=
  match ruleOf? id with
  | some r => manual ++ "plugins/" ++ lowerString id ++ "_" ++ r.testName ++ ".html"
  | none =>
    match bannedOf? id with
    | some b =>
      let kind := if b.id.startsWith "B3" then "calls" else "imports"
      let (id, name) := sharedSection b
      manual ++ lowerString ("blacklists/blacklist_" ++ kind ++ ".html#" ++ id ++ "-" ++ name)
    | none => manual

end SourceAudit.Catalogue

namespace SourceAudit

/-- A choice of rules. `blacklist` holds data that take the place of the built-in banned names, if any. -/
structure Profile where
  includes : List Text := []
  excludes : List Text := []
  blacklist : Value := .null

namespace Profile

def idsOf (v : Value) : Answer (List Text) := do
  let items ← v.items
  if items.all Value.hashable then return items.map Value.display else throw .wrongKind

def ofValue (v : Value) : Answer Profile := do
  if !v.truthy then return {}
  let includes ← idsOf (← v.entryD "include" (.list []))
  let excludes ← idsOf (← v.entryD "exclude" (.list []))
  let blacklist ← v.entryD "blacklist" .null
  return { includes, excludes, blacklist }

def bannedIds : List Text := Banned.all.map fun b => (b.id : Text)

/-- The rule for all banned things stands for them, unless some of them are named as well. -/
def spellOut (ids : List Text) : List Text :=
  if ids.contains Catalogue.blacklistId then
    let named := ids.filter (· != (Catalogue.blacklistId : Text))
    if ids.any bannedIds.contains then named else named ++ bannedIds
  else ids

def allIds : List Text := Catalogue.rules.map (fun r => (r.id : Text)) ++ [(Catalogue.blacklistId : Text)] ++ bannedIds

def selected (p : Profile) : List Text :=
  let includes := spellOut p.includes
  let excludes := spellOut p.excludes
  (if includes.isEmpty then allIds else includes).filter fun id => !excludes.contains id

/-- The data on banned names, by kind of place; kinds without any are left out. -/
def bannedData (p : Profile) : Value :=
  if p.blacklist.truthy then p.blacklist
  else
    let ids := p.selected
    .dict (Banned.byCheck.filterMap fun (check, bs) =>
      let kept := bs.filter fun b => ids.contains b.id
      if kept.isEmpty then none else some (.str check, .list (kept.map Banned.record)))

end Profile

inductive ProfileError where
  | unknownTest (test : Text)
  | contradiction (tests : List Text)
  | fault (f : Fault)
  deriving DecidableEq, Repr

namespace ProfileError

def message : ProfileError → Text
  | unknownTest test => "Unknown test found in profile: " ++ test
  | contradiction tests => "Non-exclusive include/exclude test sets: " ++ (Value.set (tests.map .text)).render
  | fault _ => []

def ofAnswer {α : Type} : Answer α → Except ProfileError α
  | .ok a => .ok a
  | .error f => .error (.fault f)

end ProfileError

namespace Profile

def checkTests (tests : List Value) : Except ProfileError Unit :=
  tests.forM fun test => do
    if !test.hashable then throw (.fault .wrongKind)
    let known := match test with
      | .text t => Catalogue.isKnown t.toStringLossy
      | _ => false
    if !known then throw (.unknownTest test.display)

/-- Whether the record of a profile can be used: all tests are known, and none is in both lists. -/
def check (record : Value) : Except ProfileError Unit := do
  let included ← ProfileError.ofAnswer (do (← record.entry "include").items)
  checkTests included
  let excluded ← ProfileError.ofAnswer (do (← record.entry "exclude").items)
  checkTests excluded
  let both := (included.map Value.display).eraseDups.filter (excluded.map Value.display).contains
  if !both.isEmpty then throw (.contradiction both)

end Profile

structure ActiveRule where
  rule : Rule
  settings : Value := .null

abbrev RuleSet := List ActiveRule

namespace RuleSet

def forCheck (rs : RuleSet) (check : String) : List ActiveRule := rs.filter fun r => r.rule.checks.contains check

def banned (data : Value) : Answer RuleSet :=
  if data.truthy then
    match data with
    | .dict entries =>
      .ok [{ rule := Rule.blacklist (entries.map fun e => e.1.display.toStringLossy), settings := data }]
    | _ => .error .missingAttribute
  else .ok []

def configure (option : String → Answer Value) (r : Rule) : Answer ActiveRule :=
  match r.settings with
  | none => .ok { rule := r }
  | some (block, defaults) => do
    match ← option block with
    | .null => return ⟨r, defaults⟩
    | v => return ⟨r, v⟩

/-- The rules of a profile. `option` looks up blocks of settings; null stands for a block that is not
given. -/
def ofProfile (p : Profile) (option : String → Answer Value) : Answer RuleSet := do
  let ids := p.selected
  let banned ← banned p.bannedData
  let active ← (Catalogue.rules.filter fun r => ids.contains r.id).mapM (configure option)
  return active ++ banned

end RuleSet

end SourceAudit
