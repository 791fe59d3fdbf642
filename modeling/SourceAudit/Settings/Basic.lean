import SourceAudit.Log
import SourceAudit.Rule.Catalogue

/-! Settings of a run. Older files are brought up to date when they are loaded. -/

namespace SourceAudit

inductive SettingsError where
  | unreadable (path : String)
  | malformed (path : String)
  /-- A test of the older form is chosen, but its data are missing. -/
  | dataMissing (path test : String)
  | noProfile (path name : String)
  | fault (f : Fault)
  deriving DecidableEq, Repr

def SettingsError.message : SettingsError → String
  | unreadable path => path ++ " : Could not read config file."
  | malformed path => path ++ " : Error parsing file."
  | dataMissing path test =>
    path ++ " : Config file has an include or exclude reference to legacy test '" ++ test ++
      "' but no configuration data for it. Configuration data is required for this test. " ++
      "Please consider switching to the new config file format, the tool 'bandit-config-generator' " ++
      "can help you with this."
  | noProfile path name => "Unable to find profile (" ++ name ++ ") in config file: " ++ path
  | fault _ => ""

/-- Steps of loading settings; messages stay when a step fails. -/
abbrev Loading := EStateM SettingsError Log

namespace Loading

def ofAnswer {α : Type} : Answer α → Loading α
  | .ok a => pure a
  | .error f => throw (.fault f)

def say (m : Message) : Loading Unit := modify (· ++ [m])

end Loading

structure Settings where
  content : Value

namespace Settings

def standard : Settings :=
  ⟨.dict [(.str "plugin_name_pattern", .str "*.py"), (.str "include", .list [.str "*.py", .str "*.pyw"])]⟩

def follow : List String → Value → Answer Value
  | [], v => .ok v
  | level :: rest, v => do
    if v.truthy then
      if ← v.holds (.str level) then follow rest (← v.entry level) else return .null
    else return .null

def option (s : Settings) (name : String) : Answer Value := follow (splitString '.' name) s.content

def namePattern (s : Settings) : Answer Value := do
  let v ← s.option "plugin_name_pattern"
  return if v.truthy then v else .str "*.py"

def setting (s : Settings) (name : String) : Answer Value :=
  if name == "plugin_name_pattern" then s.namePattern else .ok .null

/-! ### Older files -/

def profilePart (key : String) : Value → Answer Value
  | .dict es =>
    let v := (Value.lookup (.str key) es).getD .null
    .ok (if v.truthy then v else .set [])
  | _ => .error .missingAttribute

def needsData (path : String) (content included excluded : Value) (test block : String) :
    Loading Unit := do
  let chosen ← Loading.ofAnswer do
    if ← included.holds (.str test) then return true else excluded.holds (.str test)
  if chosen && ((content.get? block).getD .null matches .null) then throw (.dataMissing path test)

def validate (path : String) (content : Value) : Loading Unit := do
  if ← Loading.ofAnswer (content.holds (.str "profiles")) then
    match ← Loading.ofAnswer (content.entry "profiles") with
    | .dict profiles =>
      profiles.forM fun (_, profile) => do
        let included ← Loading.ofAnswer (profilePart "include" profile)
        let excluded ← Loading.ofAnswer (profilePart "exclude" profile)
        needsData path content included excluded "blacklist_imports" "blacklist_imports"
        needsData path content included excluded "blacklist_import_func" "blacklist_imports"
        needsData path content included excluded "blacklist_calls" "blacklist_calls"
      Loading.say (warning ("Config file '" ++ path ++ "' contains deprecated legacy config data. " ++
        "Please consider upgrading to the new config format. The tool 'bandit-config-generator' " ++
        "can help you with this. Support for legacy configs will be removed in a future " ++
        "bandit version."))
    | _ => throw (.fault .missingAttribute)

def testId (v : Value) : Answer Value :=
  match v with
  | .text t => .ok ((Catalogue.idOf? t.toStringLossy).elim v Value.str)
  | v => if v.hashable then .ok v else .error .wrongKind

def testIds (v : Value) : Answer Value := do
  return Value.setOf (← (← v.items).mapM testId)

def profilesById (content : Value) : Answer (List (Value × Value × Value)) := do
  match ← follow ["profiles"] content with
  | .dict profiles =>
    profiles.mapM fun (name, profile) => do
      return (name, ← testIds (← profilePart "include" profile),
        ← testIds (← profilePart "exclude" profile))
  | v => if v.truthy then throw .missingAttribute else return []

def renamePlaceholder (placeholder : String) (record : Fields) : Answer Fields :=
  match Value.lookup (.str "message") record with
  | none => .error .missingKey
  | some (.text t) => .ok (Value.put (.str "message") (.text (Segments.replace placeholder "\x7bname\x7d" t)) record)
  -- bytes and days can be replaced in, but not a text in them
  | some (.bytes _) | some (.stamp _) => .error .wrongKind
  | some _ => .error .missingAttribute

def updateFunctions (record : Fields) : Answer Fields := renamePlaceholder "\x7bfunc\x7d" record

def updateModules (record : Fields) : Answer Fields := do
  let record ← renamePlaceholder "\x7bmodule\x7d" record
  match Value.lookup (.str "imports") record with
  | none => throw .missingKey
  | some names =>
    return (Value.put (.str "qualnames") names record).filter fun e => !e.1.equals (.str "imports")

def updateGroup (update : Fields → Answer Fields) (group : Value) : Answer Fields :=
  match group with
  | .dict es => es.mapM fun (name, record) =>
    match record with
    | .dict es => do return (name, .dict (← update (Value.put (.str "name") name es)))
    | _ => .error .wrongKind
  | _ => .error .missingAttribute

/-- Brings a block of data on banned names up to date; gives the new block and its records. -/
def updateBlock (content : Value) (block list : String)
    (update : Fields → Answer Fields) :
    Answer (Option Value × List Value) := do
  let v ← follow [block] content
  if !v.truthy then return (none, [])
  match v with
  | .dict es =>
    let groups ← ((Value.lookup (.str list) es).getD (.dict [])).items
    let groups ← groups.mapM (updateGroup update)
    let records := groups.flatMap fun g => g.map Prod.snd
    if groups.isEmpty then return (none, [])
    return (some (.dict (Value.put (.str list) (.list (groups.map .dict)) es)), records)
  | _ => throw .missingAttribute

def unify (name : String) (set : List Value) : List Value :=
  if set.any (·.equals (.str name)) then
    let rest := set.filter fun v => !v.equals (.str name)
    if rest.any (·.equals (.str Catalogue.blacklistId)) then rest
    else rest ++ [.str Catalogue.blacklistId]
  else set

def profileRecord (imports calls : List Value) (included excluded : Value) : Value :=
  let set : Value → List Value | .set vs => vs | _ => []
  let has (name : String) (vs : List Value) : Bool := vs.any (·.equals (.str name))
  let inc := set included
  let exc := set excluded
  let onCalls := has "blacklist_calls" inc && !has "blacklist_calls" exc
  let onImports := has "blacklist_imports" inc && !has "blacklist_imports" exc
  let clean (vs : List Value) : List Value :=
    unify "blacklist_import_func" (unify "blacklist_imports" (unify "blacklist_calls" vs))
  let forCalls := (if onCalls then calls else []) ++ (if onImports then imports else [])
  let data := (if onCalls then [("Call", forCalls)] else []) ++
    (if onImports then [("Import", imports), ("ImportFrom", imports)] else []) ++
    (if onImports && !onCalls then [("Call", forCalls)] else [])
  let inc := clean inc
  let exc := clean exc
  let both := has Catalogue.blacklistId inc && has Catalogue.blacklistId exc
  let exc := if both then exc.filter fun v => !v.equals (.str Catalogue.blacklistId) else exc
  .dict [(.str "include", .set inc), (.str "exclude", .set exc),
    (.str "blacklist", .dict (data.map fun (check, records) => (.str check, .list records)))]

def putSome (key : String) (v : Option Value) (es : Fields) : Fields :=
  match v with
  | some v => Value.put (.str key) v es
  | none => es

def modernize (content : Value) : Loading Value := do
  let profiles ← Loading.ofAnswer (profilesById content)
  let (callBlock, calls) ← Loading.ofAnswer
    (updateBlock content "blacklist_calls" "bad_name_sets" updateFunctions)
  let (importBlock, imports) ← Loading.ofAnswer
    (updateBlock content "blacklist_imports" "bad_import_sets" updateModules)
  if !calls.isEmpty || !imports.isEmpty then
    Loading.say (warning "Legacy blacklist data found in config, overriding data plugins")
  match content with
  | .dict es =>
    let es := putSome "blacklist_imports" importBlock (putSome "blacklist_calls" callBlock es)
    if profiles.isEmpty then return .dict es
    -- the lists come in the other order here: the data for calls serve the tests on imports, and vice versa
    let records := profiles.map fun (name, inc, exc) => (name, profileRecord calls imports inc exc)
    return .dict (Value.put (.str "profiles") (.dict records) es)
  | v => return v

def ofContent (path : String) (content : Value) : Loading Settings := do
  validate path content
  match content with
  | .dict _ => return ⟨← modernize content⟩
  | _ => throw (.malformed path)

def profile (s : Settings) (name path : String) : Except SettingsError Value := do
  let lift {α : Type} : Answer α → Except SettingsError α
    | .ok a => .ok a
    | .error f => .error (.fault f)
  if name.isEmpty then
    let ids (key : String) : Answer Value := do
      let v ← s.option key
      let items ← if v.truthy then v.items else pure []
      if items.all Value.hashable then return Value.setOf items else throw .wrongKind
    return .dict [(.str "include", ← lift (ids "tests")), (.str "exclude", ← lift (ids "skips"))]
  else
    match ← lift (s.option "profiles") with
    | .dict es =>
      match Value.lookup (.str name) es with
      | none | some .null => throw (.noProfile path name)
      | some v => return v
    | v => if v.truthy then throw (.fault .missingAttribute) else throw (.noProfile path name)

end Settings

end SourceAudit
