import SourceAudit.Rule.Basic

/-! Files and addresses that are open to others. -/

namespace SourceAudit.Rule

def octal (n : Nat) : String := "0o" ++ String.ofList (Nat.toDigits 8 n)

def hasBit (mode mask : Nat) : Bool := mode &&& mask != 0

def isOpenMode (mode : Nat) : Bool := hasBit mode 0o2 || hasBit mode 0o20 || hasBit mode 0o10 || hasBit mode 0o1

def badFilePermissions : Rule :=
  plain "B103" "set_bad_file_permissions" "Call" fun c => do
    match c.name with
    | none => throw .wrongKind
    | some name =>
      if Segments.occurs "chmod".toList name.toList && c.callArgsCount == some 2 then
        match ← c.argAt 1 with
        | .int mode =>
          if isOpenMode mode.toNat then
            let file := match ← c.argAt 0 with
              | .null => "NOT PARSED"
              | v => v.display
            let severity := if hasBit mode.toNat 0o2 then Rank.high else .medium
            return some (finding severity .high 732
              ("Chmod setting a permissive mask " ++ octal mode.toNat ++ " on file (" ++ file ++ ")."))
          else return none
        | _ => return none
      else return none

def bindAllInterfaces : Rule :=
  plain "B104" "hardcoded_bind_all_interfaces" "Str" fun c =>
    return reportIf (c.text == some (Text.ofString "0.0.0.0"))
      (finding .medium .medium 605 "Possible binding to all interfaces.")

def tmpDirectories : Value := namesValue ["/tmp", "/var/tmp", "/dev/shm"]

def hardcodedTmpDirectory : Rule :=
  configured "B108" "hardcoded_tmp_directory" "Str" "hardcoded_tmp_directory"
    (.dict [(.str "tmp_dirs", tmpDirectories)]) fun c settings => do
      let given ← match settings with
        | .null => pure false
        | s => s.holds (.str "tmp_dirs")
      let dirs ← if given then settings.entry "tmp_dirs" else pure tmpDirectories
      let begins := fun d => match c.text with
        | some t => d.beginsWith t
        | none => .error .missingAttribute
      return reportIf (← anyAnswer begins (← dirs.items))
        (finding .medium .medium 377 "Probable insecure usage of temp file/directory.")

/-- What the `members` of an archive are: the result of a function, or something else. -/
inductive Members where
  | function (name : String)
  | other (value : Value)

def Members.record : Members → Value
  | .function name => .dict [(.str "Function", .str name)]
  | .other v => .dict [(.str "Other", v)]

def keywordNamed (name : String) (keywords : List Node) : Option Node :=
  keywords.findSome? fun
    | .keyword _ arg value => if arg == some name then some value else none
    | _ => none

def membersOf : Node → Answer Members
  | .call _ (.name _ id _) _ _ => .ok (.function id)
  | .call .. => .error .missingAttribute
  | .name _ id _ => .ok (.other (.str id))
  | n => .ok (.other (.fragment n.kind))

def tarfileUnsafeMembers : Rule :=
  plain "B202" "tarfile_unsafe_members" "Call" fun c => do
    match c.name with
    | none => throw .wrongKind
    | some name =>
      if c.importsExactly "tarfile" && Segments.occurs "extractall".toList name.toList then
        let given ← c.keywordsOr .wrongKind
        let has := fun key => (Value.lookup (.str key) given).isSome
        let filtered ← if has "filter" then do
            let (_, keywords) ← c.callParts
            pure ((keywordNamed "filter" keywords).any fun v => v.textOf? == some (Text.ofString "data"))
          else pure false
        if filtered then return none
        else if has "members" then
          let (_, keywords) ← c.callParts
          match keywordNamed "members" keywords with
          | none => throw .wrongKind
          | some value =>
            let members ← membersOf value
            match members with
            | .function _ =>
              return some (finding .low .low 22
                ("Usage of tarfile.extractall(members=function(tarfile)). Make sure your function " ++
                  "properly discards dangerous members " ++ members.record.render ++ ")."))
            | .other _ =>
              return some (finding .medium .medium 22
                ("Found tarfile.extractall(members=?) but couldn't identify the type of members. " ++
                  "Check if the members were properly validated " ++ members.record.render ++ ")."))
        else
          return some (finding .high .high 22
            ("tarfile.extractall used without any validation. Please check and discard dangerous " ++ "members."))
      else return none

end SourceAudit.Rule
