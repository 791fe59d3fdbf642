import SourceAudit.Rule.Basic

/-! Passwords that stand in the source. Whether a text is a password is told by the name it is given. -/

namespace SourceAudit.Rule

/-- How far, in different readings, a word that speaks of secrets reaches from the start of a text in lower case. -/
def secretWordLengths (t : Text) : List Nat :=
  let begins := fun (s : String) => (Text.ofString s).isPrefixOf t
  let word := fun (s : String) => if begins s then [s.length] else []
  let spelled :=
    if begins "pas" then
      let esses := (t.drop 2).takeWhile (· == 115)
      let rest := t.drop (2 + esses.length)
      [("wd", 2), ("wod", 3), ("wrd", 3), ("word", 4)].filterMap fun (s, n) =>
        if (Text.ofString s).isPrefixOf rest then some (2 + esses.length + n) else none
    else []
  spelled ++ word "pass" ++ word "passphrase" ++ word "pwd" ++ word "token" ++ word "secret" ++ word "secrete"

/-- A word may end at a low line, at the end, or at a line feed that ends the text. -/
def endsWord : Text → Bool
  | [] => true
  | [p] => p.val == 10 || p.val == 95
  | p :: _ => p.val == 95

def secretIn (wordStart : Bool) : Text → Bool
  | [] => false
  | p :: t =>
    (wordStart && (secretWordLengths (p :: t)).any fun n => endsWord ((p :: t).drop n)) ||
      secretIn (p.val == 95) t

def namesSecret (t : Text) : Bool := secretIn true (Folding.foldText t)

def namesSecretString (s : String) : Bool := namesSecret s

def passwordIssue (value : Text) : Issue := finding .low .medium 259 ("Possible hardcoded password: '" ++ value ++ "'")

def targetName? : Node → Option String
  | .name _ id _ => some id
  | .attr _ _ id _ => some id
  | _ => none

/-- A text that is compared with a variable or attribute of a telling name, in first place. -/
def comparedSecret : Node → Option Issue
  | .compare _ left _ (.constant _ (.text t) :: _) =>
    match targetName? left with
    | some id => reportIf (namesSecretString id) (passwordIssue t)
    | none => none
  | _ => none

def hardcodedPasswordString : Rule :=
  plain "B105" "hardcoded_password_string" "Str" fun c => do
    let node ← c.theNode
    match c.ancestors, node.textOf? with
    | around, some t =>
      match around.map Ancestor.node with
      | .assign _ targets _ :: _ =>
        return reportIf (targets.any fun target => (targetName? target).any namesSecretString)
          (passwordIssue t)
      | .subscript .. :: outer =>
        if namesSecret t then
          match outer with
          | .assign _ _ (.constant _ (.text value)) :: _ => return some (passwordIssue value)
          | _ => return none
        else return none
      | comparison :: _ => return comparedSecret comparison
      | [] => throw .missingAttribute
    | _, none => throw .missingAttribute

/-- The text that a keyword argument has under a telling name. A text that is unpacked has no name. -/
def secretArgument : Node → Answer (Option Text)
  | .keyword _ arg (.constant _ (.text t)) =>
    match arg with
    | some name => .ok (if namesSecretString name then some t else none)
    | none => .error .wrongKind
  | _ => .ok none

def hardcodedPasswordFuncarg : Rule :=
  plain "B106" "hardcoded_password_funcarg" "Call" fun c => do
    let (_, keywords) ← c.callParts
    match ← findAnswer (fun k => Option.isSome <$> secretArgument k) keywords with
    | some k => return (← secretArgument k).map passwordIssue
    | none => return none

def hardcodedPasswordDefault : Rule :=
  plain "B107" "hardcoded_password_default" "FunctionDef" fun c => do
    match c.node with
    | some (.functionDef _ _ _ parameters ..) =>
      let (args, defaults) := match parameters with
        | .arguments _ args _ _ _ _ defaults => (args, defaults)
        | _ => ([], [])
      let padded := List.replicate (args.length - defaults.length) none ++ defaults.map some
      return (args.zip padded).findSome? fun (p : Node × Option Node) =>
        match p with
        | (.arg _ name _, some (.constant _ (.text t))) => reportIf (namesSecretString name) (passwordIssue t)
        | _ => none
    | _ => throw .missingAttribute

end SourceAudit.Rule
