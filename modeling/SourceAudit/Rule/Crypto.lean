import SourceAudit.Rule.Basic
import SourceAudit.Text.LowerCase

/-! Weak hashes and short keys. -/

namespace SourceAudit.Rule

def weakHashes : List String := ["md4", "md5", "sha", "sha1"]

def weakCryptMethods : List String := ["METHOD_CRYPT", "METHOD_MD5", "METHOD_BLOWFISH"]

def argumentAtOr (args : List Value) (position : Nat) (keywords : Fields) (name : String) : Value :=
  (args[position]?).getD ((Value.lookup (.str name) keywords).getD .null)

def nodeLine (c : Context) : Option Int := (c.node.bind Node.line?).map fun (l : Nat) => (l : Int)

def weakHashIssue (c : Context) (name : Text) : Issue :=
  finding .high .high 327
    ("Use of weak " ++ capitals name ++ " hash for security. Consider usedforsecurity=False") (nodeLine c)

def hashCall (c : Context) (function : String) : Answer (Option Issue) := do
  let keywords? ← c.callKeywords
  let security := fun (keywords : Fields) =>
    ((Value.lookup (.str "usedforsecurity") keywords).getD (.str "True")).equals (.str "True")
  if weakHashes.contains function then
    match keywords? with
    | some keywords => return reportIf (security keywords) (weakHashIssue c function)
    | none => throw .missingAttribute
  else if function == "new" then
    let args ← c.callArgs
    match keywords? with
    | none => throw .missingAttribute
    | some keywords =>
      match argumentAtOr args 0 keywords "name" with
      | .text name =>
        return reportIf ((weakHashes.any fun h => name.lower.is h) && security keywords)
          (weakHashIssue c name)
      | _ => return none
  else return none

def cryptCall (c : Context) (function : String) : Answer (Option Issue) := do
  let args ← c.callArgs
  let keywords ← c.keywordsOr .missingAttribute
  let method := if function == "crypt" then argumentAtOr args 1 keywords "salt"
    else argumentAtOr args 0 keywords "method"
  match method with
  | .text name =>
    return reportIf (weakCryptMethods.any fun m => name.is m) (finding .medium .high 327
      ("Use of insecure crypt." ++ capitals name ++ " hash function.") (nodeLine c))
  | _ => return none

def insecureHash : Rule :=
  { plain "B324" "hashlib" "Call" fun c => do
      match c.qualname with
      | none => return none
      | some qualname =>
        let parts := splitString '.' qualname
        let function := parts.getLast?.getD ""
        if parts.contains "hashlib" then hashCall c function
        else if parts.contains "crypt" && (function == "crypt" || function == "mksalt") then
          cryptCall c function
        else return none with
    name := "hashlib_insecure_functions" }

inductive KeyKind where
  | dsa
  | rsa
  | ec
  deriving DecidableEq

def KeyKind.name : KeyKind → String
  | .dsa => "DSA"
  | .rsa => "RSA"
  | .ec => "EC"

def KeyKind.keys : KeyKind → String × String
  | .dsa => ("weak_key_size_dsa_high", "weak_key_size_dsa_medium")
  | .rsa => ("weak_key_size_rsa_high", "weak_key_size_rsa_medium")
  | .ec => ("weak_key_size_ec_high", "weak_key_size_ec_medium")

def keySizeSettings : Value :=
  .dict [(.str "weak_key_size_dsa_high", .int 1024), (.str "weak_key_size_dsa_medium", .int 2048),
    (.str "weak_key_size_rsa_high", .int 1024), (.str "weak_key_size_rsa_medium", .int 2048),
    (.str "weak_key_size_ec_high", .int 160), (.str "weak_key_size_ec_medium", .int 224)]

def keySizeIssue (kind : KeyKind) (severity : Rank) (limit : Value) : Answer Issue := do
  return finding severity .high 326
    (kind.name ++ " key sizes below " ++ toString (← limit.whole) ++ " bits are considered breakable. ")

def classifyKey (settings : Value) (kind : KeyKind) (size : Value) : Answer (Option Issue) := do
  match size with
  | .text _ => return none
  | size =>
    for other in [KeyKind.dsa, .rsa, .ec] do
      let _ ← settings.entry other.keys.1
      let _ ← settings.entry other.keys.2
    let high ← settings.entry kind.keys.1
    let medium ← settings.entry kind.keys.2
    if ← size.isBelow high then return some (← keySizeIssue kind .high high)
    else if ← size.isBelow medium then return some (← keySizeIssue kind .medium medium)
    else return none

def firstTruthy (first : Value) (others : List (Answer Value)) (default : Value) : Answer Value :=
  if first.truthy then .ok first
  else match others with
    | [] => .ok default
    | next :: rest => do firstTruthy (← next) rest default

def curveSizes : List (String × Nat) :=
  [("SECT571K1", 571), ("SECT571R1", 570), ("SECP521R1", 521), ("BrainpoolP512R1", 512),
    ("SECT409K1", 409), ("SECT409R1", 409), ("BrainpoolP384R1", 384), ("SECP384R1", 384),
    ("SECT283K1", 283), ("SECT283R1", 283), ("BrainpoolP256R1", 256), ("SECP256K1", 256),
    ("SECP256R1", 256), ("SECT233K1", 233), ("SECT233R1", 233), ("SECP224R1", 224),
    ("SECP192R1", 192), ("SECT163K1", 163), ("SECT163R2", 163)]

def curveSize (curve : Value) : Answer Nat :=
  if !curve.hashable then .error .wrongKind
  else .ok ((curveSizes.find? fun p => curve.equals (.str p.1)).elim 224 Prod.snd)

def primitivesKind? (qualname : String) : Option KeyKind :=
  let base := "cryptography.hazmat.primitives.asymmetric."
  [(base ++ "dsa.generate_private_key", KeyKind.dsa), (base ++ "rsa.generate_private_key", .rsa),
    (base ++ "ec.generate_private_key", .ec)].lookup qualname

def publicKeyKind? (qualname : String) : Option KeyKind :=
  [("Crypto.PublicKey.DSA.generate", KeyKind.dsa), ("Crypto.PublicKey.RSA.generate", .rsa),
    ("Cryptodome.PublicKey.DSA.generate", .dsa), ("Cryptodome.PublicKey.RSA.generate", .rsa)].lookup
    qualname

def givenSize (c : Context) (keyword : String) (position : Int) : Answer Value := do
  firstTruthy (← c.argValue keyword) [c.argAt position] (.int 2048)

def givenCurve (c : Context) : Answer Value := do
  let named ← c.argValue "curve"
  if named.truthy then return named
  else return ((← c.callArgs).head?).getD (.bool false)

def primitivesKey (c : Context) (settings : Value) : Answer (Option Issue) := do
  match c.qualname.bind primitivesKind? with
  | some .dsa => classifyKey settings .dsa (← givenSize c "key_size" 0)
  | some .rsa => classifyKey settings .rsa (← givenSize c "key_size" 1)
  | some .ec => classifyKey settings .ec (.int (← curveSize (← givenCurve c)))
  | none => return none

def publicKey (c : Context) (settings : Value) : Answer (Option Issue) := do
  match c.qualname.bind publicKeyKind? with
  | some kind => classifyKey settings kind (← givenSize c "bits" 0)
  | none => return none

def weakKey : Rule :=
  configured "B505" "weak_cryptographic_key" "Call" "weak_cryptographic_key" keySizeSettings
    fun c settings => do
      match ← primitivesKey c settings with
      | some issue => return some issue
      | none => publicKey c settings

end SourceAudit.Rule
