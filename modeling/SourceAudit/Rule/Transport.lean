import SourceAudit.Rule.Basic

/-! Connections to other machines. -/

namespace SourceAudit.Rule

def httpVerbs : List String := ["get", "options", "head", "post", "put", "patch", "delete"]

def httpxFunctions : List String := ["request", "stream", "Client", "AsyncClient"] ++ httpVerbs

def sendsRequest (library : String) (name : Option String) : Bool :=
  (library == "requests" && name.any httpVerbs.contains) ||
    (library == "httpx" && name.any httpxFunctions.contains)

def libraryOf (c : Context) : Answer String := do return ((← c.qualnameParts).head?).getD ""

def noCertValidation : Rule :=
  plain "B501" "request_with_no_cert_validation" "Call" fun c => do
    let library ← libraryOf c
    if sendsRequest library c.name then
      return reportIf (← c.argIs "verify" (.str "False"))
        (finding .high .high 295
          ("Call to " ++ library ++ " with verify=False disabling SSL certificate checks, security " ++
            "issue.") (c.argLine "verify"))
    else return none

def requestWithoutTimeout : Rule :=
  plain "B113" "request_without_timeout" "Call" fun c => do
    let library ← libraryOf c
    if library == "requests" && c.name.any httpVerbs.contains then
      if (← c.checkArgValue "timeout" .null).isNone then
        return some (finding .medium .low 400 ("Call to " ++ library ++ " without timeout"))
    if sendsRequest library c.name then
      return reportIf (← c.argIs "timeout" (.str "None"))
        (finding .medium .low 400 ("Call to " ++ library ++ " with timeout set to None"))
    else return none

def badProtocolVersions : Value :=
  .dict [(.str "bad_protocol_versions", namesValue ["PROTOCOL_SSLv2", "SSLv2_METHOD", "SSLv23_METHOD",
    "PROTOCOL_SSLv3", "PROTOCOL_TLSv1", "SSLv3_METHOD", "TLSv1_METHOD", "PROTOCOL_TLSv1_1",
    "TLSv1_1_METHOD"])]

def sslWithBadVersion : Rule :=
  configured "B502" "ssl_with_bad_version" "Call" "ssl_with_bad_version" badProtocolVersions
    fun c settings => do
      let bad ← settings.entry "bad_protocol_versions"
      if c.qualname == some "ssl.wrap_socket" then
        return reportIf (← c.argIs "ssl_version" bad) (finding .high .high 327
          "ssl.wrap_socket call with insecure SSL/TLS protocol version identified, security issue."
          (c.argLine "ssl_version"))
      else if c.qualname == some "pyOpenSSL.SSL.Context" then
        return reportIf (← c.argIs "method" bad) (finding .high .high 327
          "SSL.Context call with insecure SSL/TLS protocol version identified, security issue."
          (c.argLine "method"))
      else
        let matched ← do
          if ← c.argIs "method" bad then pure true else c.argIs "ssl_version" bad
        return reportIf matched (finding .medium .medium 327
          "Function call with insecure SSL/TLS protocol identified, possible security issue."
          ((c.argLine "method").orElse fun _ => c.argLine "ssl_version"))

def sslWithBadDefaults : Rule :=
  configured "B503" "ssl_with_bad_defaults" "FunctionDef" "ssl_with_bad_version" badProtocolVersions
    fun c settings => do
      let bad ← settings.entry "bad_protocol_versions"
      let last := fun (s : String) => Value.str (((splitString '.' s).getLast?).getD "")
      let found ← anyAnswer (fun d => bad.holds (last d)) (← c.defaultNames)
      return reportIf found (finding .medium .medium 327
        ("Function definition identified with insecure SSL/TLS protocol version by default, possible " ++
          "security issue."))

def sslWithNoVersion : Rule :=
  plain "B504" "ssl_with_no_version" "Call" fun c => do
    if c.qualname == some "ssl.wrap_socket" then
      return reportIf (← c.checkArgValue "ssl_version" .null).isNone (finding .low .medium 327
        ("ssl.wrap_socket call with no SSL/TLS protocol version specified, the default SSLv23 could be " ++
          "insecure, possible security issue.") (c.argLine "ssl_version"))
    else return none

def policyName? : Node → Option String
  | .attr _ _ id _ => some id
  | .name _ id _ => some id
  | .call _ (.attr _ _ id _) _ _ => some id
  | .call _ (.name _ id _) _ _ => some id
  | _ => none

def noHostKeyVerification : Rule :=
  plain "B507" "ssh_no_host_key_verification" "Call" fun c => do
    if c.importsLike "paramiko" && c.name == some "set_missing_host_key_policy" then
      let (args, _) ← c.callParts
      let trusting := (args.head?.bind policyName?).any ["AutoAddPolicy", "WarningPolicy"].contains
      return reportIf trusting (finding .high .medium 295
        "Paramiko call with policy set to automatically trust the unknown host key."
        (c.argLine "set_missing_host_key_policy"))
    else return none

def paramikoCalls : Rule :=
  plain "B601" "paramiko_calls" "Call" fun c =>
    return reportIf (c.importsLike "paramiko" && c.name == some "exec_command")
      (finding .medium .medium 78
        "Possible shell injection via Paramiko call, check inputs are properly sanitized.")

def snmpInsecureVersion : Rule :=
  { plain "B508" "snmp_insecure_version_check" "Call" fun c => do
      if c.qualname == some "pysnmp.hlapi.CommunityData" then
        let old ← do
          if ← c.argIs "mpModel" (.int 0) then pure true else c.argIs "mpModel" (.int 1)
        return reportIf old (finding .medium .high 319
          "The use of SNMPv1 and SNMPv2 is insecure. You should use SNMPv3 if able."
          (c.argLine "CommunityData"))
      else return none with
    name := "snmp_insecure_version" }

def snmpWeakCryptography : Rule :=
  { plain "B509" "snmp_crypto_check" "Call" fun c => do
      if c.qualname == some "pysnmp.hlapi.UsmUserData" then
        match c.callArgsCount with
        | none => throw .wrongKind
        | some n =>
          return reportIf (n < 3) (finding .medium .high 319
            "You should not use SNMPv3 without encryption. noAuthNoPriv & authNoPriv is insecure"
            (c.argLine "UsmUserData"))
      else return none with
    name := "snmp_weak_cryptography" }

end SourceAudit.Rule
