import SourceAudit.Rule.Basic

/-! Functions and modules that are better not used at all, and the rule that looks for them. -/

namespace SourceAudit

/-- Things of one kind that are better not used. The message may mention the thing by a placeholder. -/
structure Banned where
  name : String
  id : String
  weakness : Int
  level : Rank
  qualnames : List String
  message : String

namespace Banned

def xmlDanger : String :=
  "Using \x7bname\x7d to parse untrusted XML data is known to be vulnerable to XML attacks. "

def functionAdvice : String :=
  xmlDanger ++ "Replace \x7bname\x7d with its defusedxml equivalent function or make sure " ++
    "defusedxml.defuse_stdlib() is called"

def packageAdvice : String :=
  xmlDanger ++ "Replace \x7bname\x7d with the equivalent defusedxml package, or make sure " ++
    "defusedxml.defuse_stdlib() is called."

def functions : List Banned := [
  ⟨"pickle", "B301", 502, .medium,
    ["pickle.loads", "pickle.load", "pickle.Unpickler", "dill.loads", "dill.load",
      "dill.Unpickler", "shelve.open", "shelve.DbfilenameShelf", "jsonpickle.decode",
      "jsonpickle.unpickler.decode", "jsonpickle.unpickler.Unpickler", "pandas.read_pickle"],
    ("Pickle and modules that wrap it can be unsafe when used to deserialize untrusted data, " ++
      "possible security issue.")⟩,
  ⟨"marshal", "B302", 502, .medium, ["marshal.load", "marshal.loads"],
    "Deserialization with the marshal module is possibly dangerous."⟩,
  ⟨"md5", "B303", 327, .medium,
    ["Crypto.Hash.MD2.new", "Crypto.Hash.MD4.new", "Crypto.Hash.MD5.new",
      "Crypto.Hash.SHA.new", "Cryptodome.Hash.MD2.new", "Cryptodome.Hash.MD4.new",
      "Cryptodome.Hash.MD5.new", "Cryptodome.Hash.SHA.new",
      "cryptography.hazmat.primitives.hashes.MD5", "cryptography.hazmat.primitives.hashes.SHA1"],
    "Use of insecure MD2, MD4, MD5, or SHA1 hash function."⟩,
  ⟨"ciphers", "B304", 327, .high,
    ["Crypto.Cipher.ARC2.new", "Crypto.Cipher.ARC4.new", "Crypto.Cipher.Blowfish.new",
      "Crypto.Cipher.DES.new", "Crypto.Cipher.XOR.new", "Cryptodome.Cipher.ARC2.new",
      "Cryptodome.Cipher.ARC4.new", "Cryptodome.Cipher.Blowfish.new",
      "Cryptodome.Cipher.DES.new", "Cryptodome.Cipher.XOR.new",
      "cryptography.hazmat.primitives.ciphers.algorithms.ARC4",
      "cryptography.hazmat.primitives.ciphers.algorithms.Blowfish",
      "cryptography.hazmat.primitives.ciphers.algorithms.CAST5",
      "cryptography.hazmat.primitives.ciphers.algorithms.IDEA",
      "cryptography.hazmat.primitives.ciphers.algorithms.SEED",
      "cryptography.hazmat.primitives.ciphers.algorithms.TripleDES"],
    "Use of insecure cipher \x7bname\x7d. Replace with a known secure cipher such as AES."⟩,
  ⟨"cipher_modes", "B305", 327, .medium, ["cryptography.hazmat.primitives.ciphers.modes.ECB"],
    "Use of insecure cipher mode \x7bname\x7d."⟩,
  ⟨"mktemp_q", "B306", 377, .medium, ["tempfile.mktemp"], "Use of insecure and deprecated function (mktemp)."⟩,
  ⟨"eval", "B307", 78, .medium, ["eval"], "Use of possibly insecure function - consider using safer ast.literal_eval."⟩,
  ⟨"mark_safe", "B308", 79, .medium, ["django.utils.safestring.mark_safe"],
    ("Use of mark_safe() may expose cross-site scripting vulnerabilities and should be " ++ "reviewed.")⟩,
  ⟨"urllib_urlopen", "B310", 22, .medium,
    ["urllib.request.urlopen", "urllib.request.urlretrieve", "urllib.request.URLopener",
      "urllib.request.FancyURLopener", "six.moves.urllib.request.urlopen",
      "six.moves.urllib.request.urlretrieve", "six.moves.urllib.request.URLopener",
      "six.moves.urllib.request.FancyURLopener"],
    ("Audit url open for permitted schemes. Allowing use of file:/ or custom schemes is often " ++ "unexpected.")⟩,
  ⟨"random", "B311", 330, .low,
    ["random.Random", "random.random", "random.randrange", "random.randint", "random.choice",
      "random.choices", "random.uniform", "random.triangular", "random.randbytes"],
    "Standard pseudo-random generators are not suitable for security/cryptographic purposes."⟩,
  ⟨"telnetlib", "B312", 319, .high, ["telnetlib.Telnet"],
    ("Telnet-related functions are being called. Telnet is considered insecure. Use SSH or " ++
      "some other encrypted protocol.")⟩,
  ⟨"xml_bad_cElementTree", "B313", 20, .medium,
    ["xml.etree.cElementTree.parse", "xml.etree.cElementTree.iterparse",
      "xml.etree.cElementTree.fromstring", "xml.etree.cElementTree.XMLParser"], functionAdvice⟩,
  ⟨"xml_bad_ElementTree", "B314", 20, .medium,
    ["xml.etree.ElementTree.parse", "xml.etree.ElementTree.iterparse",
      "xml.etree.ElementTree.fromstring", "xml.etree.ElementTree.XMLParser"], functionAdvice⟩,
  ⟨"xml_bad_expatreader", "B315", 20, .medium, ["xml.sax.expatreader.create_parser"], functionAdvice⟩,
  ⟨"xml_bad_expatbuilder", "B316", 20, .medium, ["xml.dom.expatbuilder.parse", "xml.dom.expatbuilder.parseString"],
    functionAdvice⟩,
  ⟨"xml_bad_sax", "B317", 20, .medium, ["xml.sax.parse", "xml.sax.parseString", "xml.sax.make_parser"], functionAdvice⟩,
  ⟨"xml_bad_minidom", "B318", 20, .medium, ["xml.dom.minidom.parse", "xml.dom.minidom.parseString"], functionAdvice⟩,
  ⟨"xml_bad_pulldom", "B319", 20, .medium, ["xml.dom.pulldom.parse", "xml.dom.pulldom.parseString"], functionAdvice⟩,
  ⟨"xml_bad_etree", "B320", 20, .medium,
    ["lxml.etree.parse", "lxml.etree.fromstring", "lxml.etree.RestrictedElement",
      "lxml.etree.GlobalParserTLS", "lxml.etree.getDefaultParser", "lxml.etree.check_docinfo"],
    (xmlDanger ++ "Replace \x7bname\x7d with its defusedxml equivalent function.")⟩,
  ⟨"ftplib", "B321", 319, .high, ["ftplib.FTP"],
    ("FTP-related functions are being called. FTP is considered insecure. Use SSH/SFTP/SCP or " ++
      "some other encrypted protocol.")⟩,
  ⟨"unverified_context", "B323", 295, .medium, ["ssl._create_unverified_context"],
    ("By default, Python will create a secure, verified ssl context for use in such classes " ++
      "as HTTPSConnection. However, it still allows using an insecure context via the " ++
      "_create_unverified_context that  reverts to the previous behavior that does not " ++
      "validate certificates or perform hostname checks.")⟩]

def modules : List Banned := [
  ⟨"import_telnetlib", "B401", 319, .high, ["telnetlib"],
    ("A telnet-related module is being imported.  Telnet is considered insecure. Use SSH or " ++
      "some other encrypted protocol.")⟩,
  ⟨"import_ftplib", "B402", 319, .high, ["ftplib"],
    ("A FTP-related module is being imported.  FTP is considered insecure. Use SSH/SFTP/SCP " ++
      "or some other encrypted protocol.")⟩,
  ⟨"import_pickle", "B403", 502, .low, ["pickle", "cPickle", "dill", "shelve"],
    "Consider possible security implications associated with \x7bname\x7d module."⟩,
  ⟨"import_subprocess", "B404", 78, .low, ["subprocess"],
    "Consider possible security implications associated with the subprocess module."⟩,
  ⟨"import_xml_etree", "B405", 20, .low, ["xml.etree.cElementTree", "xml.etree.ElementTree"], packageAdvice⟩,
  ⟨"import_xml_sax", "B406", 20, .low, ["xml.sax"], packageAdvice⟩,
  ⟨"import_xml_expat", "B407", 20, .low, ["xml.dom.expatbuilder"], packageAdvice⟩,
  ⟨"import_xml_minidom", "B408", 20, .low, ["xml.dom.minidom"], packageAdvice⟩,
  ⟨"import_xml_pulldom", "B409", 20, .low, ["xml.dom.pulldom"], packageAdvice⟩,
  ⟨"import_lxml", "B410", 20, .low, ["lxml"],
    (xmlDanger ++ "Replace \x7bname\x7d with the equivalent defusedxml package.")⟩,
  ⟨"import_xmlrpclib", "B411", 20, .high, ["xmlrpc"],
    (xmlDanger ++ "Use defusedxml.xmlrpc.monkey_patch() function to monkey-patch xmlrpclib and mitigate " ++
      "XML vulnerabilities.")⟩,
  ⟨"import_httpoxy", "B412", 284, .high,
    ["wsgiref.handlers.CGIHandler", "twisted.web.twcgi.CGIScript", "twisted.web.twcgi.CGIDirectory"],
    "Consider possible security implications associated with \x7bname\x7d module."⟩,
  ⟨"import_pycrypto", "B413", 327, .high,
    ["Crypto.Cipher", "Crypto.Hash", "Crypto.IO", "Crypto.Protocol", "Crypto.PublicKey",
      "Crypto.Random", "Crypto.Signature", "Crypto.Util"],
    ("The pyCrypto library and its module \x7bname\x7d are no longer actively maintained and " ++
      "have been deprecated. Consider using pyca/cryptography library.")⟩,
  ⟨"import_pyghmi", "B415", 319, .high, ["pyghmi"],
    ("An IPMI-related module is being imported. IPMI is considered insecure. Use an encrypted " ++ "protocol.")⟩]

def record (b : Banned) : Value :=
  .dict [(.str "name", .str b.name), (.str "id", .str b.id), (.str "cwe", .int b.weakness),
    (.str "message", .str b.message), (.str "qualnames", namesValue b.qualnames),
    (.str "level", .str b.level.name)]

def byCheck : List (String × List Banned) :=
  [("Call", functions ++ modules), ("Import", modules), ("ImportFrom", modules)]

def all : List Banned := functions ++ modules

end Banned

namespace Rule

def replaceName (message name : Text) : Text := Segments.replace "\x7bname\x7d" name message

def bannedIssue (record : Value) (name : Value) : Answer Issue := do
  let message ← record.entry "message"
  let field := fun key default => record.entryD key default
  let severity ← field "level" (.str "MEDIUM")
  let weakness ← field "cwe" (.int 0)
  let id ← field "id" (.str "LEGACY")
  match message, name with
  | .text message, .text name =>
    return {
      severity := severity.display.toStringLossy
      confidence := Rank.high.name
      weakness := ⟨match weakness with | .int n => n | _ => 0⟩
      text := replaceName message name
      ident := some name.toStringLossy
      testId := id.display.toStringLossy }
  | .text _, _ => throw .wrongKind
  | _, _ => throw .missingAttribute

def lookedUpName (c : Context) (func : Node) (args : List Node) : Answer Value := do
  if func.id? == some "__import__" then
    match args with
    | [] => return .str ""
    | .constant _ (.text t) :: _ => return .text t
    | _ => return .str "UNKNOWN"
  else if ["importlib.import_module", "importlib.__import__"].any fun s => c.qualname == some s then
    match c.callArgsCount with
    | none => throw .wrongKind
    | some 0 =>
      match Value.lookup (.str "name") (← c.keywordsOr .wrongKind) with
      | some v => return v
      | none => throw .missingKey
    | some _ => return ((← c.callArgs).head?).getD .null
  else return c.qualnameValue

def firstBanned (records : List Value) (names : List α) (accepts : α → Value → Answer Bool)
    (report : α → Value) : Answer (Option Issue) := do
  for record in records do
    for name in names do
      for listed in ← (← record.entry "qualnames").items do
        if ← accepts name listed then return some (← bannedIssue record (report name))
  return none

def blacklistRun (c : Context) (data : Value) : Answer (Option Issue) := do
  match c.node with
  | some (.call _ func args _) =>
    let name ← lookedUpName c func args
    let records ← (← data.entry "Call").items
    firstBanned records [name] (fun n listed => .ok (match n with | .null => false | n => n.equals listed))
      fun n => n
  | some (.importStmt _ names) =>
    let records ← (← data.entry "Import").items
    firstBanned records (importedNames names) (fun n listed => listed.beginsWith n) .str
  | some (.importFrom _ module names _) =>
    let records ← (← data.entry "ImportFrom").items
    let base := (module.map (· ++ ".")).getD ""
    firstBanned records (importedNames names) (fun n listed => listed.beginsWith (base ++ n)) .str
  | _ => return none
where
  importedNames (names : List Node) : List String :=
    names.filterMap fun | .importedName _ n _ => some n | _ => none

def blacklist (checks : List String) : Rule :=
  { id := "B001", name := "blacklist", testName := "blacklist", checks, run := blacklistRun }

end Rule

end SourceAudit
