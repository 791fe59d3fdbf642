import SourceAudit.CommandLine.Arguments
import SourceAudit.CommandLine.Command
import SourceAudit.Data.Ini

/-! The options of a scan: from the command line, and from a file for those that it leaves at their defaults. -/

namespace SourceAudit.CommandLine

def merged (default given fromFile : Value) : Value :=
  match default with
  | .null => if given.truthy then given else if fromFile.truthy then fromFile else .null
  | d => if d.equals given && fromFile.truthy then fromFile else given

def sectionName : Text := "bandit"

/-- The options in a file; none, with a warning, when they cannot be read. -/
def fileOptions (path : String) (content : Option Bytes) : Answer (Option (List (Text × Text)) × Log) :=
  let missing : Log := [warning ("Unable to parse config file " ++ path ++ " or missing [bandit] section")]
  match content with
  | none => .ok (none, missing)
  | some b =>
    match Utf8.decode? b with
    | none => .error .undecodable
    | some cs =>
      match Ini.read? sectionName cs with
      | some options => .ok (some options, [])
      | none => .ok (none, missing)

inductive Output where
  | standard
  | file (path : String)
  /-- Nothing that can be written to. -/
  | unusable
  deriving DecidableEq, Repr

inductive ScanFlag where
  | help
  | version
  | recursive
  | aggregate
  | number
  | settings
  | profile
  | tests
  | skips
  | severity
  | severityLevel
  | confidence
  | confidenceLevel
  | format
  | template
  | output
  | verbose
  | debug
  | quiet
  | ignoreComments
  | exclude
  | baseline
  | optionFile
  | exitZero
  deriving DecidableEq, Repr

def standardExclusions : String := ".svn,CVS,.bzr,.hg,.git,__pycache__,.tox,.eggs,*.egg"

structure Options where
  targets : List String := []
  recursive : Bool := false
  aggregation : String := "file"
  lines : Int := 3
  settingsFile : Option String := none
  profile : Option String := none
  tests : Option String := none
  skips : Option String := none
  /-- The place of the least rank of severity, from one; a file may say anything. -/
  severity : Value := .int 1
  confidence : Value := .int 1
  format : String := "txt"
  template : Option String := none
  output : Output := .standard
  verbose : Bool := false
  debug : Bool := false
  quiet : Bool := false
  ignoreComments : Bool := false
  excluded : String := standardExclusions
  baseline : Option String := none
  optionFile : Option String := none
  exitZero : Bool := false

namespace ScanFlag

def all : List (Flag ScanFlag) := [
  ⟨help, ["-h", "--help"], .nothing⟩,
  ⟨recursive, ["-r", "--recursive"], .nothing⟩,
  ⟨aggregate, ["-a", "--aggregate"], .one⟩,
  ⟨number, ["-n", "--number"], .one⟩,
  ⟨settings, ["-c", "--configfile"], .one⟩,
  ⟨profile, ["-p", "--profile"], .one⟩,
  ⟨tests, ["-t", "--tests"], .one⟩,
  ⟨skips, ["-s", "--skip"], .one⟩,
  ⟨severity, ["-l", "--level"], .nothing⟩,
  ⟨severityLevel, ["--severity-level"], .one⟩,
  ⟨confidence, ["-i", "--confidence"], .nothing⟩,
  ⟨confidenceLevel, ["--confidence-level"], .one⟩,
  ⟨format, ["-f", "--format"], .one⟩,
  ⟨template, ["--msg-template"], .one⟩,
  ⟨output, ["-o", "--output"], .atMostOne⟩,
  ⟨verbose, ["-v", "--verbose"], .nothing⟩,
  ⟨debug, ["-d", "--debug"], .nothing⟩,
  ⟨quiet, ["-q", "--quiet", "--silent"], .nothing⟩,
  ⟨ignoreComments, ["--ignore-nosec"], .nothing⟩,
  ⟨exclude, ["-x", "--exclude"], .one⟩,
  ⟨baseline, ["-b", "--baseline"], .one⟩,
  ⟨optionFile, ["--ini"], .one⟩,
  ⟨exitZero, ["--exit-zero"], .nothing⟩,
  ⟨version, ["--version"], .nothing⟩]

def rivals : ScanFlag → List ScanFlag
  | severity => [severityLevel]
  | severityLevel => [severity]
  | confidence => [confidenceLevel]
  | confidenceLevel => [confidence]
  | verbose => [quiet]
  | quiet => [verbose]
  | _ => []

end ScanFlag

def levels : List (String × Int) := [("all", 1), ("low", 2), ("medium", 3), ("high", 4)]

namespace Options

def raise : Value → Value
  | .int n => .int (n + 1)
  | v => v

/-- Takes an option in; words that are not allowed as its argument are refused. -/
def take (o : Options) (flag : ScanFlag) (argument : String) : Option Options :=
  let ofChoice (choices : List String) (o : Options) : Option Options :=
    if choices.contains argument then some o else none
  match flag with
  | .help | .version | .output => some o
  | .recursive => some { o with recursive := true }
  | .aggregate => ofChoice ["file", "vuln"] { o with aggregation := argument }
  | .number => do return { o with lines := ← Whole.read? argument }
  | .settings => some { o with settingsFile := argument }
  | .profile => some { o with profile := argument }
  | .tests => some { o with tests := argument }
  | .skips => some { o with skips := argument }
  | .severity => some { o with severity := raise o.severity }
  | .severityLevel => do return { o with severity := .int (← levels.lookup argument) }
  | .confidence => some { o with confidence := raise o.confidence }
  | .confidenceLevel => do return { o with confidence := .int (← levels.lookup argument) }
  | .format => ofChoice (Format.all.map Format.name) { o with format := argument }
  | .template => some { o with template := argument }
  | .verbose => some { o with verbose := true }
  | .debug => some { o with debug := true }
  | .quiet => some { o with quiet := true }
  | .ignoreComments => some { o with ignoreComments := true }
  | .exclude => some { o with excluded := argument }
  | .baseline => some { o with baseline := argument }
  | .optionFile => some { o with optionFile := argument }
  | .exitZero => some { o with exitZero := true }

def usage (program : String) : Text := "usage: " ++ Text.ofString program ++ Log.line " [-h] [options] [targets ...]"

def programName : String := "bandit"

def openOutput : Option String → Command Output
  | none => return .unusable
  | some "-" => return .standard
  | some path => do if ← Command.create path then return .file path else Command.stop 2

def outputWith (o : Options) : ScanFlag → Option String → Command Output
  | .output, argument => openOutput argument
  | _, _ => return o.output

def obey (o : Options) (seen : List ScanFlag) (flag : ScanFlag) (argument : Option String) : Command Options := do
  let output ← o.outputWith flag argument
  match take { o with output } flag (argument.getD "") with
  | none => Command.stop 2
  | some next =>
    if flag.rivals.any seen.contains then Command.stop 2
    else
      match flag with
      | .help => do
        Command.print (usage programName)
        Command.stop 0
      | .version => do
        Command.print (Log.line (Text.ofString (programName ++ " " ++ SourceAudit.version)))
        Command.stop 0
      | _ => return next

def carryOut (o : Options) (seen : List ScanFlag) : List (Request ScanFlag) → Command Options
  | [] => return o
  | .refused :: _ => Command.stop 2
  | .targets words :: rest => carryOut { o with targets := words } seen rest
  | .flag flag argument :: rest => do carryOut (← o.obey seen flag argument) (flag :: seen) rest

/-- The options on a command line. A template is of use in one format only. -/
def ofArguments (args : List String) : Command Options := do
  let o ← carryOut {} [] (Request.ofStrings ScanFlag.all .any true args)
  if o.format != "custom" && o.template.isSome then Command.stop 2
  return o

/-! ### Options from a file -/

def optional (o : Option String) : Value := o.elim .null .str

def mergedText (default given fromFile : Option String) : Option String :=
  (merged (optional default) (optional given) (optional fromFile)).text?.map (·.toStringLossy)

def mergedFlag (given : Bool) (fromFile : Option String) : Bool :=
  (merged (.bool false) (.bool given) (optional fromFile)).truthy

/-- A number in a file; zero and an empty text do not count. -/
def numberIn : Option String → Answer Value
  | none => .ok .null
  | some t =>
    if t.isEmpty then .ok .null
    else
      match Whole.read? t with
      | some n => .ok (if n == 0 then .null else .int n)
      | none => .error .badValue

def mergeWith (o : Options) (file : String → Option String) : Answer Options := do
  let targets := if !o.targets.isEmpty then o.targets else
    match file "targets" with
    | some t => if t.isEmpty then [] else splitString ',' t
    | none => []
  let lines := match merged (.int 3) (.int o.lines) (← numberIn (file "number")) with
    | .int n => n
    | _ => o.lines
  return { o with
    targets
    lines
    settingsFile := mergedText none o.settingsFile (file "configfile")
    excluded := (mergedText (some standardExclusions) (some o.excluded) (file "exclude")).getD o.excluded
    skips := mergedText none o.skips (file "skips")
    tests := mergedText none o.tests (file "tests")
    recursive := mergedFlag o.recursive (file "recursive")
    aggregation := (mergedText (some "file") (some o.aggregation) (file "aggregate")).getD o.aggregation
    profile := mergedText none o.profile (file "profile")
    severity := merged (.int 1) o.severity (optional (file "level"))
    confidence := merged (.int 1) o.confidence (optional (file "confidence"))
    format := (mergedText (some "txt") (some o.format) (file "format")).getD o.format
    template := mergedText none o.template (file "msg-template")
    output := if o.output == .standard && (optional (file "output")).truthy then .unusable else o.output
    verbose := mergedFlag o.verbose (file "verbose")
    debug := mergedFlag o.debug (file "debug")
    quiet := mergedFlag o.quiet (file "quiet")
    ignoreComments := mergedFlag o.ignoreComments (file "ignore-nosec")
    baseline := mergedText none o.baseline (file "baseline") }

def projectFile : String := ".bandit"

def projectFiles (t : FileTree) (targets : List String) : List String :=
  targets.flatMap fun target => (t.walk target).flatMap fun (folder, names) =>
    if names.contains projectFile then [Path.join folder projectFile] else []

def source (o : Options) : Command (Option String) := do
  match o.optionFile with
  | some path => if !path.isEmpty then return some path
  | none => pure ()
  match projectFiles (← get).files o.targets with
  | [] => return none
  | [path] => return some path
  | paths =>
    Command.say (alert (Text.ofString ("Multiple .bandit files found - scan separately or choose one with --ini\n\t" ++
      ", ".intercalate paths)))
    Command.stop 2

def withFile (o : Options) : Command Options := do
  match ← o.source with
  | none => return o
  | some path =>
    let content ← Command.read path
    let (options, log) ← Command.ofAnswer (fileOptions path content.toOption)
    Command.sayAll log
    match options with
    | none | some [] => return o
    | some entries =>
      Command.ofAnswer (o.mergeWith fun name => (entries.lookup (Text.ofString name)).map Text.toStringLossy)

end Options

end SourceAudit.CommandLine
