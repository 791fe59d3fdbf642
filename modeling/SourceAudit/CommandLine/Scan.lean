import SourceAudit.CommandLine.Options
import SourceAudit.Settings.File

/-! The command that scans files and reports what it finds. -/

namespace SourceAudit.CommandLine

/-! ### Forms of messages -/

def holdsField : Text → Bool
  | [] => false
  | p :: rest => (p == 37 && fieldBehind rest) || holdsField rest
where
  fieldBehind : Text → Bool
    | 40 :: rest =>
      let isWord (p : CodePoint) : Bool := Identifier.isContinue (Char.ofNat p.val)
      let isDigit (p : CodePoint) : Bool := (DecimalDigit.value? p).isSome
      let name := rest.takeWhile isWord
      let number (t : Text) : Text := match t with
        | 42 :: t => t
        | t => t.dropWhile isDigit
      match rest.dropWhile isWord with
      | 41 :: rest =>
        let rest := number (rest.dropWhile fun p => ("#0+ -" : Text).contains p)
        let kind (t : Text) : Bool := (t.head?.map fun p => ("diouxefgcrsaDIOUXEFGCRSA%" : Text).contains p).getD false
        let afterPoint := match rest with
          | 46 :: 42 :: t => some t
          | 46 :: t => if (t.head?.map isDigit).getD false then some (t.dropWhile isDigit) else none
          | _ => none
        !name.isEmpty && (kind rest || (afterPoint.map kind).getD false)
      | _ => false
    | _ => false

def checkMessageForm (form : Value) : Answer Unit :=
  match form with
  | .text t => if holdsField t then .ok () else .error .badValue
  | _ => .error .wrongKind

/-! ### Profiles -/

def addIds (key : String) (ids : Option String) (record : Value) : Answer Value := do
  let ids := match ids with
    | some t => if t.isEmpty then [] else (splitString ',' t).map Value.str
    | none => []
  match record, ← record.entry key with
  | .dict es, .set items => return .dict (Value.put (.str key) (Value.setOf (items ++ ids)) es)
  | _, _ => throw .missingAttribute

def checkTexts (key : String) (record : Value) : Answer Unit := do
  let items ← (← record.entry key).items
  if items.all fun v => v.text?.isSome then return () else throw .wrongKind

def profileOf (o : Options) (s : Settings) : Command Value := do
  let refuse {α : Type} (why : Text) : Command α := do
    Command.say (alert why)
    Command.stop 2
  let record ← match s.profile (o.profile.getD "") (o.settingsFile.getD "None") with
    | .ok record => pure record
    | .error (.fault f) => throw (.fault f)
    | .error e => refuse e.message
  Command.ofAnswer (checkTexts "include" record)
  Command.ofAnswer (checkTexts "exclude" record)
  let record ← Command.ofAnswer (addIds "include" o.tests record)
  let record ← Command.ofAnswer (addIds "exclude" o.skips record)
  match Profile.check record with
  | .ok _ => return record
  | .error (.fault f) => throw (.fault f)
  | .error e => refuse e.message

/-! ### Steps of a scan -/

def settingsOf (o : Options) : Command Settings := do
  let path := o.settingsFile.getD ""
  if path.isEmpty then return .standard
  let loading : Loading Settings ← match ← Command.read path with
    | .ok b => pure (Settings.ofFile path b)
    | .error _ => pure (throw (.unreadable path))
  match loading.run [] with
  | .ok s log =>
    Command.sayAll log
    return s
  | .error e log =>
    Command.sayAll log
    match e with
    | .fault f => throw (.fault f)
    | e =>
      Command.say (alert e.message)
      Command.stop 2

/-- Loads the results of an earlier run, which only some formats can show. -/
def loadBaseline (o : Options) (s : Session) : Command Session := do
  let some path := o.baseline | return s
  match ← Command.read path with
  | .error _ =>
    Command.say (warning ("Could not open baseline report: " ++ path))
    Command.stop 2
  | .ok b =>
    let some cs := Utf8.decode? b | throw (.fault .undecodable)
    let (baseline, log) := Baseline.read (Text.ofChars cs)
    Command.sayAll log
    if !((Format.ofName? o.format).map Format.takesBaseline).getD false then
      let names := (Format.all.filter Format.takesBaseline).map fun f => Value.str f.name
      Command.say (warning ("Baseline must be used with one of the following formats: " ++
        (Value.list names).render))
      Command.stop 2
    return { s with baseline }

def rankAt : Value → Answer String
  | .int n =>
    match ["UNDEFINED", "LOW", "MEDIUM", "HIGH"][(n - 1).toNat]? with
    | some rank => .ok rank
    | none => .error .outOfRange
  | _ => .error .wrongKind

def deliver (o : Options) (r : Report) : Command Unit := do
  let format := Report.formatOf o.format
  let (made, log) := r.write format (o.template.map Text.ofString)
  Command.sayAll log
  match made with
  | .error .refused => Command.stop 2
  | .error e => throw (.unreported e)
  | .ok text =>
    Command.print text.shown
    match o.output with
    | .standard => Command.print text.written
    | .file path => Command.write path ((Utf8.encodeText? text.written).getD [])
    | .unusable => throw (.unreported (.failed format))

def openSession (o : Options) (debugMessages : Bool) : Command Session := do
  let settings ← settingsOf o
  if o.targets.isEmpty then
    Command.print (Options.usage Options.programName)
    Command.stop 2
  let form ← Command.ofAnswer (settings.option "log_format")
  if form.truthy then Command.ofAnswer (checkMessageForm form)
  let record ← profileOf o settings
  let s ← Command.ofAnswer (Session.create settings record)
  loadBaseline o { s with
    aggregation := o.aggregation, debug := o.debug, verbose := o.verbose, quiet := o.quiet
    heedComments := !o.ignoreComments, traced := (debugMessages || form.truthy) && !o.quiet }

def search (o : Options) (s : Session) : Command Session := do
  let files := (← get).files
  match s.discover files o.targets o.recursive o.excluded with
  | .error f =>
    Command.sayAll (s.failureLog files o.targets o.recursive o.excluded)
    throw (.fault f)
  | .ok (s, log) =>
    Command.sayAll log
    if s.rules.isEmpty then
      Command.say (alert "No tests would be run, please check the profile.")
      Command.stop 2
    return s

def reportOn (o : Options) (c : Console) (s : Session) (severity confidence : String) : Report :=
  { session := s, files := Session.lineSource c.files, severity, confidence, lines := o.lines, now := c.now
    home := "/" ++ "/".intercalate c.files.home }

def conclude (o : Options) (s : Session) : Command Unit := do
  let c ← get
  let (s, log) := s.run c.files c.input
  Command.sayAll log
  let severity ← Command.ofAnswer (rankAt o.severity)
  let confidence ← Command.ofAnswer (rankAt o.confidence)
  deliver o (reportOn o c s severity confidence)
  let found ← Command.ofAnswer (s.findings severity confidence)
  Command.stop (if found.count != 0 && !o.exitZero then 1 else 0)

/-- Runs the session and reports on it, if the run comes to an end. -/
def perform (o : Options) (s : Session) : Command Unit := do
  let c ← get
  if s.endless c.files (.ok c.input) then throw .endless else conclude o s

def scanWith (o : Options) (debugMessages : Bool) : Command Unit := do
  perform o (← search o (← openSession o debugMessages))

def asksDebug (args : List String) : Bool := args.contains "-d" || args.contains "--debug"

def scan (args : List String) : Command Unit := do
  let o ← Options.ofArguments args
  let o ← o.withFile
  scanWith o (asksDebug args)

end SourceAudit.CommandLine
