import SourceAudit.Proofs.Endings
import SourceAudit.Proofs.Words

/-! Options laid over other options: those of a file come to a patch over the rest of a command line. -/

namespace SourceAudit

namespace CommandLine

open Options

/-- Values for some of the options. -/
structure Patch where
  excluded : Option String := none
  skips : Option (Option String) := none
  tests : Option (Option String) := none
  lines : Option Int := none
  template : Option (Option String) := none
  profile : Option (Option String) := none
  baseline : Option (Option String) := none
  format : Option String := none
  severity : Option Value := none
  confidence : Option Value := none
  output : Option Output := none

namespace Patch

def lay (p : Patch) (o : Options) : Options := { o with
  excluded := p.excluded.getD o.excluded
  skips := p.skips.getD o.skips
  tests := p.tests.getD o.tests
  lines := p.lines.getD o.lines
  template := p.template.getD o.template
  profile := p.profile.getD o.profile
  baseline := p.baseline.getD o.baseline
  format := p.format.getD o.format
  severity := p.severity.getD o.severity
  confidence := p.confidence.getD o.confidence
  output := p.output.getD o.output }

def covers (p : Patch) : ScanFlag → Bool
  | .exclude => p.excluded.isSome
  | .skips => p.skips.isSome
  | .tests => p.tests.isSome
  | .number => p.lines.isSome
  | .template => p.template.isSome
  | .profile => p.profile.isSome
  | .baseline => p.baseline.isSome
  | .format => p.format.isSome
  | .severity | .severityLevel => p.severity.isSome
  | .confidence | .confidenceLevel => p.confidence.isSome
  | .output => p.output.isSome
  | _ => false

variable {p : Patch} {o : Options}

theorem take_lay {flag : ScanFlag} (free : p.covers flag = false) (argument : String) :
    take (p.lay o) flag argument = (take o flag argument).map p.lay := by
  cases flag with
  | exclude | skips | tests | template | profile | baseline | severity | confidence =>
    simp only [covers, Option.isSome_eq_false_iff, Option.isNone_iff_eq_none] at free
    simp [take, lay, free]
  | number =>
    simp only [covers, Option.isSome_eq_false_iff, Option.isNone_iff_eq_none] at free
    cases read : Whole.read? argument <;> simp [take, lay, free, read]
  | format =>
    simp only [covers, Option.isSome_eq_false_iff, Option.isNone_iff_eq_none] at free
    simp only [take]
    split <;> simp [lay, free]
  | aggregate =>
    simp only [take]
    split <;> rfl
  | severityLevel | confidenceLevel =>
    simp only [covers, Option.isSome_eq_false_iff, Option.isNone_iff_eq_none] at free
    cases read : levels.lookup argument <;> simp [take, lay, free, read]
  | _ => rfl

/-- Flags that have been seen keep the same others out. -/
def Bars (seen other : List ScanFlag) : Prop :=
  ∀ flag : ScanFlag, flag.rivals.any seen.contains = flag.rivals.any other.contains

theorem any_contains_cons (flag : ScanFlag) (seen flags : List ScanFlag) :
    flags.any (flag :: seen).contains = (flags.contains flag || flags.any seen.contains) := by
  rw [Bool.eq_iff_iff]
  simp only [List.any_eq_true, List.contains_cons, Bool.or_eq_true, beq_iff_eq, List.contains_iff_mem]
  constructor
  · rintro ⟨g, mem, rfl | there⟩
    · exact .inl mem
    · exact .inr ⟨g, mem, there⟩
  · rintro (mem | ⟨g, mem, there⟩)
    · exact ⟨flag, mem, .inl rfl⟩
    · exact ⟨g, mem, .inr there⟩

theorem Bars.cons {seen other : List ScanFlag} (alike : Bars seen other) (flag : ScanFlag) :
    Bars (flag :: seen) (flag :: other) := by
  intro asked
  rw [any_contains_cons, any_contains_cons, alike asked]

theorem Bars.cons_right {seen other : List ScanFlag} (alike : Bars seen other) {flag : ScanFlag}
    (harmless : ∀ asked : ScanFlag, flag ∉ asked.rivals) : Bars seen (flag :: other) := by
  intro asked
  have absent : asked.rivals.contains flag = false := by
    rw [← Bool.not_eq_true, List.contains_iff_mem]
    exact harmless asked
  rw [any_contains_cons, absent, Bool.false_or, alike asked]

theorem outputWith_lay {flag : ScanFlag} (free : p.covers flag = false) (argument : Option String) :
    (p.lay o).outputWith flag argument = p.output.getD <$> o.outputWith flag argument := by
  cases flag with
  | output =>
    simp only [covers, Option.isSome_eq_false_iff, Option.isNone_iff_eq_none] at free
    have same : p.output.getD = id := by
      rw [free]
      rfl
    rw [same, id_map]
    rfl
  | _ => rfl

theorem obey_lay {flag : ScanFlag} (free : p.covers flag = false) {seen other : List ScanFlag}
    (alike : Bars seen other) (argument : Option String) :
    (p.lay o).obey other flag argument = p.lay <$> o.obey seen flag argument := by
  unfold obey
  rw [outputWith_lay free, bind_map_left, map_bind]
  congr 1
  funext made
  have taken : take { p.lay o with output := p.output.getD made } flag (argument.getD "") =
      (take { o with output := made } flag (argument.getD "")).map p.lay :=
    take_lay (o := { o with output := made }) free _
  rw [taken, ← alike flag]
  cases take { o with output := made } flag (argument.getD "") with
  | none => rfl
  | some next =>
    dsimp only [Option.map_some]
    split
    · rfl
    · cases flag <;> rfl

theorem carryOut_lay {requests : List (Request ScanFlag)}
    (free : ∀ flag argument, .flag flag argument ∈ requests → p.covers flag = false) {seen other : List ScanFlag}
    (alike : Bars seen other) : carryOut (p.lay o) other requests = p.lay <$> carryOut o seen requests := by
  induction requests generalizing o seen other with
  | nil => rfl
  | cons request rest ih =>
    have later : ∀ flag argument, .flag flag argument ∈ rest → p.covers flag = false := by
      intro flag argument mem
      exact free flag argument (List.mem_cons_of_mem _ mem)
    cases request with
    | refused => rfl
    | targets words => exact ih (o := { o with targets := words }) later alike
    | flag flag argument =>
      rw [carryOut, carryOut, obey_lay (free flag argument List.mem_cons_self) alike, map_bind, bind_map_left]
      congr 1
      funext next
      exact ih later (alike.cons flag)

end Patch

/-- An option that files have too: under which key, with which flag, and its long name. -/
structure SharedOption where
  key : String
  flag : ScanFlag
  name : String

def sharedOptions : List SharedOption := [
  ⟨"exclude", .exclude, "--exclude"⟩, ⟨"skips", .skips, "--skip"⟩, ⟨"tests", .tests, "--tests"⟩,
  ⟨"number", .number, "--number"⟩, ⟨"msg-template", .template, "--msg-template"⟩,
  ⟨"profile", .profile, "--profile"⟩, ⟨"baseline", .baseline, "--baseline"⟩, ⟨"format", .format, "--format"⟩,
  ⟨"output", .output, "--output"⟩]

variable {file : String → Option String}

def uses (file : String → Option String) : List (Use ScanFlag) :=
  sharedOptions.filterMap fun s => do
    let argument ← file s.key
    let flag ← Word.flagNamed? ScanFlag.all s.name
    return { flag, name := s.name, argument }

theorem named_sharedOptions : ∀ s ∈ sharedOptions, ∃ flag, Word.flagNamed? ScanFlag.all s.name = some flag ∧
    flag.key = s.flag ∧ flag.takes ≠ .nothing ∧ '-' :: '-' :: s.name.toList.drop 2 = s.name.toList ∧
    '=' ∉ s.name.toList := by
  have checked : ∀ s ∈ sharedOptions, ((Word.flagNamed? ScanFlag.all s.name).any fun flag =>
      flag.key == s.flag && flag.takes != .nothing) = true ∧
      '-' :: '-' :: s.name.toList.drop 2 = s.name.toList ∧ s.name.toList.contains '=' = false := by decide +kernel
  intro s mem
  obtain ⟨named, long, free⟩ := checked s mem
  cases is : Word.flagNamed? ScanFlag.all s.name with
  | none => simp [is] at named
  | some flag =>
    simp only [is, Option.any_some, Bool.and_eq_true, beq_iff_eq, bne_iff_ne] at named
    refine ⟨flag, rfl, named.1, named.2, long, ?_⟩
    intro there
    rw [List.contains_iff_mem.mpr there] at free
    cases free

theorem spellable_uses : ∀ u ∈ uses file, u.Spellable ScanFlag.all := by
  intro u used
  obtain ⟨s, mem, made⟩ := List.mem_filterMap.mp used
  obtain ⟨_, named, -, takes, long, free⟩ := named_sharedOptions s mem
  obtain ⟨v, _, made⟩ := Option.bind_eq_some_iff.mp made
  rw [named] at made
  cases made
  exact ⟨named, long, free, takes, rfl⟩

def asked (flag : ScanFlag) (argument : Option String) : List (Request ScanFlag) :=
  (argument.map fun v => .flag flag (some v)).toList

theorem requests_uses : (uses file).map Use.request = sharedOptions.flatMap fun s => asked s.flag (file s.key) := by
  have each (all : List SharedOption) (among : ∀ s ∈ all, s ∈ sharedOptions) :
      (all.filterMap fun s => do
        let argument ← file s.key
        let flag ← Word.flagNamed? ScanFlag.all s.name
        return ({ flag, name := s.name, argument } : Use ScanFlag)).map Use.request =
      all.flatMap fun s => asked s.flag (file s.key) := by
    induction all with
    | nil => rfl
    | cons s rest ih =>
      rw [List.forall_mem_cons] at among
      obtain ⟨flag, named, key, -⟩ := named_sharedOptions s among.1
      rw [List.filterMap_cons, List.flatMap_cons, ← ih among.2, named]
      cases given : file s.key with
      | none => rfl
      | some v => simp [asked, Use.request, key]
  exact each sharedOptions fun s mem => mem

def plainFlags : List ScanFlag := [.exclude, .skips, .tests, .number, .template, .profile, .baseline, .format]

theorem not_rival_of_plain {flag : ScanFlag} (plain : flag ∈ plainFlags) (asked : ScanFlag) : flag ∉ asked.rivals := by
  have checked : ∀ flag ∈ plainFlags, ∀ other ∈ [ScanFlag.severityLevel, .severity, .confidenceLevel, .confidence,
      .quiet, .verbose], flag ≠ other := by decide
  intro mem
  cases asked <;> simp only [ScanFlag.rivals, List.mem_cons, List.not_mem_nil, or_false] at mem <;>
    exact checked flag plain flag (by simp [mem]) rfl

structure Laid (flag : ScanFlag) (argument : Option String) (p : Patch) : Prop where
  plain : flag ∈ plainFlags
  taken : ∀ (o : Options) (v : String), argument = some v → take o flag v = some (p.lay o)
  kept : ∀ o : Options, argument = none → p.lay o = o

theorem Laid.carryOut_eq {flag : ScanFlag} {argument : Option String} {p : Patch} (laid : Laid flag argument p)
    (o : Options) {seen : List ScanFlag} (alike : Patch.Bars [] seen) (requests : List (Request ScanFlag)) :
    ∃ later, Patch.Bars [] later ∧
      carryOut o seen (asked flag argument ++ requests) = carryOut (p.lay o) later requests := by
  cases argument with
  | none => exact ⟨seen, alike, by rw [laid.kept o rfl]; rfl⟩
  | some v =>
    refine ⟨flag :: seen, alike.cons_right (not_rival_of_plain laid.plain), ?_⟩
    have obeyed : o.obey seen flag (some v) = pure (p.lay o) := by
      have plain := laid.plain
      have same : o.outputWith flag (some v) = pure o.output := by
        cases flag <;> first | rfl | simp [plainFlags] at plain
      have alone : flag.rivals = [] := by cases flag <;> first | rfl | simp [plainFlags] at plain
      unfold obey
      rw [same, pure_bind]
      rw [Option.getD_some, laid.taken o v rfl, alone]
      cases flag <;> first | rfl | simp [plainFlags] at plain
    change (o.obey seen flag (some v) >>= fun o => carryOut o (flag :: seen) requests) = _
    rw [obeyed, pure_bind]

def filePatches (file : String → Option String) : List (ScanFlag × Option String × Patch) := [
  (.exclude, file "exclude", { excluded := file "exclude" }),
  (.skips, file "skips", { skips := (file "skips").map some }),
  (.tests, file "tests", { tests := (file "tests").map some }),
  (.number, file "number", { lines := (file "number").bind fun t => Whole.read? t }),
  (.template, file "msg-template", { template := (file "msg-template").map some }),
  (.profile, file "profile", { profile := (file "profile").map some }),
  (.baseline, file "baseline", { baseline := (file "baseline").map some }),
  (.format, file "format", { format := file "format" })]

def filePatch (file : String → Option String) : Patch where
  excluded := file "exclude"
  skips := (file "skips").map some
  tests := (file "tests").map some
  lines := (file "number").bind fun t => Whole.read? t
  template := (file "msg-template").map some
  profile := (file "profile").map some
  baseline := (file "baseline").map some
  format := file "format"

theorem laid_filePatches (readable : ∀ t, file "number" = some t → (Whole.read? t).isSome)
    (known : ∀ f, file "format" = some f → (Format.all.map Format.name).contains f = true) :
    ∀ e ∈ filePatches file, Laid e.1 e.2.1 e.2.2 := by
  simp only [filePatches, List.forall_mem_cons]
  refine ⟨⟨by decide, ?_, ?_⟩, ⟨by decide, ?_, ?_⟩, ⟨by decide, ?_, ?_⟩, ⟨by decide, ?_, ?_⟩, ⟨by decide, ?_, ?_⟩,
    ⟨by decide, ?_, ?_⟩, ⟨by decide, ?_, ?_⟩, ⟨by decide, ?_, ?_⟩, fun _ mem => absurd mem List.not_mem_nil⟩
  case refine_7 =>
    intro o v given
    obtain ⟨n, read⟩ := Option.isSome_iff_exists.mp (readable v given)
    simp [take, Patch.lay, given, read]
  case refine_15 =>
    intro o v given
    rw [given]
    exact if_pos (known v given)
  all_goals
    intros
    simp_all only
    rfl

theorem carryOut_laid {all : List (ScanFlag × Option String × Patch)} (laid : ∀ e ∈ all, Laid e.1 e.2.1 e.2.2)
    (o : Options) {seen : List ScanFlag} (alike : Patch.Bars [] seen) (requests : List (Request ScanFlag)) :
    ∃ later, Patch.Bars [] later ∧ carryOut o seen ((all.flatMap fun e => asked e.1 e.2.1) ++ requests) =
      carryOut (all.foldl (fun o e => e.2.2.lay o) o) later requests := by
  induction all generalizing o seen with
  | nil => exact ⟨seen, alike, rfl⟩
  | cons e rest ih =>
    rw [List.forall_mem_cons] at laid
    obtain ⟨_, alike', first⟩ := laid.1.carryOut_eq o alike ((rest.flatMap fun e => asked e.1 e.2.1) ++ requests)
    obtain ⟨later, alike'', others⟩ := ih laid.2 (e.2.2.lay o) alike'
    refine ⟨later, alike'', ?_⟩
    rw [List.flatMap_cons, List.append_assoc, first, others]
    rfl

theorem carryOut_uses (unwritten : file "output" = none) (readable : ∀ t, file "number" = some t → (Whole.read? t).isSome)
    (known : ∀ f, file "format" = some f → (Format.all.map Format.name).contains f = true)
    (requests : List (Request ScanFlag)) : ∃ seen, Patch.Bars [] seen ∧
      carryOut {} [] ((uses file).map Use.request ++ requests) = carryOut ((filePatch file).lay {}) seen requests := by
  have same : (uses file).map Use.request = (filePatches file).flatMap fun e => asked e.1 e.2.1 := by
    simp [requests_uses, sharedOptions, filePatches, asked, unwritten]
  rw [same]
  exact carryOut_laid (laid_filePatches readable known) {} (fun _ => rfl) requests

theorem carryOut_targets {front : List (Request ScanFlag)} (flags : ∀ r ∈ front, ∃ key argument, r = .flag key argument)
    (o : Options) (seen : List ScanFlag) (targets : List String) :
    carryOut o seen (front ++ [.targets targets]) = ({ · with targets }) <$> carryOut o seen front := by
  induction front generalizing o seen with
  | nil => rfl
  | cons r rest ih =>
    rw [List.forall_mem_cons] at flags
    obtain ⟨⟨key, argument, rfl⟩, others⟩ := flags
    rw [List.cons_append, carryOut, carryOut, map_bind]
    congr 1
    funext next
    exact ih others next (key :: seen)

def blank (file : String → Option String) : Patch where
  excluded := (file "exclude").map fun _ => standardExclusions
  skips := (file "skips").map fun _ => none
  tests := (file "tests").map fun _ => none
  lines := (file "number").map fun _ => 3
  template := (file "msg-template").map fun _ => none
  profile := (file "profile").map fun _ => none
  baseline := (file "baseline").map fun _ => none
  format := (file "format").map fun _ => "txt"
  severity := (file "level").map fun _ => .int 1
  confidence := (file "confidence").map fun _ => .int 1
  output := (file "output").map fun _ => .standard

theorem lay_blank : (blank file).lay {} = {} := by
  have same {α β : Type} (given : Option α) (value : β) : (given.map fun _ => value).getD value = value := by
    cases given <;> rfl
  simp only [Patch.lay, blank, same]

def ScanFlag.fileKey? : ScanFlag → Option String
  | .exclude => some "exclude"
  | .skips => some "skips"
  | .tests => some "tests"
  | .number => some "number"
  | .template => some "msg-template"
  | .profile => some "profile"
  | .baseline => some "baseline"
  | .format => some "format"
  | .severity | .severityLevel => some "level"
  | .confidence | .confidenceLevel => some "confidence"
  | .output => some "output"
  | _ => none

def requestsOf (args : List String) : List (Request ScanFlag) := Request.ofStrings ScanFlag.all .any true args

/-- No option of the file is given on the command line. -/
structure Apart (file : String → Option String) (args : List String) : Prop where
  flags : ∀ flag argument, .flag flag argument ∈ requestsOf args → ∀ key, flag.fileKey? = some key → file key = none
  targets : file "targets" ≠ none → "--" ∉ args ∧ ∀ words, .targets words ∈ requestsOf args → words = []

theorem Apart.covers_filePatch {args : List String} (apart : Apart file args) {flag : ScanFlag}
    {argument : Option String} (asked : .flag flag argument ∈ requestsOf args) :
    (filePatch file).covers flag = false ∧ (blank file).covers flag = false := by
  have unset := apart.flags flag argument asked
  cases flag <;>
    simp_all [ScanFlag.fileKey?, Patch.covers, filePatch, blank]

end CommandLine

end SourceAudit
