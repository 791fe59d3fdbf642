import SourceAudit.Proofs.Choosing
import SourceAudit.Proofs.Grading
import SourceAudit.Proofs.Memory
import SourceAudit.Proofs.Provenance

/-! How a scan ends, from the arguments to the report. -/

namespace SourceAudit

open Answers Session EStateM Command

variable {n : Nat} {seen : List ScanFlag} {argument : Option String} {later : Console} {args : List String}
  {s : Session}

namespace FileTree

def Legible (t : FileTree) : Prop := ∀ f ∈ t.files, (Utf8.decode? f.2).isSome

theorem Legible.addEmpty {t : FileTree} (legible : t.Legible) (p : Place) : (t.addFile p []).Legible := by
  intro f mem
  rcases List.mem_append.mp mem with old | new
  · exact legible f (List.mem_filter.mp old).1
  · rw [List.mem_singleton.mp new]
    rfl

theorem mem_of_read {t : FileTree} {path : String} {b : Bytes} (read : t.read path = .ok b) : ∃ p, (p, b) ∈ t.files := by
  simp only [FileTree.read, bind, Except.bind] at read
  split at read
  · cases read
  · rename_i p _
    split at read
    · cases read
    · split at read
      · rename_i content found
        split at read
        · cases read
        · split at read
          · cases read
          · rw [← Except.ok.inj read]
            exact ⟨p, Lists.mem_of_lookup found⟩
      · cases read

end FileTree

/-- A command ends with one of the codes that are announced. -/
def Ending.Announced (e : Ending) : Prop := e = .exit 0 ∨ e = .exit 1 ∨ e = .exit 2

theorem Rank.exists_index (low : n < 4) : ∃ rank : Rank, rank.index = n := by
  match n with
  | 0 => exact ⟨.undefined, rfl⟩
  | 1 => exact ⟨.low, rfl⟩
  | 2 => exact ⟨.medium, rfl⟩
  | 3 => exact ⟨.high, rfl⟩

/-- What a command may change before it has its options: it may add empty files. -/
structure Console.Prepares (c later : Console) : Prop where
  files : c.files.Legible → later.files.Legible
  input : later.input = c.input

namespace CommandLine

open Options

/-- The places of the least ranks count repeated flags from one. -/
structure Options.Counts (o : Options) (n m : Nat) : Prop where
  severity : o.severity = .int (n + 1)
  confidence : o.confidence = .int (m + 1)

variable {flag : ScanFlag} {o next : Options}

theorem counts_of_take {argument : String} {m : Nat} (counts : o.Counts n m)
    (taken : o.take flag argument = some next) : ∃ n m, next.Counts n m := by
  obtain ⟨severity, confidence⟩ := counts
  have placed {level : Int} (mem : levels.lookup argument = some level) : ∃ n : Nat, level = n + 1 := by
    have known : ∀ l ∈ levels, ∃ n : Nat, l.2 = n + 1 := by
      simp only [levels, List.forall_mem_cons]
      exact ⟨⟨0, rfl⟩, ⟨1, rfl⟩, ⟨2, rfl⟩, ⟨3, rfl⟩, by simp⟩
    exact known _ (Lists.mem_of_lookup mem)
  unfold take at taken
  cases flag with
  | severity =>
    cases taken
    exact ⟨n + 1, m, by rw [severity, raise, Int.natCast_succ], confidence⟩
  | confidence =>
    cases taken
    exact ⟨n, m + 1, severity, by rw [confidence, raise, Int.natCast_succ]⟩
  | severityLevel =>
    obtain ⟨level, mem, same⟩ := Option.bind_eq_some_iff.mp taken
    obtain ⟨k, rfl⟩ := placed mem
    cases same
    exact ⟨k, m, rfl, confidence⟩
  | confidenceLevel =>
    obtain ⟨level, mem, same⟩ := Option.bind_eq_some_iff.mp taken
    obtain ⟨k, rfl⟩ := placed mem
    cases same
    exact ⟨n, k, severity, rfl⟩
  | number =>
    obtain ⟨k, -, same⟩ := Option.bind_eq_some_iff.mp taken
    cases same
    exact ⟨n, m, severity, confidence⟩
  | aggregate | format =>
    simp only [Option.ite_none_right_eq_some, Option.some.injEq] at taken
    rw [← taken.2]
    exact ⟨n, m, severity, confidence⟩
  | _ =>
    cases taken
    exact ⟨n, m, severity, confidence⟩

theorem exists_of_obey {c : Console} (obeyed : EStateM.run (o.obey seen flag argument) c = .ok next later) :
    ∃ output, EStateM.run (o.outputWith flag argument) c = .ok output later ∧
      take { o with output } flag (argument.getD "") = some next := by
  obtain ⟨output, last, opened, obeyed⟩ := run_bind_eq_ok.mp obeyed
  cases taken : take { o with output } flag (argument.getD "") with
  | none =>
    rw [taken] at obeyed
    cases obeyed
  | some made =>
    rw [taken] at obeyed
    dsimp only at obeyed
    split at obeyed
    · cases obeyed
    · split at obeyed
      · cases obeyed
      · cases obeyed
      · cases obeyed
        exact ⟨output, opened, taken⟩

variable {c : Console}

theorem prepares_of_openOutput {output : Output}
    (opened : EStateM.run (openOutput argument) c = .ok output later) : Console.Prepares c later := by
  have created (path : String) : ∃ made next, EStateM.run (Command.create path) c = .ok made next ∧
      Console.Prepares c next := by
    unfold Command.create
    rw [EStateM.run_bind, EStateM.run_get]
    dsimp only
    split
    · split
      · exact ⟨_, _, rfl, id, rfl⟩
      · exact ⟨_, _, rfl, fun legible => legible.addEmpty _, rfl⟩
    · exact ⟨_, _, rfl, id, rfl⟩
  unfold openOutput at opened
  split at opened
  · cases opened
    exact ⟨id, rfl⟩
  · cases opened
    exact ⟨id, rfl⟩
  · rename_i path _
    obtain ⟨made, next, ran, prepares⟩ := created path
    rw [EStateM.run_bind, ran] at opened
    cases made with
    | false => cases opened
    | true =>
      cases opened
      exact prepares

theorem of_carryOut {requests : List (Request ScanFlag)} {o last : Options} {m : Nat}
    (counts : o.Counts n m) (done : EStateM.run (carryOut o seen requests) c = .ok last later) :
    .refused ∉ requests ∧ (∃ n m, last.Counts n m) ∧ Console.Prepares c later := by
  induction requests generalizing o seen c n m with
  | nil =>
    cases done
    exact ⟨List.not_mem_nil, ⟨n, m, counts⟩, id, rfl⟩
  | cons request rest ih =>
    cases request with
    | refused => cases done
    | targets words =>
      obtain ⟨whole, ends⟩ := ih (o := { o with targets := words }) ⟨counts.severity, counts.confidence⟩ done
      exact ⟨by simpa using whole, ends⟩
    | flag flag argument =>
      obtain ⟨taken, next, obeyed, done⟩ := run_bind_eq_ok.mp done
      obtain ⟨output, opened, took⟩ := exists_of_obey obeyed
      have same : Options.Counts { o with output } n m := ⟨counts.severity, counts.confidence⟩
      obtain ⟨n, m, still⟩ := counts_of_take same took
      obtain ⟨whole, end_, after⟩ := ih still done
      have first : Console.Prepares c next := by
        unfold outputWith at opened
        split at opened
        · exact prepares_of_openOutput opened
        · cases opened
          exact ⟨id, rfl⟩
      exact ⟨by simpa using whole, end_, fun legible => after.files (first.files legible),
        after.input.trans first.input⟩

theorem of_ofArguments {o : Options} (accepted : EStateM.run (ofArguments args) c = .ok o later) :
    (∃ n m, o.Counts n m) ∧ Console.Prepares c later := by
  obtain ⟨last, next, done, accepted⟩ := run_bind_eq_ok.mp accepted
  have ends := (of_carryOut (n := 0) (m := 0) ⟨rfl, rfl⟩ done).2
  split at accepted
  · cases accepted
  · cases accepted
    exact ends

/-! ### The session -/

section

variable {o : Options} {c : Console}

theorem settingsOf_unset (unset : o.settingsFile.getD "" = "") (c : Console) :
    EStateM.run (settingsOf o) c = .ok .standard c := by
  unfold settingsOf
  simp only [unset]
  rfl

def standardEntries : Fields :=
  [(.str "plugin_name_pattern", .str "*.py"), (.str "include", .list [.str "*.py", .str "*.pyw"])]

theorem profileOf_standard (o : Options) (c : Console) :
    (∃ last, EStateM.run (profileOf o .standard) c = .error (.exit 2) last) ∨
      ∃ included excluded : List Text, EStateM.run (profileOf o .standard) c =
        .ok (choice (.set (included.map .text)) (.set (excluded.map .text))) c := by
  by_cases nameless : o.profile.getD "" = ""
  · have chooses : Chooses standardEntries o (idsIn o.tests) (idsIn o.skips) :=
      ⟨nameless, ⟨[], .inl ⟨by decide +kernel, rfl⟩, by simp⟩, [], .inl ⟨by decide +kernel, rfl⟩, by simp⟩
    obtain ⟨record, is, judged⟩ := exists_choice chooses
    change profileOf o .standard = settle record at judged
    rw [judged]
    by_cases refused : Refused (idsIn o.tests) (idsIn o.skips)
    · obtain ⟨_, ends⟩ := run_settle_of_refused is refused
      exact .inl ⟨_, ends c⟩
    · rw [settle_of_not_refused is refused]
      obtain ⟨included, excluded, rfl, ⟨as, rfl, -⟩, bs, rfl, -⟩ := is
      exact .inr ⟨as, bs, rfl⟩
  · have unknown : Settings.standard.profile (o.profile.getD "") (o.settingsFile.getD "None") =
        .error (.noProfile (o.settingsFile.getD "None") (o.profile.getD "")) := by
      have named : (o.profile.getD "").isEmpty = false := by simpa using nameless
      have none : Settings.standard.option "profiles" = .ok .null := by cbv
      simp only [Settings.profile, named, none]
      rfl
    left
    unfold profileOf
    rw [unknown]
    exact ⟨_, rfl⟩

theorem loadBaseline_ends (legible : c.files.Legible) (o : Options) (s : Session) :
    (∃ last, EStateM.run (loadBaseline o s) c = .error (.exit 2) last) ∨
      ∃ baseline log, EStateM.run (loadBaseline o s) c = .ok { s with baseline } { c with log := c.log ++ log } := by
  unfold loadBaseline
  cases given : o.baseline with
  | none => exact .inr ⟨s.baseline, [], by simp [EStateM.run_pure]⟩
  | some path =>
    dsimp only
    rw [EStateM.run_bind]
    have read : EStateM.run (Command.read path) c = .ok (c.files.read path) c := rfl
    rw [read]
    dsimp only
    cases content : c.files.read path with
    | error why => exact .inl ⟨_, rfl⟩
    | ok b =>
      obtain ⟨p, mem⟩ := FileTree.mem_of_read content
      obtain ⟨cs, decoded⟩ := Option.isSome_iff_exists.mp (legible _ mem)
      simp only [decoded]
      rw [EStateM.run_bind]
      cases takes : ((Format.ofName? o.format).map Format.takesBaseline).getD false with
      | false => exact .inl ⟨_, rfl⟩
      | true => exact .inr ⟨(Baseline.read (Text.ofChars cs)).1, (Baseline.read (Text.ofChars cs)).2, rfl⟩

/-- A session as the search finds it: nothing has been scanned, and what its rules report is graded. -/
structure Opened (s : Session) : Prop where
  fresh : s.Fresh
  unsearched : s.targets.files = []
  graded : s.rules.AllGraded
  settings : s.settings = .standard

theorem openSession_ends (unset : o.settingsFile.getD "" = "") (legible : c.files.Legible) (debugMessages : Bool) :
    (∃ last, EStateM.run (openSession o debugMessages) c = .error (.exit 2) last) ∨
      ∃ s log, EStateM.run (openSession o debugMessages) c = .ok s { c with log := c.log ++ log } ∧ Opened s := by
  unfold openSession
  rw [EStateM.run_bind, settingsOf_unset unset c]
  dsimp only
  cases targets : o.targets.isEmpty with
  | true => exact .inl ⟨_, rfl⟩
  | false =>
    have form : Settings.standard.option "log_format" = .ok .null := by cbv
    rw [form]
    simp only [Bool.false_eq_true, if_false, Command.ofAnswer_ok_bind]
    simp only [show Value.null.truthy = false from rfl, Bool.false_eq_true, if_false]
    rw [EStateM.run_bind]
    rcases profileOf_standard o c with ⟨last, refused⟩ | ⟨included, excluded, accepted⟩
    · rw [refused]
      exact .inl ⟨last, rfl⟩
    · rw [accepted]
      obtain ⟨rules, chosen⟩ := RuleSet.exists_ofProfile (p := ⟨included, excluded, .null⟩) rfl
        standardEntries
      have created : Session.create .standard (choice (.set (included.map .text)) (.set (excluded.map .text))) =
          .ok { settings := .standard, rules } :=
        (Session.create_eq_ok (ofValue_choice included excluded)).mpr ⟨rules, chosen, rfl⟩
      dsimp only
      rw [created, Command.ofAnswer_ok_bind]
      rcases loadBaseline_ends legible o _ with ⟨last, refused⟩ | ⟨_, log, loaded⟩
      · exact .inl ⟨last, refused⟩
      · refine .inr ⟨_, log, loaded, ?_⟩
        exact ⟨⟨rfl, rfl, rfl, rfl⟩, rfl, RuleSet.allGraded_ofProfile chosen rfl, rfl⟩

theorem search_ends (standard : s.settings = .standard) (o : Options) (c : Console) :
    (∃ last, EStateM.run (search o s) c = .error (.exit 2) last) ∨
      ∃ found log, EStateM.run (search o s) c = .ok found { c with log := c.log ++ log } ∧
        s.discover c.files o.targets o.recursive o.excluded = .ok (found, log) := by
  obtain ⟨⟨found, log⟩, discovered, -⟩ :=
    Session.answered_discover_standard standard c.files o.targets o.recursive o.excluded
  unfold search
  rw [EStateM.run_bind, EStateM.run_get]
  dsimp only
  rw [discovered]
  dsimp only
  rw [EStateM.run_bind]
  cases none : found.rules.isEmpty with
  | true => exact .inl ⟨_, rfl⟩
  | false => exact .inr ⟨found, log, rfl, rfl⟩

theorem session_ends (unset : o.settingsFile.getD "" = "") (legible : c.files.Legible) (debugMessages : Bool) :
    (∃ last, EStateM.run (openSession o debugMessages >>= search o) c = .error (.exit 2) last) ∨
      ∃ s later, EStateM.run (openSession o debugMessages >>= search o) c = .ok s later ∧ later.input = c.input ∧
        (s.run later.files later.input).1.Presentable later.input := by
  rw [EStateM.run_bind]
  rcases openSession_ends unset legible debugMessages with ⟨last, refused⟩ | ⟨_, log, opened, ready⟩
  · rw [refused]
    exact .inl ⟨last, rfl⟩
  · rw [opened]
    dsimp only
    rcases search_ends ready.settings o { c with log := c.log ++ log } with
      ⟨last, refused⟩ | ⟨found, more, searched, discovered⟩
    · exact .inl ⟨last, refused⟩
    · exact .inr ⟨found, _, searched, rfl,
        Session.presentable_run ready.fresh ready.unsearched ready.graded discovered c.input⟩

/-! ### The report -/

def scanned (c : Console) (s : Session) : Console := { c with log := c.log ++ (s.run c.files c.input).2 }

def dueReport (o : Options) (c : Console) (s : Session) (severity confidence : Rank) : Report :=
  reportOn o c (s.run c.files c.input).1 severity.name confidence.name

theorem rankAt_rank (rank : Rank) : rankAt (.int (rank.index + 1)) = .ok rank.name := by cases rank <;> rfl

theorem rankAt_beyond (beyond : 4 ≤ n) : rankAt (.int (n + 1)) = .error .outOfRange := by
  have place : ((n : Int) + 1 - 1).toNat = n := by omega
  have none : ["UNDEFINED", "LOW", "MEDIUM", "HIGH"][n]? = none := List.getElem?_eq_none beyond
  rw [rankAt, place, none]

theorem conclude_beyond {m : Nat} (counts : o.Counts n m) (beyond : 4 ≤ n ∨ 4 ≤ m) (s : Session) (c : Console) :
    EStateM.run (conclude o s) c = .error (.fault .outOfRange) (scanned c s) := by
  unfold conclude
  rw [counts.severity, counts.confidence]
  by_cases high : 4 ≤ n
  · rw [rankAt_beyond high]
    rfl
  · have sure : 4 ≤ m := beyond.resolve_left high
    obtain ⟨_, same⟩ := Rank.exists_index (by omega : n < 4)
    rw [← same, rankAt_rank, rankAt_beyond sure]
    rfl

theorem conclude_ends {severity confidence : Rank} (counts : o.Counts severity.index confidence.index)
    {found : Findings} (judged : (dueReport o c s severity confidence).findings = .ok found) :
    EStateM.run (conclude o s) c =
      match EStateM.run (deliver o (dueReport o c s severity confidence)) (scanned c s) with
      | .ok () last => .error (.exit (if found.issues ≠ [] ∧ o.exitZero = false then 1 else 0)) last
      | .error e last => .error e last := by
  have code : (if found.count != 0 && !o.exitZero then 1 else 0) =
      (if found.issues ≠ [] ∧ o.exitZero = false then 1 else 0) := by
    simp [← Findings.count_eq_zero]
  unfold conclude
  rw [counts.severity, counts.confidence, rankAt_rank, rankAt_rank, EStateM.run_bind, EStateM.run_get]
  unfold dueReport scanned at *
  dsimp only
  generalize s.run c.files c.input = ran at judged ⊢
  obtain ⟨after, log⟩ := ran
  change EStateM.run (do
    deliver o (reportOn o c after severity.name confidence.name)
    let found ← Command.ofAnswer (reportOn o c after severity.name confidence.name).findings
    Command.stop (if found.count != 0 && !o.exitZero then 1 else 0)) { c with log := c.log ++ log } = _
  rw [EStateM.run_bind, judged, Command.ofAnswer_ok_bind, code]
  cases EStateM.run (deliver o (reportOn o c after severity.name confidence.name)) { c with log := c.log ++ log } with
  | ok done last => rfl
  | error e last => rfl

theorem run_perform (o : Options) (s : Session) (c : Console) : EStateM.run (perform o s) c =
    if s.endless c.files (.ok c.input) then .error .endless c else EStateM.run (conclude o s) c := by
  unfold perform
  rw [EStateM.run_bind, EStateM.run_get]
  dsimp only
  split <;> rfl

theorem run_perform_of_ended (ended : s.endless c.files (.ok c.input) = false) :
    EStateM.run (perform o s) c = EStateM.run (conclude o s) c := by
  rw [run_perform, ended, if_neg Bool.false_ne_true]

/-- The report is made and there is something to write it to, or its template is refused. -/
def Deliverable (o : Options) (r : Report) : Prop :=
  match (r.write (Report.formatOf o.format) (o.template.map Text.ofString)).1 with
  | .ok _ => o.output ≠ .unusable
  | .error e => e = .refused

theorem deliver_made {r : Report} {text : ReportText}
    (made : (r.write (Report.formatOf o.format) (o.template.map Text.ofString)).1 = .ok text)
    (usable : o.output ≠ .unusable) (c : Console) : ∃ last, EStateM.run (deliver o r) c = .ok () last := by
  unfold deliver
  dsimp only
  generalize r.write (Report.formatOf o.format) (o.template.map Text.ofString) = written at made ⊢
  obtain ⟨_, _⟩ := written
  cases made
  cases goes : o.output with
  | unusable => exact absurd goes usable
  | standard => exact ⟨_, rfl⟩
  | file path => exact ⟨_, rfl⟩

theorem deliver_ends (o : Options) (r : Report) (c : Console) :
    Deliverable o r ∧ (∃ last, EStateM.run (deliver o r) c = .ok () last) ∨
      Deliverable o r ∧ (∃ last, EStateM.run (deliver o r) c = .error (.exit 2) last) ∨
      ¬ Deliverable o r ∧ ∃ e last, EStateM.run (deliver o r) c = .error (.unreported e) last := by
  unfold Deliverable deliver
  dsimp only
  generalize r.write (Report.formatOf o.format) (o.template.map Text.ofString) = written
  obtain ⟨made, _⟩ := written
  cases made with
  | ok text =>
    cases o.output with
    | unusable => exact .inr (.inr ⟨fun usable => usable rfl, _, _, rfl⟩)
    | standard => exact .inl ⟨by simp, _, rfl⟩
    | file path => exact .inl ⟨by simp, _, rfl⟩
  | error e =>
    cases e with
    | refused => exact .inr (.inl ⟨rfl, _, rfl⟩)
    | failed format => exact .inr (.inr ⟨by simp, _, _, rfl⟩)

end

def begun (args : List String) (o : Options) (s : Session) : Session := { s with
  aggregation := o.aggregation, debug := o.debug, verbose := o.verbose, quiet := o.quiet
  heedComments := !o.ignoreComments, traced := asksDebug args && !o.quiet }

def Readies (args : List String) (o : Options) (c : Console) (s : Session) (later : Console) : Prop :=
  EStateM.run (openSession o (asksDebug args) >>= search o) c = .ok s later

theorem announced_conclude {o : Options} {m : Nat} (counts : o.Counts n m) {c : Console}
    (presentable : (s.run c.files c.input).1.Presentable c.input) :
    (Command.run (conclude o s) c).1.Announced ↔ ∃ severity confidence : Rank, severity.index = n ∧
      confidence.index = m ∧ Deliverable o (dueReport o c s severity confidence) := by
  by_cases beyond : 4 ≤ n ∨ 4 ≤ m
  · rw [Command.run, conclude_beyond counts beyond]
    apply iff_of_false
    · simp [Ending.Announced]
    · rintro ⟨severity, confidence, rfl, rfl, -⟩
      have low (rank : Rank) : rank.index < 4 := by cases rank <;> decide
      have high := low severity
      have sure := low confidence
      omega
  · obtain ⟨severity, rfl⟩ := Rank.exists_index (by omega : n < 4)
    obtain ⟨confidence, rfl⟩ := Rank.exists_index (by omega : m < 4)
    have delivers : (Command.run (conclude o s) c).1.Announced ↔
        Deliverable o (dueReport o c s severity confidence) := by
      rw [Command.run, conclude_ends counts (presentable.findings_eq severity confidence)]
      rcases deliver_ends o (dueReport o c s severity confidence) (scanned c s) with
        ⟨deliverable, last, ended⟩ | ⟨deliverable, last, ended⟩ | ⟨undeliverable, e, last, ended⟩
      · rw [ended]
        apply iff_of_true _ deliverable
        dsimp only
        split
        · exact .inr (.inl rfl)
        · exact .inl rfl
      · rw [ended]
        exact iff_of_true (.inr (.inr rfl)) deliverable
      · rw [ended]
        exact iff_of_false (by simp [Ending.Announced]) undeliverable
    rw [delivers]
    constructor
    · intro deliverable
      exact ⟨severity, confidence, rfl, rfl, deliverable⟩
    · rintro ⟨first, second, same, likewise, deliverable⟩
      rwa [Rank.index_injective same, Rank.index_injective likewise] at deliverable

theorem announced_perform {o : Options} {m : Nat} (counts : o.Counts n m) {c : Console}
    (presentable : (s.run c.files c.input).1.Presentable c.input) :
    (Command.run (perform o s) c).1.Announced ↔ s.endless c.files (.ok c.input) = false ∧
      ∃ severity confidence : Rank, severity.index = n ∧ confidence.index = m ∧
        Deliverable o (dueReport o c s severity confidence) := by
  rw [Command.run, run_perform]
  cases s.endless c.files (.ok c.input) with
  | true => simp [Ending.Announced]
  | false =>
    rw [if_neg Bool.false_ne_true, ← announced_conclude counts presentable, Command.run]
    simp

theorem run_scan_of_accepted {before c : Console} {o : Options}
    (accepted : EStateM.run (ofArguments args) before = .ok o c) (unfiled : EStateM.run o.source c = .ok none c) :
    EStateM.run (scan args) before = EStateM.run (scanWith o (asksDebug args)) c := by
  have kept : EStateM.run o.withFile c = .ok o c := by
    rw [withFile, EStateM.run_bind, unfiled]
    rfl
  rw [scan, EStateM.run_bind, accepted]
  dsimp only
  rw [EStateM.run_bind, kept]

/-- A scan over legible files, without files of options or settings, ends with an announced code exactly if its session
does not get ready, or its run ends, no rank beyond the highest is asked for and the report can be delivered. The code
of a written report is one if there are findings, unless zero is asked for. Without a template the report is written if
there is something to write it to, and standard input can be decoded and all texts encoded. -/
theorem scan_ends {args : List String} {before c : Console} {o : Options}
    (accepted : EStateM.run (ofArguments args) before = .ok o c) (unfiled : EStateM.run o.source c = .ok none c)
    (unset : o.settingsFile.getD "" = "") (legible : before.files.Legible) :
    ∃ n m, o.Counts n m ∧
      ((Command.run (scan args) before).1.Announced ↔ ∀ s later, Readies args o c s later →
        s.endless later.files (.ok later.input) = false ∧
          ∃ severity confidence : Rank, severity.index = n ∧ confidence.index = m ∧
            Deliverable o (dueReport o later s severity confidence)) ∧
      ∀ s later, Readies args o c s later → s.endless later.files (.ok later.input) = false →
        ∀ severity confidence : Rank, severity.index = n → confidence.index = m →
        ∃ found, (dueReport o later s severity confidence).findings = .ok found ∧
          (∀ last, EStateM.run (deliver o (dueReport o later s severity confidence)) (scanned later s) = .ok () last →
            Command.run (scan args) before =
              (.exit (if found.issues ≠ [] ∧ o.exitZero = false then 1 else 0), last)) ∧
          (Report.formatOf o.format ≠ .custom → o.output ≠ .unusable →
            (∀ l ∈ Source.feedLines before.input, (Utf8.decode? l).isSome) →
            (∀ i ∈ found.issues, Text.Proper i.text) →
            ∃ last, EStateM.run (deliver o (dueReport o later s severity confidence)) (scanned later s) =
              .ok () last) := by
  obtain ⟨⟨n, m, counts⟩, prepares⟩ := of_ofArguments accepted
  have run : Command.run (scan args) before = Command.run (scanWith o (asksDebug args)) c := by
    rw [Command.run, Command.run, run_scan_of_accepted accepted unfiled]
  refine ⟨n, m, counts, ?_⟩
  rw [run]
  rcases session_ends unset (prepares.files legible) (asksDebug args) with
    ⟨last, refused⟩ | ⟨s, later, readied, input, presentable⟩
  · have ends : Command.run (scanWith o (asksDebug args)) c = (.exit 2, last) := by
      rw [Command.run, scanWith, ← bind_assoc, EStateM.run_bind, refused]
    have never (s : Session) (later : Console) : ¬ Readies args o c s later := by
      intro readied
      rw [Readies, refused] at readied
      cases readied
    constructor
    · rw [ends]
      exact iff_of_true (.inr (.inr rfl)) fun s later readied => absurd readied (never s later)
    · intro s later readied
      exact absurd readied (never s later)
  · have ends : Command.run (scanWith o (asksDebug args)) c = Command.run (perform o s) later := by
      rw [Command.run, scanWith, ← bind_assoc, EStateM.run_bind, readied, Command.run]
    have only {other : Session} {end_ : Console} (ready : Readies args o c other end_) :
        other = s ∧ end_ = later := by
      rw [Readies, readied] at ready
      cases ready
      exact ⟨rfl, rfl⟩
    rw [ends, announced_perform counts presentable]
    constructor
    · constructor
      · intro delivers other end_ ready
        obtain ⟨rfl, rfl⟩ := only ready
        exact delivers
      · intro delivers
        exact delivers s later readied
    · intro other end_ ready ended severity confidence high sure
      obtain ⟨rfl, rfl⟩ := only ready
      subst high sure
      refine ⟨_, presentable.findings_eq severity confidence, ?_, ?_⟩
      · intro last delivered
        rw [Command.run, run_perform_of_ended ended,
          conclude_ends counts (presentable.findings_eq severity confidence), delivered]
      · intro plain usable typed proper
        obtain ⟨text, made⟩ := Report.exists_write_of_presentable (r := dueReport o end_ other severity confidence)
          presentable (by rw [input, prepares.input]; exact typed) rfl ⟨rfl, rfl⟩
          (presentable.findings_eq severity confidence) proper plain (o.template.map Text.ofString)
        exact deliver_made made usable (scanned end_ other)

theorem exists_ready {o : Options} (unset : o.settingsFile.getD "" = "") (targets : o.targets.isEmpty = false)
    (bare : o.baseline = none) {c : Console}
    (record : EStateM.run (profileOf o .standard) c = .ok (choice (.set []) (.set [])) c) (args : List String) :
    ∃ s found log, Session.create .standard (.dict []) = .ok s ∧
      discover c.files o.targets o.recursive o.excluded (begun args o s) = .ok (found, log) ∧
      Readies args o c found { c with log := c.log ++ log } := by
  obtain ⟨s, created, settings⟩ := exists_created_standard
  obtain ⟨⟨found, log⟩, discovered, -⟩ := answered_discover_standard (s := begun args o s) settings c.files o.targets
    o.recursive o.excluded
  have same : Session.create .standard (choice (.set []) (.set [])) = .ok s := by
    rw [← created, Session.create, Session.create]
    rfl
  have form : Settings.standard.option "log_format" = .ok .null := by cbv
  have opened : EStateM.run (openSession o (asksDebug args)) c = .ok (begun args o s) c := by
    unfold openSession
    rw [EStateM.run_bind, settingsOf_unset unset c]
    simp only [targets, form, Bool.false_eq_true, if_false, ofAnswer_ok_bind, show Value.null.truthy = false from rfl]
    rw [EStateM.run_bind, record]
    dsimp only
    rw [same, ofAnswer_ok_bind, loadBaseline, bare, Bool.or_false]
    rfl
  have rules : found.rules.isEmpty = false := by
    rw [(Session.discover_eq_ok discovered).1]
    dsimp only [begun]
    rw [(rules_of_created created).1]
    decide +kernel
  refine ⟨s, found, log, created, discovered, ?_⟩
  rw [Readies, EStateM.run_bind, opened]
  dsimp only
  rw [search, EStateM.run_bind, run_get]
  dsimp only
  rw [discovered]
  dsimp only
  rw [EStateM.run_bind, rules]
  rfl

theorem beside_of_discover {t : FileTree} {recursive : Bool} {excluded : String} {found : Session} {log : Log}
    (file : t.isFolder "a.py" = false) (done : discover t ["a.py"] recursive excluded s = .ok (found, log)) :
    ∀ f ∈ found.targets.files, f = "./a.py" := by
  have named : Targets.scannedName "a.py" = "./a.py" := by decide +kernel
  intro f listed
  rw [(Session.mem_targets_discover done f).1] at listed
  simp only [List.mem_singleton, Targets.Found, exists_eq_left, file, named] at listed
  rcases listed with ⟨-, -, same⟩ | found
  · exact same
  · simp at found

/-- The way up from a file in the working folder has an end. -/
theorem endless_beside {found : Session} (beside : ∀ f ∈ found.targets.files, f = "./a.py") (t : FileTree)
    (input : Input) : found.endless t input = false := by
  have parts : Path.split "./a.py" = (".", "a.py") := by decide +kernel
  have named : moduleName t.isFile "./a.py" = .ok (joinStrings "." [Path.stem "a.py"]) := by
    rw [moduleName, parts]
    rfl
  rw [Session.endless, List.any_eq_false]
  intro f listed
  rw [beside f listed, document, if_neg (by decide), named]
  cases t.read "./a.py" <;> simp [Except.map, Document.endless]

def asserting : Console := { files := Session.oneFile Session.plainSource, now := ⟨2000, 1, 1, 0, 0, 0, 0, none⟩ }

theorem legible_asserting : asserting.files.Legible := by
  intro f mem
  rw [List.mem_singleton.mp mem]
  decide +kernel

theorem results_asserting {found : Session} {log : Log} (created : Session.create .standard (.dict []) = .ok s)
    (discovered : discover asserting.files ["a.py"] false "" { s with
      aggregation := "file", debug := false, verbose := false, quiet := false, heedComments := true, traced := false } =
        .ok (found, log)) :
    ∃ i, (found.run asserting.files []).1.results = [i] ∧ i.severity = "LOW" ∧ i.confidence = "HIGH" ∧
      Text.Proper i.text := by
  obtain ⟨_, _, rfl⟩ := (create_eq_ok (p := {}) rfl).mp created
  have same : { found with heedComments := true } = found := by rw [(Session.discover_eq_ok discovered).1]
  have seen : (document (oneFile plainSource) (.ok [])
      (Targets.scannedName "a.py")).toOption.map (fun d => (d.reported true).map fun i =>
        (i.severity, i.confidence, i.text.any CodePoint.isSurrogate)) = some [("LOW", "HIGH", false)] := by
    decide +kernel
  cases opened : document (oneFile plainSource) (.ok []) (Targets.scannedName "a.py") with
  | error why => simp [opened, Except.toOption] at seen
  | ok d =>
    have results := results_single created (isFolder_oneFile _).2 discovered opened true
    rw [same] at results
    rw [opened, Except.toOption, Option.map_some, Option.some.injEq, List.map_eq_singleton_iff] at seen
    obtain ⟨i, reported, told⟩ := seen
    simp only [Prod.mk.injEq] at told
    refine ⟨marked 0 i, by rw [asserting, results, reported]; rfl, told.1, told.2.1, ?_⟩
    intro p there
    simpa using List.any_eq_false.mp told.2.2 p there

theorem scan_ends_asserting : ∃ last, Command.run (scan ["-x", "", "-l", "a.py"]) asserting = (.exit 1, last) := by
  have accepted : EStateM.run (ofArguments ["-x", "", "-l", "a.py"]) asserting =
      .ok { targets := ["a.py"], excluded := "", severity := .int 2 } asserting := by cbv
  have unfiled : EStateM.run (Options.source { targets := ["a.py"], excluded := "", severity := .int 2 }) asserting =
      .ok none asserting := by cbv
  obtain ⟨s, found, _, created, discovered, ready⟩ :=
    exists_ready (o := { targets := ["a.py"], excluded := "", severity := .int 2 }) (c := asserting) rfl rfl rfl
      (by cbv) ["-x", "", "-l", "a.py"]
  obtain ⟨n, m, ⟨severe, sure⟩, -, status⟩ := scan_ends accepted unfiled rfl legible_asserting
  have low : Rank.low.index = n := by
    have same : (2 : Int) = n + 1 := Value.int.inj severe
    change 1 = n
    omega
  have any : Rank.undefined.index = m := by
    have same : (1 : Int) = m + 1 := Value.int.inj sure
    change 0 = m
    omega
  have ended := endless_beside (beside_of_discover (isFolder_oneFile _).2 discovered) asserting.files (.ok [])
  obtain ⟨findings, judged, ends, written⟩ := status found _ ready ended .low .undefined low any
  obtain ⟨i, only, severity, confidence, text⟩ := results_asserting created discovered
  have passes : i.reaches "LOW" "UNDEFINED" = .ok true := by
    rw [Issue.reaches, severity, confidence]
    rfl
  have bare : (found.run asserting.files []).1.baseline = [] := by
    obtain ⟨_, -, rfl⟩ := (create_eq_ok (p := {}) rfl).mp created
    rw [Session.run, (Session.runWith_keeps _ _ _).2, (Session.discover_eq_ok discovered).1]
    rfl
  have same : findings = .plain [i] := by
    have eq : (found.run asserting.files []).1.findings "LOW" "UNDEFINED" = .ok (.plain [i]) := by
      rw [Session.findings, only, bare]
      simp [passes, bind, Except.bind, pure, Except.pure]
    exact Except.ok.inj (judged.symm.trans eq)
  have proper : ∀ i ∈ findings.issues, Text.Proper i.text := by simpa [same, Findings.issues] using text
  obtain ⟨last, delivered⟩ := written (by decide +kernel) (by decide) (by decide) proper
  refine ⟨last, ?_⟩
  rw [ends last delivered, same]
  rfl

def idle : Console := { files := Session.oneFile [], now := ⟨2000, 1, 1, 0, 0, 0, 0, none⟩ }

/-- A fourth repetition asks for a rank beyond the highest, and the scan breaks off. -/
theorem fourth_repetition_breaks_off :
    ∃ last, Command.run (scan ["-q", "-l", "-l", "-l", "-l", "a.py"]) idle = (.fault .outOfRange, last) := by
  have accepted : EStateM.run (ofArguments ["-q", "-l", "-l", "-l", "-l", "a.py"]) idle =
      .ok { targets := ["a.py"], quiet := true, severity := .int 5 } idle := by cbv
  have unfiled : EStateM.run (Options.source { targets := ["a.py"], quiet := true, severity := .int 5 }) idle =
      .ok none idle := by cbv
  have record : EStateM.run (profileOf { targets := ["a.py"], quiet := true, severity := .int 5 } .standard) idle =
      .ok (choice (.set []) (.set [])) idle := by cbv
  obtain ⟨_, found, log, -, discovered, ready⟩ := exists_ready rfl rfl rfl record ["-q", "-l", "-l", "-l", "-l", "a.py"]
  refine ⟨scanned { idle with log := idle.log ++ log } found, ?_⟩
  rw [Command.run, run_scan_of_accepted accepted unfiled, scanWith, ← bind_assoc, EStateM.run_bind, ready]
  dsimp only
  rw [run_perform_of_ended (endless_beside (beside_of_discover (isFolder_oneFile _).2 discovered) _ _),
    conclude_beyond (n := 4) (m := 0) ⟨rfl, rfl⟩ (.inl (Nat.le_refl 4))]

end CommandLine

end SourceAudit
