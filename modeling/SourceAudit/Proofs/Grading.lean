import SourceAudit.Proofs.Selection
import SourceAudit.Proofs.Writing

/-! All that a session without data of its own finds is graded and stands on a line, so its report can be written. -/

namespace SourceAudit

open List

variable {p : Profile} {option : String → Answer Value} {rules : RuleSet} {i : Issue} {d : Document}

variable {input : Bytes} {t : FileTree}

theorem Profile.tabled_bannedData (plain : p.blacklist.truthy = false) : Banned.Tabled p.bannedData := by
  intro check v entered
  have found : p.bannedData.get? check = some v := by
    unfold bannedData at entered ⊢
    rw [if_neg (by simp [plain])] at entered ⊢
    rw [Value.entry] at entered
    split at entered
    · rename_i there
      rw [Value.get?, there, Except.ok.inj entered]
    · cases entered
  rw [get?_bannedData plain] at found
  split at found
  · cases found
  · refine ⟨p.bannedAt check, ?_, (Option.some.inj found).symm⟩
    intro b member
    have mem : b ∈ (Banned.byCheck.lookup check).getD [] := (mem_filter.mp member).1
    cases entry : Banned.byCheck.lookup check with
    | none => simp [entry] at mem
    | some bs =>
      rw [entry] at mem
      exact Banned.mem_all_of_byCheck (check, bs) (Lists.mem_of_lookup entry) b mem

namespace RuleSet

def AllGraded (rules : RuleSet) : Prop := ∀ r ∈ rules, ∀ c, Grades (r.rule.run c r.settings)

theorem allGraded_ofProfile
    (chosen : ofProfile p option = .ok rules) (plain : p.blacklist.truthy = false) : rules.AllGraded := by
  intro r present c
  rcases of_mem_ofProfile chosen present with mem | ⟨_, -, rfl⟩
  · exact Rule.grades_catalogue r.rule mem
  · exact Rule.grades_blacklist (Profile.tabled_bannedData plain)

end RuleSet

namespace Issue

/-- The issue is graded and stands on a line, and one in standard input carries the bytes of it. -/
structure Standing (input : Bytes) (i : Issue) : Prop where
  graded : i.Graded
  placed : i.line.isSome
  input : i.filename = inputName → i.input = some input

theorem Graded.of_same {j : Issue} (graded : j.Graded) (severity : i.severity = j.severity)
    (confidence : i.confidence = j.confidence) (weakness : i.weakness = j.weakness) : i.Graded := by
  constructor
  case ranked =>
    intro scale
    have same : scale.grade i = scale.grade j := by
      cases scale with
      | severity => exact severity
      | confidence => exact confidence
    exact same ▸ graded.ranked scale
  case severe => exact severity ▸ graded.severe
  case known => exact weakness ▸ graded.known

theorem Standing.visible (standing : i.Standing input)
    (typed : ∀ l ∈ Source.feedLines input, (Utf8.decode? l).isSome) (lines : Int) : i.Visible lines := by
  obtain ⟨n, line⟩ := Option.isSome_iff_exists.mp standing.placed
  refine ⟨n, line, ?_⟩
  intro file
  refine ⟨input, standing.input file, ?_⟩
  intro l around
  exact typed l (mem_of_mem_drop (mem_of_mem_take around))

end Issue

theorem Document.standing_of_mem_findings (graded : rules.AllGraded)
    (typed : d.name = Issue.inputName → d.input = some input) {tree : Node} {f : Finding}
    (found : f ∈ d.findings rules tree) : f.issue.Standing input := by
  obtain ⟨l, mem, seen⟩ := mem_filterMap.mp found
  obtain ⟨raw, ran, completed, -, -⟩ := Finding.exists_of_seen seen
  obtain ⟨_, c, -, here, -⟩ := exists_of_mem_looks mem
  have own : (raw : Issue).Graded := graded l.2 (mem_rules_of_mem_looks mem) l.1 raw ran
  constructor
  case graded => exact own.of_same completed.severity completed.confidence completed.weakness
  case placed => exact completed.placed
  case input =>
    intro file
    rw [completed.input, here]
    exact typed (filename_of_mem_findings found ▸ file)

namespace Session

/-- A session that has been run: its results can be shown, its skipped files have names, its total has all labels. -/
structure Presentable (input : Bytes) (s : Session) : Prop where
  standing : ∀ i ∈ s.results, i.Standing input
  named : ∀ b reason, (.raw b, reason) ∉ s.skipped
  counted : s.metrics.Counted

theorem input_of_document {name : String} (file : Targets.IsFileName name)
    (opened : document t (.ok input) name = .ok d) : d.name = Issue.inputName → d.input = some input := by
  intro typed
  rw [name_of_document opened] at typed
  have hyphen : name = "-" := shown_injOn_fileNames file (.inl rfl) typed
  rw [document, hyphen] at opened
  rw [← Except.ok.inj opened]

variable {before after : Session}

theorem standing_of_ran (ran : Ran t (.ok input) before after)
    (graded : before.rules.AllGraded) (files : ∀ f ∈ before.targets.files, Targets.IsFileName f) :
    ∀ i ∈ after.results, i.Standing input := by
  intro i result
  rw [ran.results] at result
  obtain ⟨name, mem, n, issued⟩ := exists_of_mem_collect result
  cases fated : fate t (.ok input) before.options name with
  | unread why => simp [fated, Fate.issues] at issued
  | dropped d out why => simp [fated, Fate.issues] at issued
  | scanned d out =>
    obtain ⟨opened, done⟩ := fate_eq_scanned fated
    obtain ⟨_, -, kept⟩ := Document.issues_of_scan done
    rw [fated, Fate.issues, mem_map] at issued
    obtain ⟨j, member, rfl⟩ := issued
    rw [kept, Outcome.issuesKept, mem_map] at member
    obtain ⟨f, found, rfl⟩ := member
    have standing := Document.standing_of_mem_findings graded (input_of_document (files name mem) opened)
      (mem_filter.mp found).1
    exact ⟨standing.graded.of_same rfl rfl rfl, standing.placed, standing.input⟩

theorem named_of_ran {input : Input} (ran : Ran t input before after)
    (b : Bytes) (reason : String) : (.raw b, reason) ∉ after.skipped := by
  intro skipped
  rw [ran.skipped] at skipped
  obtain ⟨name, -, noted⟩ := mem_filterMap.mp skipped
  cases fated : fate t input before.options name <;> simp [fated, Fate.skipped?] at noted

theorem presentable_run {start found : Session} (fresh : start.Fresh) (unsearched : start.targets.files = [])
    (graded : start.rules.AllGraded) {targets : List String} {recursive : Bool} {excluded : String} {log : Log}
    (discovered : start.discover t targets recursive excluded = .ok (found, log)) (input : Bytes) :
    (found.run t input).1.Presentable input := by
  obtain ⟨still, separate⟩ := separate_of_discover fresh discovered
  obtain ⟨same, -, files⟩ := discover_eq_ok discovered
  have ran : Ran t (.ok input) found (found.run t input).1 := ran_runWith t (.ok input) still separate
  have rules : found.rules = start.rules := by rw [same]
  constructor
  case standing => exact standing_of_ran ran (rules ▸ graded) files
  case named => exact named_of_ran ran
  case counted =>
    have searched : start.searched t targets recursive excluded = found := by rw [Session.searched, discovered]
    have lived : start.life [.discover t targets recursive excluded, .run t (.ok input)] = (found.run t input).1 := by
      simp only [life, foldl_cons, foldl_nil, after, searched]
      rfl
    rw [← lived]
    apply counted_life (orderly_of_fresh fresh unsearched)
    rw [fresh.metrics]
    exact Metrics.counted_empty

theorem Presentable.findings_eq {s : Session} (presentable : s.Presentable input) (severity confidence : Rank) :
    s.findings severity.name confidence.name =
      .ok (Baseline.compare s.baseline (s.reaching severity.name confidence.name)) := by
  apply Session.findings_eq
  intro i result
  exact (presentable.standing i result).graded.ranked.exists_reaches severity confidence

end Session

theorem Report.exists_write_of_presentable {r : Report} (presentable : r.session.Presentable input)
    (typed : ∀ l ∈ Source.feedLines input, (Utf8.decode? l).isSome) {files : FileTree}
    (read : r.files = Session.lineSource files) {severity confidence : Rank}
    (ranks : r.severity = severity.name ∧ r.confidence = confidence.name) {found : Findings}
    (judged : r.findings = .ok found) (proper : ∀ i ∈ found.issues, Text.Proper i.text) {f : Format}
    (plain : f ≠ .custom) (template : Option Text) : ∃ text, (r.write f template).1 = .ok text := by
  have compared : found =
      Baseline.compare r.session.baseline (r.session.reaching severity.name confidence.name) := by
    have eq := presentable.findings_eq severity confidence
    rw [findings, ranks.1, ranks.2, eq] at judged
    exact (Except.ok.inj judged).symm
  have settled : found.Settled := compared ▸ Findings.settled_compare _ _
  have result : ∀ i ∈ found.issues, i ∈ r.session.results := by
    intro i mem
    rw [compared] at mem
    exact (Session.mem_reaching.mp (Baseline.mem_issues_compare.mp mem).1).1
  have legible : r.Legible := by
    intro name l there
    rw [read] at there
    exact Session.proper_of_mem_lineSource there
  have standing : ∀ i ∈ found.issues, i.Standing input := fun i mem => presentable.standing i (result i mem)
  have printable : ∀ i ∈ found.issues, i.Printable := by
    intro i mem
    exact ⟨(standing i mem).graded.ranked, proper i mem⟩
  rw [exists_write_with_iff judged settled legible printable presentable.counted plain template]
  constructor
  · intro i mem
    have visible := (standing i mem).visible typed r.lines
    cases f with
    | custom => exact absurd rfl plain
    | csv => exact (standing i mem).graded.known
    | xml => trivial
    | screen => exact ⟨(standing i mem).graded.severe, visible⟩
    | html | json | txt | yaml => exact visible
  · intro _ b reason skipped
    exact absurd skipped (presentable.named b reason)

end SourceAudit
