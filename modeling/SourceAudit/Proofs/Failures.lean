import SourceAudit.Proofs.Looks
import SourceAudit.Proofs.Ranking

/-! A scan ends with a message about a failure exactly if some rule could not say what it finds somewhere. -/

namespace SourceAudit

open List

variable {c : Context} {r : ActiveRule} {m : Message}

def Message.tellsOfFailure (m : Message) : Bool :=
  m.level == .error && (Text.ofString "Bandit internal error running: ").isPrefixOf m.text

namespace Log

/-- Some message tells of a rule that has failed. -/
def TellsOfFailure (log : Log) : Prop := ∃ m ∈ log, m.tellsOfFailure = true

theorem tellsOfFailure_append {log more : Log} :
    TellsOfFailure (log ++ more) ↔ log.TellsOfFailure ∨ more.TellsOfFailure := by
  simp only [TellsOfFailure, mem_append, or_and_right, exists_or]

theorem not_tellsOfFailure {log : Log} (mild : ∀ m ∈ log, m.level = .warning) : ¬ log.TellsOfFailure := by
  rintro ⟨m, said, tells⟩
  simp [Message.tellsOfFailure, mild m said] at tells

end Log

/-- All that an issue must know about its place is known. -/
structure Context.Placed (c : Context) : Prop where
  filename : ∃ name, c.filename = some (.text name)
  line : ∃ line, c.line = some line
  lineRange : ∃ lines, c.lineRange = some lines
  column : ∃ column, c.column = some column

/-- The rule cannot say what it finds at the place. -/
def ActiveRule.FailsAt (r : ActiveRule) (c : Context) : Prop := ∃ fault, r.rule.run c r.settings = .error fault

namespace Finding

theorem answered_need {α : Type} {a? : Option α} (known : ∃ a, a? = some a) : Answered (need a?) := by
  obtain ⟨a, known⟩ := known
  exact ⟨a, need_eq_ok.mpr known, trivial⟩

theorem brings_complete (placed : c.Placed) (r : Rule) (found : Issue) :
    Brings (complete r c found) fun i => i.severity = found.severity ∧ i.confidence = found.confidence := by
  obtain ⟨name, named⟩ := placed.filename
  have shown : Answered (need c.filename >>= shownName) := by
    rw [named]
    exact answered_ok name
  have line : ∃ line, found.line.or c.line = some line := by
    cases found.line with
    | none => exact placed.line
    | some own => exact ⟨own, rfl⟩
  have column : ∃ column, (if found.column == -1 then c.column else some found.column) = some column := by
    split
    · exact placed.column
    · exact ⟨_, rfl⟩
  unfold complete
  rw [← bind_assoc]
  apply Brings.bind shown
  intro filename _
  apply Brings.bind (answered_need line)
  intro line _
  apply Brings.bind (answered_need placed.lineRange)
  intro lines _
  apply Brings.bind (answered_need column)
  intro column _
  exact Brings.pure ⟨rfl, rfl⟩

theorem brings_look (placed : c.Placed) (ranks : Ranks (r.rule.run c r.settings)) (answers : ¬ r.FailsAt c) :
    Brings (look c r) fun found => ∀ f ∈ found, f.issue.Ranked := by
  unfold look
  cases asked : r.rule.run c r.settings with
  | error fault => exact absurd ⟨fault, asked⟩ answers
  | ok found =>
    cases found with
    | none => exact Brings.pure (by simp)
    | some raw =>
      have ranked := ranks raw asked
      apply Brings.bind (answered_need placed.lineRange)
      intro lines _
      apply Brings.bind (brings_complete placed r.rule raw)
      rintro i ⟨severity, confidence⟩
      have same : i.Ranked := by
        intro scale
        have grade : scale.grade i = scale.grade raw := by
          cases scale with
          | severity => exact severity
          | confidence => exact confidence
        rw [grade]
        exact ranked scale
      exact Brings.pure (by simpa using same)

theorem look_of_failsAt (fails : r.FailsAt c) : ∃ fault, look c r = .error fault := by
  obtain ⟨fault, failed⟩ := fails
  refine ⟨fault, ?_⟩
  rw [look, failed]
  rfl

end Finding

namespace Inspection

open Finding

theorem run_reportFailure {name : String} {line : Int} (named : c.filename = some (.text name))
    (placed : c.line = some line) (r : Rule) (o : Outcome) :
    ∃ m, m.tellsOfFailure = true ∧ (reportFailure r c).run o = .ok () { o with log := o.log ++ [m] } := by
  refine ⟨alert ("Bandit internal error running: " ++ r.testName ++ " on file " ++ name ++ " at line " ++
    (toString line : String)), ?_, ?_⟩
  · simp [Message.tellsOfFailure, alert]
  · simp [reportFailure, named, placed, need, say]

theorem run_remark (placed : c.Placed) (ss : Suppressions) (r : Rule) (o : Outcome) :
    ∃ said : Log, (∀ m ∈ said, m.level = .warning) ∧
      (remark ss c r).run o = .ok () { o with log := o.log ++ said } := by
  obtain ⟨line, here⟩ := placed.line
  obtain ⟨lines, range⟩ := placed.lineRange
  by_cases named : r.id ∈ (ss.within lines).getD []
  · refine ⟨[warning ("nosec encountered (" ++ r.id ++ "), but no failed test on line " ++
      (toString line : String))], by simp [warning], ?_⟩
    simp [remark, range, here, need, named, say]
  · refine ⟨[], by simp, ?_⟩
    simp [remark, range, need, named]

theorem run_keep {i : Issue} (ranked : i.Ranked) (o : Outcome) :
    (keep i).run o = .ok () { o with issues := o.issues ++ [i], score := o.score.addIssue i } := by
  obtain ⟨severity, severe⟩ := Option.isSome_iff_exists.mp (ranked .severity)
  obtain ⟨confidence, sure⟩ := Option.isSome_iff_exists.mp (ranked .confidence)
  simp only [Scale.grade] at severe sure
  simp [keep, Issue.rankOf, severe, sure, Score.addIssue]

theorem run_attempt (placed : c.Placed) (answers : Brings (look c r) fun found => ∀ f ∈ found, f.issue.Ranked)
    (ss : Suppressions) (o : Outcome) : ∃ last said, (∀ m ∈ said, m.level = .warning) ∧ last.log = o.log ++ said ∧
      (attempt ss c r).run o = .ok () last := by
  obtain ⟨found, looked, ranked⟩ := answers
  rw [attempt, EStateM.run_bind, run_ofAnswer, looked]
  cases found with
  | none =>
    obtain ⟨said, mild, ran⟩ := run_remark placed ss r.rule o
    exact ⟨_, said, mild, rfl, ran⟩
  | some f =>
    refine ⟨o.record ss f, [], by simp, ?_, ?_⟩
    · cases judged : f.verdict ss <;> simp [Outcome.record, judged]
    · have kept := run_keep (ranked f rfl) o
      cases judged : f.verdict ss <;> simp [Outcome.record, judged, kept]

theorem tells_one (placed : c.Placed) (ranks : Ranks (r.rule.run c r.settings)) (ss : Suppressions) (o : Outcome) :
    ∃ last, (one false ss c r).run o = .ok () last ∧
      (last.log.TellsOfFailure ↔ o.log.TellsOfFailure ∨ r.FailsAt c) := by
  rw [one, run_tryCatch]
  by_cases fails : r.FailsAt c
  · obtain ⟨fault, looked⟩ := look_of_failsAt fails
    obtain ⟨_, named⟩ := placed.filename
    obtain ⟨line, here⟩ := placed.line
    obtain ⟨m, tells, reported⟩ := run_reportFailure named here r.rule o
    have broken : (attempt ss c r).run o = .error fault o := by rw [attempt, EStateM.run_bind, run_ofAnswer, looked]
    refine ⟨{ o with log := o.log ++ [m] }, ?_, ?_⟩
    · simp [broken, reported]
    · have told : Log.TellsOfFailure [m] := ⟨m, mem_singleton_self m, tells⟩
      simp [Log.tellsOfFailure_append, told, fails]
  · obtain ⟨last, said, mild, log, ran⟩ := run_attempt placed (brings_look placed ranks fails) ss o
    have silent : ¬ Log.TellsOfFailure said := Log.not_tellsOfFailure mild
    refine ⟨last, by rw [ran], ?_⟩
    simp [log, Log.tellsOfFailure_append, silent, fails]

theorem tells_forM {looks : List (Context × ActiveRule)} (ss : Suppressions)
    (known : ∀ l ∈ looks, l.1.Placed ∧ Ranks (l.2.rule.run l.1 l.2.settings)) (start : Outcome) :
    ∃ last, (looks.forM fun l => one false ss l.1 l.2).run start = .ok () last ∧
      (last.log.TellsOfFailure ↔ start.log.TellsOfFailure ∨ ∃ l ∈ looks, l.2.FailsAt l.1) := by
  induction looks generalizing start with
  | nil => exact ⟨start, rfl, by simp⟩
  | cons l rest ih =>
    obtain ⟨placed, ranks⟩ := known l mem_cons_self
    obtain ⟨middle, ran, told⟩ := tells_one placed ranks ss start
    obtain ⟨last, done, tells⟩ := ih (fun m later => known m (mem_cons_of_mem l later)) middle
    refine ⟨last, ?_, ?_⟩
    · simp only [forM_eq_forM, forM_cons, EStateM.run_bind, ran] at done ⊢
      exact done
    · rw [tells, told, exists_mem_cons_iff, or_assoc]

end Inspection

namespace Suppression

theorem mild_identify {name : Text} (said : m ∈ (identify name).2) : m.level = .warning := by
  unfold identify at said
  simp only at said
  split at said
  · simp at said
  · split at said
    · simp at said
    · rw [mem_singleton.mp said]
      rfl

theorem mild_read {comment : Text} (said : m ∈ (read comment).2) : m.level = .warning := by
  unfold read at said
  split at said
  · simp at said
  · obtain ⟨_, mem, here⟩ := mem_flatMap.mp said
    obtain ⟨_, -, rfl⟩ := mem_map.mp mem
    exact mild_identify here

end Suppression

namespace Document

variable {o : ScanOptions} {d : Document} {tree : Node}

theorem mild_suppressions {comments : List Source.Comment} (said : m ∈ (suppressions comments).2) :
    m.level = .warning := by
  obtain ⟨_, mem, here⟩ := mem_flatMap.mp said
  obtain ⟨_, -, rfl⟩ := mem_map.mp mem
  exact Suppression.mild_read here

theorem mild_namelessLog (said : m ∈ d.namelessLog) : m.level = .warning := by
  unfold namelessLog at said
  split at said
  · simp at said
  · rw [mem_singleton.mp said]
    rfl

section

variable (calm : o.debug = false) (parsed : Source.parse d.bytes = .ok tree)
  (known : ∀ l ∈ d.looks o.rules tree, l.1.Placed ∧ Ranks (l.2.rule.run l.1 l.2.settings))

include calm parsed known

theorem tells_scanTree (ss : Suppressions) {start : Outcome} (mild : ∀ m ∈ start.log, m.level = .warning) :
    (d.scanTree o ss start).2 = none ∧
      ((d.scanTree o ss start).1.log.TellsOfFailure ↔ ∃ l ∈ d.looks o.rules tree, l.2.FailsAt l.1) := by
  have silent : ¬ Log.TellsOfFailure (start.log ++ d.namelessLog) := by
    apply Log.not_tellsOfFailure
    intro m said
    rcases mem_append.mp said with before | own
    · exact mild m before
    · exact mild_namelessLog own
  obtain ⟨last, done, tells⟩ := Inspection.tells_forM ss known { start with log := start.log ++ d.namelessLog }
  have ended : d.inspect o ss tree { start with log := start.log ++ d.namelessLog } = .ok () last := by
    rw [inspect_eq, calm]
    exact done
  simp [scanTree, parsed, ended, tells, silent]

theorem tells_scan : (d.scan o).1.log.TellsOfFailure ↔
      (d.scan o).2 = none ∧ ∃ l ∈ d.looks o.rules tree, l.2.FailsAt l.1 := by
  have reached {ss : Suppressions} {start : Outcome} (mild : ∀ m ∈ start.log, m.level = .warning) :
      (d.scanTree o ss start).1.log.TellsOfFailure ↔
        (d.scanTree o ss start).2 = none ∧ ∃ l ∈ d.looks o.rules tree, l.2.FailsAt l.1 := by
    obtain ⟨ends, tells⟩ := tells_scanTree calm parsed known ss mild
    simp [ends, tells]
  unfold scan
  cases Source.lineEncoding? d.bytes with
  | none => simp [Log.TellsOfFailure]
  | some e =>
    have mild (m : Message) (said : m ∈ (suppressions (Source.comments e d.bytes).1).2) : m.level = .warning :=
      mild_suppressions said
    have silent := Log.not_tellsOfFailure mild
    simp only
    split
    · cases (Source.comments e d.bytes).2 with
      | badIndentation => simp [silent]
      | undecodable => simp [silent]
      | complete => exact reached mild
      | unfinished => exact reached mild
    · exact reached (by simp)

end

end Document

end SourceAudit
