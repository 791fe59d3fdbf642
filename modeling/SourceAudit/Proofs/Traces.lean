import SourceAudit.Proofs.Grading

/-! What a rule that fails leaves behind: nothing, unless it has kept an issue without ranks. -/

namespace SourceAudit

open List

/-- Every issue is counted on both scales and can be judged at any ranks. -/
structure Outcome.Sound (o : Outcome) : Prop where
  counted : o.score.Tallies o.issues
  judged : ∀ i ∈ o.issues, ∀ severity confidence : Rank, Answered (i.reaches severity.name confidence.name)

/-- Wherever the data on banned things give a level, it is a rank. -/
def Banned.Leveled (data : Value) : Prop :=
  ∀ check v records, data.entry check = .ok v → v.items = .ok records → ∀ record ∈ records, ∀ level,
    record.entryD "level" (.str "MEDIUM") = .ok level → ∃ r : Rank, level.display.toStringLossy = r.name

theorem Rule.ranks_of_leveled {c : Context} {data : Value} (leveled : Banned.Leveled data) :
    Ranks (blacklistRun c data) := by
  intro i found
  obtain ⟨check, v, records, entered, items, record, mem, _, made, -⟩ := exists_of_blacklistRun found
  obtain ⟨-, level, -, -, -, graded, -, -, severity, confidence, -⟩ := exists_of_bannedIssue made
  obtain ⟨r, named⟩ := leveled check v records entered items record mem level graded
  exact ranked_of_names r .high (severity.trans named) confidence

theorem RuleSet.ranks_ofProfile {p : Profile} {option : String → Answer Value} {rules : RuleSet}
    (chosen : ofProfile p option = .ok rules) (leveled : p.blacklist.truthy = true → Banned.Leveled p.blacklist) :
    ∀ r ∈ rules, ∀ c, Ranks (r.rule.run c r.settings) := by
  intro r present c
  by_cases own : p.blacklist.truthy = true
  · rcases of_mem_ofProfile chosen present with mem | ⟨_, -, rfl⟩
    · exact Rule.ranks_catalogue r.rule mem
    · have data : p.bannedData = p.blacklist := if_pos own
      exact Rule.ranks_of_leveled (data ▸ leveled own)
  · exact (allGraded_ofProfile chosen (by simpa using own) r present c).ranks

namespace Inspection

open Finding

variable {ss : Suppressions} {c : Context} {r : ActiveRule} {o last : Outcome} {fault : Fault}

def KeepsRanked (ss : Suppressions) (c : Context) (r : ActiveRule) : Prop :=
  ∀ f, seen c r = some f → f.verdict ss = .kept → f.issue.Ranked

theorem keepsRanked_of_ranks (ranks : Ranks (r.rule.run c r.settings)) : KeepsRanked ss c r := by
  intro f found _
  obtain ⟨raw, ran, completed, -, -⟩ := exists_of_seen found
  have own := (ranks raw ran).exists_rank
  obtain ⟨severity, severe⟩ := own .severity
  obtain ⟨confidence, sure⟩ := own .confidence
  exact ranked_of_names severity confidence (completed.severity.trans severe) (completed.confidence.trans sure)

theorem not_kept_of_failed (failed : (attempt ss c r).run o = .error fault last) (ranked : KeepsRanked ss c r)
    {f : Finding} (found : seen c r = some f) : f.verdict ss ≠ .kept := by
  intro kept
  rw [attempt, EStateM.run_bind, run_ofAnswer, seen_eq_some.mp found] at failed
  simp [kept, run_keep (ranked f found kept)] at failed

theorem unchanged_one_iff (failed : (attempt ss c r).run o = .error fault last) :
    (finish ((one false ss c r).run o)).issues = o.issues ∧ (finish ((one false ss c r).run o)).score = o.score ↔
      KeepsRanked ss c r := by
  have recorded := finish_one false ss c r o
  constructor
  · rintro ⟨issues, -⟩ f found kept
    have more := congrArg Outcome.issues recorded
    simp [Outcome.quiet, found, Outcome.record, kept, issues] at more
  · intro ranked
    have same : (finish ((one false ss c r).run o)).quiet.issues = o.issues ∧
        (finish ((one false ss c r).run o)).quiet.score = o.score := by
      rw [recorded]
      cases found : seen c r with
      | none => exact ⟨rfl, rfl⟩
      | some f =>
        have dropped := not_kept_of_failed failed ranked found
        cases judged : f.verdict ss <;> simp_all [Outcome.quiet, Outcome.record]
    exact same

theorem sound_of_forM_iff {looks : List (Context × ActiveRule)} (sound : o.Sound)
    (done : (looks.forM fun l => one false ss l.1 l.2).run o = .ok () last) :
    last.Sound ↔ ∀ l ∈ looks, KeepsRanked ss l.1 l.2 := by
  have recorded := quiet_of_forM done
  have issues := congrArg Outcome.issues recorded
  have score := congrArg Outcome.score recorded
  rw [Outcome.foldl_record] at issues score
  have members (i : Issue) : i ∈ Outcome.issuesKept ss (looks.filterMap fun l => seen l.1 l.2) ↔
      ∃ l ∈ looks, ∃ f, seen l.1 l.2 = some f ∧ f.verdict ss = .kept ∧ f.issue = i := by
    simp only [Outcome.issuesKept, mem_map, mem_filter, mem_filterMap, beq_iff_eq]
    constructor
    · rintro ⟨f, ⟨⟨l, mem, found⟩, kept⟩, same⟩
      exact ⟨l, mem, f, found, kept, same⟩
    · rintro ⟨l, mem, f, found, kept, same⟩
      exact ⟨f, ⟨⟨l, mem, found⟩, kept⟩, same⟩
  constructor
  · intro sound l mem f found kept
    have there : f.issue ∈ last.issues := by
      rw [show last.issues = last.quiet.issues from rfl, issues, mem_append, members]
      exact .inr ⟨l, mem, f, found, kept, rfl⟩
    obtain ⟨passed, judged, -⟩ := sound.judged f.issue there .undefined .undefined
    exact (Issue.reaches_lowest.mp judged).1
  · intro ranked
    have kept (i : Issue) (mem : i ∈ Outcome.issuesKept ss (looks.filterMap fun l => seen l.1 l.2)) : i.Ranked := by
      obtain ⟨l, member, f, found, kept, rfl⟩ := (members i).mp mem
      exact ranked l member f found kept
    constructor
    · change last.quiet.score.Tallies last.quiet.issues
      rw [issues, score]
      exact sound.counted.foldl kept
    · intro i there
      rw [show last.issues = last.quiet.issues from rfl, issues, mem_append] at there
      intro severity confidence
      rcases there with before | new
      · exact sound.judged i before severity confidence
      · obtain ⟨passed, judged⟩ := (kept i new).exists_reaches severity confidence
        exact ⟨passed, judged, trivial⟩

/-- A failing rule leaves issues and score alone exactly if it keeps no issue without ranks, as those of a profile do if
all levels of its data are ranks. A run stays sound exactly if no rule keeps one. -/
theorem traceless_iff_keepsRanked (ss : Suppressions) :
    (∀ (c : Context) (r : ActiveRule) (o last : Outcome) (fault : Fault), (attempt ss c r).run o = .error fault last →
      ((finish ((one false ss c r).run o)).issues = o.issues ∧ (finish ((one false ss c r).run o)).score = o.score ↔
        KeepsRanked ss c r)) ∧
    (∀ (looks : List (Context × ActiveRule)) (start last : Outcome), start.Sound →
      (looks.forM fun l => one false ss l.1 l.2).run start = .ok () last →
      (last.Sound ↔ ∀ l ∈ looks, KeepsRanked ss l.1 l.2)) ∧
    ∀ (p : Profile) (option : String → Answer Value) (rules : RuleSet), RuleSet.ofProfile p option = .ok rules →
      (p.blacklist.truthy = true → Banned.Leveled p.blacklist) → ∀ r ∈ rules, ∀ c, KeepsRanked ss c r :=
  ⟨fun _ _ _ _ _ failed => unchanged_one_iff failed, fun _ _ _ sound done => sound_of_forM_iff sound done,
    fun _ _ _ chosen leveled r present c =>
      keepsRanked_of_ranks (RuleSet.ranks_ofProfile chosen leveled r present c)⟩

def evalCall : Context :=
  let place : Span := ⟨1, 0, 1, 9⟩
  let call := Node.call place (.name place "eval" .load) [.constant place (.text "1")] []
  { node := some call, call := some call, qualname := some "eval", name := some "eval", filename := some (.text "a.py"),
    line := some 1, lineRange := some [1], column := some 0 }

def banning (level : String) : ActiveRule :=
  { rule := Rule.blacklist ["Call"]
    settings := .dict [(.str "Call", .list [.dict [(.str "qualnames", namesValue ["eval"]), (.str "message", .str "No."),
      (.str "level", .str level)]])] }

theorem medium_counted : ∃ last, ([(evalCall, banning "MEDIUM")].forM fun l => one false [] l.1 l.2).run {} = .ok () last ∧
    last.issues.map Issue.severity = ["MEDIUM"] ∧ last.Sound := by
  have begun : Outcome.Sound {} := ⟨Score.tallies_empty, nofun⟩
  refine ⟨_, rfl, rfl, ((traceless_iff_keepsRanked []).2.1 [(evalCall, banning "MEDIUM")] {} _ begun rfl).mpr ?_⟩
  intro l listed f found _
  obtain rfl := mem_singleton.mp listed
  cases found
  exact ranked_of_names .medium .high rfl rfl

/-- At a level that is no rank the rule fails, and its issue stays uncounted. -/
theorem critical_left : ∃ fault last, (attempt [] evalCall (banning "CRITICAL")).run {} = .error fault last ∧
    (finish ((one false [] evalCall (banning "CRITICAL")).run {})).issues.map Issue.severity = ["CRITICAL"] ∧
    (finish ((one false [] evalCall (banning "CRITICAL")).run {})).score = {} ∧
    ∀ i ∈ (finish ((one false [] evalCall (banning "CRITICAL")).run {})).issues, ¬ Answered (i.reaches "LOW" "LOW") := by
  refine ⟨_, _, rfl, rfl, rfl, ?_⟩
  intro i listed
  rw [not_answered_iff]
  obtain rfl := mem_singleton.mp listed
  exact ⟨_, rfl⟩

end Inspection

end SourceAudit
