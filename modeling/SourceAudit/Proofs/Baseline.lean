import SourceAudit.Proofs.Tally

/-! Results against the issues of an earlier report: those that say nothing new are hidden. -/

namespace SourceAudit

open Answers List

variable {i x : Issue} {baseline results : List Issue}

namespace Issue

/-- Issues agree if the same test says the same about the same file. Where in the file is left open. -/
structure Agrees (a b : Issue) : Prop where
  text : a.text = b.text
  severity : a.severity = b.severity
  weakness : a.weakness = b.weakness
  confidence : a.confidence = b.confidence
  filename : a.filename = b.filename
  testName : a.testName = b.testName
  testId : a.testId = b.testId

theorem same_iff {a b : Issue} : a.same b = true ↔ a.Agrees b := by
  simp only [same, Bool.and_eq_true, beq_iff_eq]
  constructor
  · rintro ⟨⟨⟨⟨⟨⟨text, severity⟩, weakness⟩, confidence⟩, filename⟩, testName⟩, testId⟩
    exact ⟨text, severity, weakness, confidence, filename, testName, testId⟩
  · rintro ⟨text, severity, weakness, confidence, filename, testName, testId⟩
    exact ⟨⟨⟨⟨⟨⟨text, severity⟩, weakness⟩, confidence⟩, filename⟩, testName⟩, testId⟩

theorem Agrees.refl (i : Issue) : i.Agrees i := ⟨rfl, rfl, rfl, rfl, rfl, rfl, rfl⟩

theorem Agrees.symm {a b : Issue} (agree : a.Agrees b) : b.Agrees a :=
  ⟨agree.text.symm, agree.severity.symm, agree.weakness.symm, agree.confidence.symm, agree.filename.symm,
    agree.testName.symm, agree.testId.symm⟩

theorem Agrees.trans {a b c : Issue} (first : a.Agrees b) (second : b.Agrees c) : a.Agrees c :=
  ⟨first.text.trans second.text, first.severity.trans second.severity, first.weakness.trans second.weakness,
    first.confidence.trans second.confidence, first.filename.trans second.filename,
    first.testName.trans second.testName, first.testId.trans second.testId⟩

theorem rankOf_eq_ok {name : String} {r : Rank} : rankOf name = .ok r ↔ name = r.name := by
  rw [← Rank.ofName?_eq_some, rankOf]
  cases Rank.ofName? name <;> simp

theorem ranked_iff : i.Ranked ↔ (∃ r, rankOf i.severity = .ok r) ∧ ∃ r, rankOf i.confidence = .ok r := by
  simp only [rankOf_eq_ok]
  constructor
  · intro ranked
    exact ⟨ranked.exists_rank .severity, ranked.exists_rank .confidence⟩
  · rintro ⟨⟨severe, severity⟩, ⟨sure, confidence⟩⟩ scale
    cases scale with
    | severity => exact Option.isSome_iff_exists.mpr ⟨severe, Rank.ofName?_eq_some.mpr severity⟩
    | confidence => exact Option.isSome_iff_exists.mpr ⟨sure, Rank.ofName?_eq_some.mpr confidence⟩

theorem Ranked.exists_reaches (ranked : i.Ranked) (severity confidence : Rank) :
    ∃ passed, i.reaches severity.name confidence.name = .ok passed := by
  obtain ⟨⟨severe, own⟩, ⟨_, other⟩⟩ := ranked_iff.mp ranked
  have least (r : Rank) : rankOf r.name = .ok r := rankOf_eq_ok.mpr rfl
  simp only [reaches, own, other, least]
  by_cases enough : severity.index ≤ severe.index
  · exact ⟨_, if_pos enough⟩
  · exact ⟨_, if_neg enough⟩

theorem reaches_lowest {passed : Bool} : i.reaches "UNDEFINED" "UNDEFINED" = .ok passed ↔ i.Ranked ∧ passed = true := by
  have least : rankOf "UNDEFINED" = .ok .undefined := rankOf_eq_ok.mpr rfl
  rw [ranked_iff]
  constructor
  · intro judged
    simp only [reaches, least, bind_eq_ok, Except.ok.injEq] at judged
    obtain ⟨severe, own, _, rfl, judged⟩ := judged
    rw [if_pos (show Rank.undefined.index ≤ severe.index from Nat.zero_le _)] at judged
    simp only [bind_eq_ok, pure_eq_ok, Except.ok.injEq] at judged
    obtain ⟨sure, other, _, rfl, rfl⟩ := judged
    exact ⟨⟨⟨severe, own⟩, ⟨sure, other⟩⟩, by simp [Rank.index]⟩
  · rintro ⟨⟨⟨severe, own⟩, ⟨sure, other⟩⟩, rfl⟩
    simp only [reaches, own, other, least]
    rfl

end Issue

namespace Baseline

theorem mem_unmatched : x ∈ unmatched baseline results ↔ x ∈ results ∧ ∀ b ∈ baseline, ¬ x.Agrees b := by
  simp [unmatched, ← Issue.same_iff]

theorem map_fst_candidates (issues results : List Issue) : (candidates issues results).map Prod.fst = issues := by
  simp [candidates, Function.comp_def]

theorem mem_candidates {issues others : List Issue} :
    (x, others) ∈ candidates issues results ↔ x ∈ issues ∧ others = results.filter x.same := by
  constructor
  · intro mem
    obtain ⟨i, there, rfl, rfl⟩ : ∃ i ∈ issues, i = x ∧ results.filter i.same = others := by
      simpa [candidates] using mem
    exact ⟨there, rfl⟩
  · rintro ⟨there, rfl⟩
    exact mem_map.mpr ⟨x, there, rfl⟩

def compare (baseline results : List Issue) : Findings :=
  if baseline.isEmpty then .plain results else .compared (candidates (unmatched baseline results) results)

theorem compare_of_ne_nil (given : baseline ≠ []) (results : List Issue) :
    compare baseline results = .compared (candidates (unmatched baseline results) results) :=
  if_neg (by simpa using given)

theorem mem_issues_compare : x ∈ (compare baseline results).issues ↔ x ∈ results ∧ ∀ b ∈ baseline, ¬ x.Agrees b := by
  by_cases given : baseline = []
  · subst given
    simp [compare, Findings.issues]
  · rw [compare_of_ne_nil given, Findings.issues, map_fst_candidates, mem_unmatched]

theorem exists_candidates (given : baseline ≠ []) (shown : x ∈ (compare baseline results).issues) :
    ∃ all others, compare baseline results = .compared all ∧ (x, others) ∈ all ∧ x ∈ others := by
  have unmatched := mem_unmatched.mpr (mem_issues_compare.mp shown)
  refine ⟨_, _, compare_of_ne_nil given _, mem_candidates.mpr ⟨unmatched, rfl⟩, ?_⟩
  rw [mem_filter, Issue.same_iff]
  exact ⟨(mem_issues_compare.mp shown).1, .refl x⟩

end Baseline

namespace Session

variable {s : Session} {severity confidence : String}

def reaching (severity confidence : String) (s : Session) : List Issue :=
  s.results.filter fun i => (i.reaches severity confidence).toOption == some true

theorem mem_reaching : x ∈ s.reaching severity confidence ↔ x ∈ s.results ∧ x.reaches severity confidence = .ok true := by
  unfold reaching
  rw [mem_filter]
  cases x.reaches severity confidence <;> simp [Except.toOption]

theorem judge_results {ask : Issue → Answer Bool} {items : List Issue}
    (judged : ∀ i ∈ items, ∃ passed, ask i = .ok passed) :
    ∃ pairs, items.mapM (fun i => do return (i, ← ask i)) = .ok pairs ∧
      (pairs.filter Prod.snd).map Prod.fst = items.filter fun i => (ask i).toOption == some true := by
  induction items with
  | nil => exact ⟨[], rfl, rfl⟩
  | cons i rest ih =>
    obtain ⟨passed, asked⟩ := judged i mem_cons_self
    obtain ⟨pairs, done, kept⟩ := ih fun j later => judged j (mem_cons_of_mem i later)
    have begun : (do return (i, ← ask i) : Answer (Issue × Bool)) = .ok (i, passed) := by
      rw [asked]
      rfl
    refine ⟨(i, passed) :: pairs, mapM_cons_eq_ok.mpr ⟨_, _, begun, done, rfl⟩, ?_⟩
    cases passed <;> simp [asked, kept, Except.toOption]

theorem findings_eq (judged : ∀ i ∈ s.results, ∃ passed, i.reaches severity confidence = .ok passed) :
    s.findings severity confidence = .ok (Baseline.compare s.baseline (s.reaching severity confidence)) := by
  obtain ⟨_, done, kept⟩ := judge_results judged
  unfold findings
  rw [done]
  change (if s.baseline.isEmpty then _ else _) = _
  rw [kept, Baseline.compare]
  split <;> rfl

theorem exists_findings_iff : (∃ found, s.findings severity confidence = .ok found) ↔
    ∀ x ∈ s.results, ∃ passed, x.reaches severity confidence = .ok passed := by
  constructor
  · rintro ⟨found, judged⟩ x listed
    obtain ⟨_, all, -⟩ := Answers.bind_eq_ok.mp judged
    obtain ⟨_, each⟩ := Answers.exists_mapM_iff.mp ⟨_, all⟩ x listed
    obtain ⟨passed, asked, -⟩ := Answers.bind_eq_ok.mp each
    exact ⟨passed, asked⟩
  · intro judged
    exact ⟨_, findings_eq judged⟩

theorem findings_lowest (ranked : ∀ i ∈ s.results, i.Ranked) :
    s.findings "UNDEFINED" "UNDEFINED" = .ok (Baseline.compare s.baseline s.results) := by
  have passed : ∀ i ∈ s.results, i.reaches "UNDEFINED" "UNDEFINED" = .ok true :=
    fun i mem => Issue.reaches_lowest.mpr ⟨ranked i mem, rfl⟩
  have all : s.reaching "UNDEFINED" "UNDEFINED" = s.results := by
    apply filter_eq_self.mpr
    intro i mem
    rw [passed i mem]
    rfl
  rw [findings_eq fun i mem => ⟨true, passed i mem⟩, all]

/-- A result is shown exactly if no issue of the baseline says the same, with all results that say the same. -/
theorem mem_findings_iff_count (judged : ∀ i ∈ s.results, ∃ passed, i.reaches severity confidence = .ok passed) :
    ∃ found, s.findings severity confidence = .ok found ∧
      (∀ x ∈ s.reaching severity confidence, x ∈ found.issues ↔ s.baseline.countP x.same = 0) ∧
      (s.baseline = [] → found = .plain (s.reaching severity confidence)) ∧
      (s.baseline ≠ [] → ∃ shown, found = .compared shown ∧
        ∀ x others, (x, others) ∈ shown → others = (s.reaching severity confidence).filter x.same) := by
  refine ⟨_, findings_eq judged, ?_, ?_, ?_⟩
  · intro x reaches
    rw [Baseline.mem_issues_compare, and_iff_right reaches]
    simp only [countP_eq_zero, Issue.same_iff]
  · intro empty
    rw [empty]
    rfl
  · intro given
    refine ⟨_, Baseline.compare_of_ne_nil given _, ?_⟩
    intro x others listed
    exact (Baseline.mem_candidates.mp listed).2

def asserted (line : Int) : Issue :=
  { severity := "LOW", confidence := "HIGH", weakness := ⟨703⟩, text := "Use of assert detected."
    filename := "./a.py", testName := "assert_used", testId := "B101", line := some line, lineRange := [line] }

def grown : Session where
  settings := .standard
  rules := []
  results := [asserted 1, asserted 2, asserted 3,
    { asserted 4 with text := "Use of exec detected.", testName := "exec_used", testId := "B102" }]
  baseline := [asserted 1, asserted 2]

theorem judged_grown : ∀ i ∈ grown.results, i.reaches "LOW" "LOW" = .ok true := by
  intro i mem
  simp only [grown, mem_cons, not_mem_nil, or_false] at mem
  rcases mem with rfl | rfl | rfl | rfl <;> rfl

theorem reaching_grown : grown.reaching "LOW" "LOW" = grown.results := by
  apply filter_eq_self.mpr
  intro i mem
  rw [judged_grown i mem]
  rfl

theorem mem_findings_grown : (∀ i ∈ grown.results, ∃ passed, i.reaches "LOW" "LOW" = .ok passed) ∧
    ∃ found, grown.findings "LOW" "LOW" = .ok found ∧
      ∀ x ∈ grown.results, x ∈ found.issues ↔ x.testId = "B102" := by
  have judged : ∀ i ∈ grown.results, ∃ passed, i.reaches "LOW" "LOW" = .ok passed :=
    fun i listed => ⟨true, judged_grown i listed⟩
  obtain ⟨found, ended, shown, -⟩ := mem_findings_iff_count judged
  refine ⟨judged, found, ended, ?_⟩
  intro x listed
  rw [shown x (reaching_grown ▸ listed)]
  simp only [grown, mem_cons, not_mem_nil, or_false] at listed
  rcases listed with rfl | rfl | rfl | rfl <;> decide

/-- Of three results that say the same, two of which were there before, none is shown. -/
theorem grown_hidden : ∃ x ∈ grown.reaching "LOW" "LOW",
    grown.baseline.countP x.same < (grown.reaching "LOW" "LOW").countP x.same ∧
      ∃ found, grown.findings "LOW" "LOW" = .ok found ∧ x ∉ found.issues := by
  have judged : ∀ i ∈ grown.results, ∃ passed, i.reaches "LOW" "LOW" = .ok passed :=
    fun i listed => ⟨true, judged_grown i listed⟩
  rw [reaching_grown]
  refine ⟨_, mem_cons_self, by decide, _, findings_eq judged, ?_⟩
  rw [Baseline.mem_issues_compare]
  rintro ⟨-, apart⟩
  exact apart _ mem_cons_self (.refl _)

end Session

end SourceAudit
