import SourceAudit.Proofs.Excerpt
import SourceAudit.Proofs.Lifetime
import SourceAudit.Proofs.Markup
import SourceAudit.Report.Output

/-! Which reports can be made, by what each format needs of issues and skipped files. -/

namespace SourceAudit

open Answers List

namespace Counts

variable {label : String}

theorem isSome_lookup_sum {a b : Counts} (there : (a.lookup label).isSome ∨ (b.lookup label).isSome) :
    ((a.sum b).lookup label).isSome := by
  unfold sum
  induction b generalizing a with
  | nil => simpa using there
  | cons e rest ih =>
    obtain ⟨own, n⟩ := e
    have next : ((a.add own n).lookup label).isSome ∨ (rest.lookup label).isSome := by
      rw [Counts.add, Entries.lookup_put]
      by_cases same : label = own
      · exact .inl (by simp [same])
      · rw [if_neg same]
        rwa [Entries.lookup_cons, if_neg same] at there
    exact ih next

theorem isSome_lookup_foldl_sum {blocks : List (String × Counts)} {start : Counts}
    (there : (start.lookup label).isSome ∨ ∃ b ∈ blocks, (b.2.lookup label).isSome) :
    ((blocks.foldl (fun acc b => acc.sum b.2) start).lookup label).isSome := by
  induction blocks generalizing start with
  | nil => simpa using there
  | cons b rest ih =>
    apply ih
    rcases there with first | ⟨c, mem, later⟩
    · exact .inl (isSome_lookup_sum (.inl first))
    · rcases mem_cons.mp mem with rfl | among
      · exact .inl (isSome_lookup_sum (.inr later))
      · exact .inr ⟨c, among, later⟩

end Counts

namespace Metrics

def labels : List String := empty.total.map Prod.fst

def Counted (m : Metrics) : Prop := ∀ label ∈ labels, (m.total.lookup label).isSome

theorem counted_empty : empty.Counted := by
  unfold Counted
  decide +kernel

theorem Counted.aggregate {m : Metrics} (counted : m.Counted) : m.aggregate.Counted := by
  intro label mem
  have there := counted label mem
  have summed : m.aggregate.total = m.blocks.foldl (fun (acc : Counts) b => acc.sum b.2) [] := by
    rw [total, Metrics.aggregate, putBlock, Entries.lookup_put, if_pos rfl]
    cases m.blocks.lookup totalName <;> rfl
  rw [summed]
  apply Counts.isSome_lookup_foldl_sum
  cases found : m.blocks.lookup totalName with
  | none => simp [total, found] at there
  | some cs =>
    obtain ⟨_, _, split, -⟩ := lookup_eq_some_iff.mp found
    refine .inr ⟨(totalName, cs), by simp [split], ?_⟩
    simpa [total, found] using there

end Metrics

namespace Session

variable {s : Session}

theorem counted_after (orderly : s.Orderly) (counted : s.metrics.Counted) (step : Step) :
    (s.after step).metrics.Counted := by
  cases step with
  | discover t targets recursive excluded =>
    rw [metrics_after_discover orderly]
    exact counted
  | run t input =>
    obtain ⟨-, same⟩ := orderly.foldl t input orderly.files []
    apply Metrics.Counted.aggregate
    unfold Metrics.Counted
    rw [same]
    exact counted

theorem counted_life (orderly : s.Orderly) (counted : s.metrics.Counted) (steps : List Step) :
    (s.life steps).metrics.Counted := by
  induction steps generalizing s with
  | nil => exact counted
  | cons step rest ih => exact ih (orderly.after step) (counted_after orderly counted step)

end Session

namespace Findings

def Settled (found : Findings) : Prop := ∀ f ∈ Report.withCandidates found, f.1 ∈ f.2 ∧ ∀ i ∈ f.2, i ∈ found.issues

theorem issues_eq (found : Findings) : found.issues = (Report.withCandidates found).map Prod.fst := by
  cases found with
  | plain is => simp [issues, Report.withCandidates, Function.comp_def]
  | compared is => rfl

theorem count_eq_zero {found : Findings} : found.count = 0 ↔ found.issues = [] := by cases found <;> simp [count, issues]

theorem forall_issues_iff {found : Findings} (settled : found.Settled) {P : Issue → Prop} :
    (∀ f ∈ Report.withCandidates found, ∀ i ∈ f.2, P i) ↔ ∀ i ∈ found.issues, P i := by
  constructor
  · intro each i mem
    rw [issues_eq] at mem
    obtain ⟨f, there, rfl⟩ := mem_map.mp mem
    exact each f there f.1 (settled f there).1
  · intro each f there i among
    exact each i ((settled f there).2 i among)

theorem settled_compare (baseline results : List Issue) : (Baseline.compare baseline results).Settled := by
  intro f there
  by_cases given : baseline = []
  · subst given
    obtain ⟨i, mem, rfl⟩ := mem_map.mp (show f ∈ results.map fun i => (i, [i]) from there)
    exact ⟨mem_singleton_self i, fun j among => mem_singleton.mp among ▸ mem⟩
  · rw [Baseline.compare_of_ne_nil given] at there
    obtain ⟨unmatched, candidates⟩ := Baseline.mem_candidates.mp (show (f.1, f.2) ∈ Baseline.candidates _ _ from there)
    obtain ⟨mem, apart⟩ := Baseline.mem_unmatched.mp unmatched
    rw [candidates]
    refine ⟨mem_filter.mpr ⟨mem, Issue.same_iff.mpr (.refl f.1)⟩, ?_⟩
    intro i among
    obtain ⟨result, same⟩ := mem_filter.mp among
    refine Baseline.mem_issues_compare.mpr ⟨result, ?_⟩
    intro b old agree
    exact apart b old ((Issue.same_iff.mp same).trans agree)

theorem eq_singleton {f : Issue × List Issue} (among : f.1 ∈ f.2) (alone : f.2.length = 1) : f.2 = [f.1] := by
  obtain ⟨i, only⟩ := length_eq_one_iff.mp alone
  rw [only] at among ⊢
  rw [mem_singleton.mp among]

end Findings

namespace Report

variable {r : Report}

theorem findings_lowest (lowest : r.severity = "UNDEFINED" ∧ r.confidence = "UNDEFINED")
    (ranked : ∀ i ∈ r.session.results, i.Ranked) :
    r.findings = .ok (Baseline.compare r.session.baseline r.session.results) := by
  rw [findings, lowest.1, lowest.2, Session.findings_lowest ranked]

def NamesRead (r : Report) : Prop := ∀ b reason, (.raw b, reason) ∈ r.session.skipped → (Utf8.decode? b).isSome

theorem exists_skippedNames_iff : (∃ names, r.session.skippedNames = .ok names) ↔ r.NamesRead := by
  rw [Session.skippedNames, exists_mapM_iff]
  constructor
  · intro each b reason mem
    obtain ⟨_, read⟩ := each _ mem
    cases decoded : Utf8.decode? b with
    | none => simp [decoded] at read
    | some cs => rfl
  · rintro each ⟨_ | b, reason⟩ mem
    · exact ⟨_, rfl⟩
    · obtain ⟨cs, decoded⟩ := Option.isSome_iff_exists.mp (each b reason mem)
      exact ⟨(String.ofList cs, reason), by simp [decoded]⟩

theorem exists_total (counted : r.session.metrics.Counted) (label : String) (mem : label ∈ Metrics.labels) :
    ∃ n, r.total label = .ok n := by
  obtain ⟨n, found⟩ := Option.isSome_iff_exists.mp (counted label mem)
  exact ⟨n, by rw [total, found]⟩

theorem entries_of_proper {i : Issue} (proper : Text.Proper i.text) : i.entries = .ok i.fields := by
  have encoded := Text.isSome_encodeText?_iff.mpr proper
  rw [Issue.entries, Option.isNone_eq_false_iff.mpr encoded]
  rfl

section

variable {found : Findings} (judged : r.findings = .ok found) (settled : found.Settled)
  (proper : ∀ i ∈ found.issues, Text.Proper i.text) (counted : r.session.metrics.Counted)

include judged proper in
theorem exists_table_iff : (∃ t, r.table = .ok t) ↔ ∀ i ∈ found.issues, i.weakness.id ≠ 0 := by
  have cells {i : Issue} (mem : i ∈ found.issues) : (∃ row, tableCells i = .ok row) ↔ i.weakness.id ≠ 0 := by
    rw [tableCells, entries_of_proper (proper i mem)]
    by_cases none : i.weakness.id = 0
    · simp [none, bind, Except.bind, throw, throwThe, MonadExceptOf.throw]
    · simp [none, bind, Except.bind, pure, Except.pure]
  rw [table, judged]
  refine exists_map_iff.trans (exists_mapM_iff.trans ?_)
  exact forall₂_congr fun i mem => cells mem

include judged settled counted in
theorem exists_page_findings_iff : (∃ t, r.page = .ok t) ↔ (∀ i ∈ found.issues, i.Visible r.lines) ∧ r.NamesRead := by
  have given : (∃ u, r.given = .ok u) ↔ r.NamesRead := by
    rw [← exists_skippedNames_iff, Report.given, judged]
    exact exists_map_iff
  have code : (∃ c, r.shownCode = .ok c) ↔ ∀ i ∈ found.issues, i.Visible r.lines := by
    rw [exists_shownCode_iff judged, ← Findings.forall_issues_iff settled]
    simp only [Issue.exists_code_iff]
    refine forall₂_congr ?_
    intro f there
    split
    · rename_i alone
      rw [Findings.eq_singleton (settled f there).1 (by simpa using alone)]
    · rfl
  rw [exists_page_iff, given, code]
  have loc : ∃ n, r.total "loc" = .ok n := exists_total counted _ (by decide +kernel)
  have nosec : ∃ n, r.total "nosec" = .ok n := exists_total counted _ (by decide +kernel)
  constructor
  · rintro ⟨names, visible, -, -⟩
    exact ⟨visible, names⟩
  · rintro ⟨visible, names⟩
    exact ⟨names, visible, loc, nosec⟩

theorem exists_recordEntries_iff {i : Issue} (proper : Text.Proper i.text) :
    (∃ es, i.recordEntries r.files r.lines = .ok es) ↔ i.Visible r.lines := by
  rw [Issue.recordEntries, entries_of_proper proper]
  exact exists_map_iff.trans Issue.exists_code_iff

theorem exists_issueRecord_iff {i : Issue} (proper : Text.Proper i.text) :
    (∃ es, r.issueRecord i = .ok es) ↔ i.Visible r.lines := by
  rw [← exists_recordEntries_iff proper]
  exact exists_map_iff

theorem exists_comparedRecord_iff {f : Issue × List Issue} (own : f.1 ∈ f.2) (proper : ∀ i ∈ f.2, Text.Proper i.text) :
    (∃ v, r.comparedRecord f.1 f.2 = .ok v) ↔ ∀ i ∈ f.2, i.Visible r.lines := by
  have others : (∃ vs, (f.2.mapM fun c => Value.dict <$> c.recordEntries r.files r.lines) = .ok vs) ↔
      ∀ i ∈ f.2, i.Visible r.lines := by
    rw [exists_mapM_iff]
    exact forall₂_congr fun i among => exists_map_iff.trans (exists_recordEntries_iff (proper i among))
  unfold comparedRecord
  by_cases few : f.2.length ≤ 1
  · have alone : f.2 = [f.1] := Findings.eq_singleton own (by have := length_pos_of_mem own; omega)
    simp only [if_pos few]
    refine exists_map_iff.trans ((exists_issueRecord_iff (proper f.1 own)).trans ?_)
    rw [alone, forall_mem_singleton]
  · simp only [if_neg few, bind_eq_ok, pure_eq_ok]
    rw [← others]
    constructor
    · rintro ⟨v, record, -, vs, written, -⟩
      exact ⟨vs, written⟩
    · rintro ⟨vs, written⟩
      obtain ⟨record, made⟩ := (exists_issueRecord_iff (proper f.1 own)).mpr (others.mp ⟨vs, written⟩ f.1 own)
      exact ⟨_, record, made, vs, written, rfl⟩

include settled proper in
theorem exists_findingRecords_iff :
    (∃ results, r.findingRecords found = .ok results) ↔ ∀ i ∈ found.issues, i.Visible r.lines := by
  cases found with
  | plain is =>
    rw [findingRecords, exists_mapM_iff]
    constructor
    · intro each i mem
      have record := each i (mem_mergeSort.mpr mem)
      rwa [exists_map_iff, exists_issueRecord_iff (proper i mem)] at record
    · intro each i mem
      have among : i ∈ is := mem_mergeSort.mp mem
      rw [exists_map_iff, exists_issueRecord_iff (proper i among)]
      exact each i among
  | compared is =>
    have own {f : Issue × List Issue} (mem : f ∈ is) :
        (∃ v, r.comparedRecord f.1 f.2 = .ok v) ↔ ∀ i ∈ f.2, i.Visible r.lines :=
      exists_comparedRecord_iff (settled f mem).1 fun i among => proper i ((settled f mem).2 i among)
    rw [← Findings.forall_issues_iff settled, findingRecords, exists_mapM_iff]
    constructor
    · intro each f mem
      exact (own mem).mp (each f (mem_mergeSort.mpr mem))
    · intro each f mem
      have among : f ∈ is := mem_mergeSort.mp mem
      exact (own among).mpr (each f among)

include judged settled proper in
theorem exists_json_findings_iff : (∃ t, r.json = .ok t) ↔ (∀ i ∈ found.issues, i.Visible r.lines) ∧ r.NamesRead := by
  rw [← exists_skippedNames_iff, ← exists_findingRecords_iff settled proper]
  have skipped : (∃ errors, r.skippedRecords = .ok errors) ↔ ∃ names, r.session.skippedNames = .ok names :=
    exists_map_iff
  rw [← skipped]
  constructor
  · rintro ⟨t, made⟩
    obtain ⟨errors, _, results, read, same, written, -⟩ := json_eq_ok.mp made
    rw [judged, Except.ok.injEq] at same
    exact ⟨⟨results, same ▸ written⟩, errors, read⟩
  · rintro ⟨⟨results, written⟩, errors, read⟩
    exact ⟨_, json_eq_ok.mpr ⟨errors, found, results, read, judged, written, rfl⟩⟩

theorem exists_issueTrees_iff {shared : List Origin} {is : List Issue} (proper : ∀ i ∈ is, Text.Proper i.text)
    (seen : List Origin) : (∃ trees, r.issueTrees shared seen is = .ok trees) ↔ ∀ i ∈ is, i.Visible r.lines := by
  have single {i : Issue} (proper : Text.Proper i.text) (lines : Yaml.Tree) :
      (∃ tree, r.issueTree lines i = .ok tree) ↔ i.Visible r.lines := by
    rw [issueTree, entries_of_proper proper]
    exact exists_map_iff.trans Issue.exists_code_iff
  induction is generalizing seen with
  | nil => simp [issueTrees]
  | cons i rest ih =>
    rw [forall_mem_cons] at proper ⊢
    have later : (∃ trees, r.issueTrees shared (seen ++ i.origin.toList) rest = .ok trees) ↔
        ∀ i ∈ rest, i.Visible r.lines := ih proper.2 (seen ++ i.origin.toList)
    rw [← single proper.1 (lineTree shared seen i), ← later, issueTrees]
    simp only [bind_eq_ok, pure_eq_ok]
    constructor
    · rintro ⟨-, tree, own, trees, others, -⟩
      exact ⟨⟨tree, own⟩, trees, others⟩
    · rintro ⟨⟨tree, own⟩, trees, others⟩
      exact ⟨_, tree, own, trees, others, rfl⟩

include judged proper in
theorem exists_yaml_iff : (∃ t, r.yaml = .ok t) ↔ (∀ i ∈ found.issues, i.Visible r.lines) ∧ r.NamesRead := by
  have mem {i : Issue} : i ∈ r.ordered id found.issues ↔ i ∈ found.issues := mem_mergeSort
  have trees : (∃ trees, r.issueTrees (sharedOrigins ((r.ordered id found.issues).map Issue.origin)) []
      (r.ordered id found.issues) = .ok trees) ↔ ∀ i ∈ found.issues, i.Visible r.lines := by
    rw [exists_issueTrees_iff fun i there => proper i (mem.mp there)]
    simp only [mem]
  rw [← exists_skippedNames_iff, ← trees, yaml, judged]
  simp only [bind_eq_ok, pure_eq_ok, Except.ok.injEq, exists_eq_left']
  constructor
  · rintro ⟨-, names, read, trees, made, -⟩
    exact ⟨⟨trees, made⟩, names, read⟩
  · rintro ⟨⟨trees, made⟩, names, read⟩
    exact ⟨_, names, read, trees, made, rfl⟩

def Decoration.Starts (d : Decoration) (i : Issue) : Prop := ∃ start, d.issueStart i.severity = .ok start

theorem exists_issueLines_iff {d : Decoration} {margin : Text} {located : Bool} {i : Issue} :
    (∃ t, issueLines d r margin located i = .ok t) ↔ d.Starts i ∧ (located = true → i.Visible r.lines) := by
  have shown : (∃ code, i.code r.files r.lines true = .ok code) ↔ i.Visible r.lines := Issue.exists_code_iff
  rw [← shown, Decoration.Starts]
  simp only [issueLines, bind_eq_ok]
  cases located with
  | false =>
    simp only [Bool.false_eq_true, if_false, false_implies, and_true, pure_eq_ok]
    constructor
    · rintro ⟨-, start, begun, -⟩
      exact ⟨start, begun⟩
    · rintro ⟨start, begun⟩
      exact ⟨_, start, begun, rfl⟩
  | true =>
    simp only [if_true, true_implies, bind_eq_ok, pure_eq_ok]
    constructor
    · rintro ⟨-, start, begun, code, read, -⟩
      exact ⟨⟨start, begun⟩, code, read⟩
    · rintro ⟨⟨start, begun⟩, code, read⟩
      exact ⟨_, start, begun, code, read, rfl⟩

theorem exists_findingLines_iff {d : Decoration} {f : Issue × List Issue} (own : f.1 ∈ f.2) :
    (∃ t, findingLines d r f.1 f.2 = .ok t) ↔ ∀ i ∈ f.2, d.Starts i ∧ i.Visible r.lines := by
  have located {margin : Text} {i : Issue} :
      (∃ t, issueLines d r margin true i = .ok t) ↔ d.Starts i ∧ i.Visible r.lines := by
    rw [exists_issueLines_iff]
    simp
  unfold findingLines
  by_cases alone : f.2.length = 1
  · rw [Findings.eq_singleton own alone, forall_mem_singleton, ← located]
    exact exists_map_iff
  · have bare : (∃ t, issueLines d r [] false f.1 = .ok t) ↔ d.Starts f.1 := by
      rw [exists_issueLines_iff]
      simp
    have others : (∃ shown, (f.2.mapM fun c => do
        return [← issueLines d r (List.replicate 10 32) true c, [10]]) = .ok shown) ↔
        ∀ i ∈ f.2, d.Starts i ∧ i.Visible r.lines := by
      rw [exists_mapM_iff]
      exact forall₂_congr fun i among => exists_map_iff.trans located
    simp only [beq_iff_eq, if_neg alone, bind_eq_ok, pure_eq_ok]
    rw [← others]
    constructor
    · rintro ⟨-, shown, written, -⟩
      exact ⟨shown, written⟩
    · rintro ⟨shown, written⟩
      obtain ⟨first, made⟩ := bare.mpr (others.mp ⟨shown, written⟩ f.1 own).1
      exact ⟨_, shown, written, first, made, rfl⟩

include judged settled in
theorem exists_findingsText_iff (d : Decoration) :
    (∃ t, findingsText d r = .ok t) ↔ ∀ i ∈ found.issues, d.Starts i ∧ i.Visible r.lines := by
  have parts : (∃ parts, ((withCandidates found).mapM fun f => findingLines d r f.1 f.2) = .ok parts) ↔
      ∀ i ∈ found.issues, d.Starts i ∧ i.Visible r.lines := by
    rw [← Findings.forall_issues_iff settled, exists_mapM_iff]
    exact forall₂_congr fun f there => exists_findingLines_iff (settled f there).1
  unfold findingsText
  rw [judged]
  by_cases none : found.count = 0
  · have empty : found.issues = [] := Findings.count_eq_zero.mp none
    simp [none, empty, bind, Except.bind, pure, Except.pure]
  · rw [← parts]
    simp only [bind_eq_ok, pure_eq_ok, Except.ok.injEq, exists_eq_left', beq_iff_eq, if_neg none]
    constructor
    · rintro ⟨-, parts, made, -⟩
      exact ⟨parts, made⟩
    · rintro ⟨parts, made⟩
      exact ⟨_, parts, made, rfl⟩

theorem exists_rankLines (counted : r.session.metrics.Counted) (criterion : String) (label : Rank → String)
    (mem : ∀ rank ∈ Rank.all, label rank ∈ Metrics.labels) : ∃ ts, rankLines r criterion label = .ok ts := by
  refine exists_map_iff.mpr (exists_mapM_iff.mpr ?_)
  intro rank among
  exact exists_map_iff.mpr (exists_total counted _ (mem rank among))

theorem exists_rankDetails (d : Decoration) (counted : r.session.metrics.Counted) : ∃ t, rankDetails d r = .ok t := by
  obtain ⟨_, severe⟩ := exists_rankLines counted "severity" Metrics.severityLabel (by decide +kernel)
  obtain ⟨_, sure⟩ := exists_rankLines counted "confidence" Metrics.confidenceLabel (by decide +kernel)
  exact ⟨_, by rw [rankDetails, severe, sure]; rfl⟩

include judged settled counted in
theorem exists_listing_iff (d : Decoration) : (∃ t, listing d r = .ok t) ↔
    (∀ i ∈ found.issues, d.Starts i ∧ i.Visible r.lines) ∧
      (r.session.quiet = true ∧ found.issues = [] ∨ r.NamesRead) := by
  have text := exists_findingsText_iff judged settled d
  obtain ⟨_, special⟩ := exists_total counted "skipped_tests" (by decide +kernel)
  obtain ⟨loc, scanned⟩ := exists_total counted "loc" (by decide +kernel)
  obtain ⟨nosec, passed⟩ := exists_total counted "nosec" (by decide +kernel)
  obtain ⟨_, detailed⟩ := exists_rankDetails d counted
  unfold listing
  rw [judged, special, scanned, passed, detailed]
  by_cases silent : r.session.quiet = true ∧ found.issues = []
  · have none : found.count = 0 := Findings.count_eq_zero.mpr silent.2
    simp [silent.1, silent.2, none, bind, Except.bind, pure, Except.pure]
  · have told : (r.session.quiet && found.count == 0) = false := by
      rw [← Findings.count_eq_zero] at silent
      simpa using silent
    rw [← text, or_iff_right silent, ← exists_skippedNames_iff]
    simp only [bind_eq_ok, pure_eq_ok, Except.ok.injEq, exists_eq_left', told, Bool.false_eq_true, if_false]
    constructor
    · rintro ⟨-, t, made, names, read, -⟩
      exact ⟨⟨t, made⟩, names, read⟩
    · rintro ⟨⟨t, made⟩, names, read⟩
      exact ⟨_, t, made, names, read, rfl⟩

include judged in
theorem exists_suite : ∃ t, r.suite = .ok t := ⟨_, by rw [suite, judged]; rfl⟩

end

end Report

end SourceAudit
