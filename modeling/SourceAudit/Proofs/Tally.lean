import SourceAudit.Proofs.Run

/-! How the numbers of a run agree with its results: they are got back from weighted scores. -/

namespace SourceAudit

open List Rank Option Metrics

variable {i : Issue} {issues : List Issue} {s : Score} {scan : Nat}

theorem Rank.ofName?_eq_some {name : String} {r : Rank} : ofName? name = some r ↔ name = r.name := by
  constructor
  · intro found
    have named := List.find?_some found
    exact (by simpa using named : r.name = name).symm
  · rintro rfl
    cases r <;> decide

theorem Rank.index_injective {a b : Rank} (same : a.index = b.index) : a = b := by
  cases a <;> cases b <;> first | rfl | exact absurd same (by decide)

namespace Scale

def grade : Scale → Issue → String
  | severity => Issue.severity
  | confidence => Issue.confidence

def count (scale : Scale) (r : Rank) (issues : List Issue) : Nat := issues.countP fun i => scale.grade i == r.name

end Scale

/-- Severity and confidence of an issue are ranks. -/
def Issue.Ranked (i : Issue) : Prop := ∀ scale : Scale, (Rank.ofName? (scale.grade i)).isSome

theorem Issue.Ranked.exists_rank (ranked : i.Ranked) (scale : Scale) : ∃ r : Rank, scale.grade i = r.name := by
  obtain ⟨r, found⟩ := isSome_iff_exists.mp (ranked scale)
  exact ⟨r, ofName?_eq_some.mp found⟩

namespace Scale

theorem count_concat (scale : Scale) (r : Rank) (issues : List Issue) (i : Issue) :
    scale.count r (issues ++ [i]) = scale.count r issues + if scale.grade i = r.name then 1 else 0 := by
  simp [count, countP_append, countP_cons]

theorem sum_count (ranked : ∀ i ∈ issues, i.Ranked) (scale : Scale) :
    (Rank.all.map fun r => scale.count r issues).sum = issues.length := by
  induction issues with
  | nil => rfl
  | cons i rest ih =>
    obtain ⟨own, graded⟩ := (ranked i mem_cons_self).exists_rank scale
    have once : (Rank.all.map fun r => if own.name = r.name then 1 else 0).sum = 1 := by cases own <;> decide
    have others := ih fun j later => ranked j (mem_cons_of_mem i later)
    simp only [count, countP_cons, graded, beq_iff_eq] at others ⊢
    rw [sum_map_add, others, once, length_cons]

end Scale

def Score.Tallies (s : Score) (issues : List Issue) : Prop :=
  ∀ (scale : Scale) (r : Rank), (scale.weights s)[r.index]? = some ((r.weight : Int) * (scale.count r issues : Int))

namespace Score

theorem weights_addIssue (ranked : i.Ranked) (s : Score) (scale : Scale) : ∃ own : Rank, scale.grade i = own.name ∧
      scale.weights (s.addIssue i) = addWeight own (scale.weights s) := by
  obtain ⟨severe, severity⟩ := isSome_iff_exists.mp (ranked .severity)
  obtain ⟨sure, confidence⟩ := isSome_iff_exists.mp (ranked .confidence)
  simp only [Scale.grade] at severity confidence
  have added : s.addIssue i = (s.addSeverity severe).addConfidence sure := by
    simp [addIssue, Issue.rankOf, severity, confidence]
  rw [added]
  cases scale with
  | severity => exact ⟨severe, ofName?_eq_some.mp severity, rfl⟩
  | confidence => exact ⟨sure, ofName?_eq_some.mp confidence, rfl⟩

theorem tallies_empty : Tallies {} [] := by
  intro scale r
  cases scale <;> cases r <;> rfl

theorem Tallies.addIssue (tallied : s.Tallies issues) (ranked : i.Ranked) : (s.addIssue i).Tallies (issues ++ [i]) := by
  intro scale r
  obtain ⟨own, graded, added⟩ := weights_addIssue ranked s scale
  rw [added, addWeight, List.getElem?_modify, tallied scale r, Scale.count_concat, graded]
  -- the weight is added at the place of its own rank, and no other rank is counted
  by_cases same : own = r
  · subst same
    simp [Int.mul_add]
  · have apart : own.index ≠ r.index := fun h => same (index_injective h)
    have renamed : own.name ≠ r.name := by
      intro h
      have both := ofName?_eq_some.mpr h
      rw [ofName?_eq_some.mpr rfl] at both
      exact same (Option.some.inj both)
    simp [apart, renamed]

theorem Tallies.foldl {before : List Issue} (tallied : s.Tallies before) (ranked : ∀ i ∈ issues, i.Ranked) :
    (issues.foldl Score.addIssue s).Tallies (before ++ issues) := by
  induction issues generalizing s before with
  | nil => simpa using tallied
  | cons i rest ih =>
    have stepped := tallied.addIssue (ranked i mem_cons_self)
    simpa using ih stepped fun j later => ranked j (mem_cons_of_mem i later)

end Score

def Score.Holds (s : Score) (number : Scale → Rank → Int) : Prop :=
  ∀ (scale : Scale) (r : Rank), (scale.weights s)[r.index]? = some ((r.weight : Int) * number scale r)

theorem Metrics.exists_issueCounts {number : Scale → Rank → Int} (holds : s.Holds number) (later : List Score) :
    ∃ counts, issueCounts (s :: later) = .ok counts ∧ (counts.map Prod.fst).Nodup ∧
      ∀ (scale : Scale) (r : Rank), counts.lookup (scale.label r) = some (number scale r) := by
  have counted (scale : Scale) (r : Rank) : issueCount (scale.weights s) r = .ok (number scale r) := by
    have positive : (r.weight : Int) ≠ 0 := by cases r <;> decide
    rw [issueCount, holds scale r]
    simp only [Int.mul_fdiv_cancel_left _ positive]
  have row (scale : Scale) : ranksCounted s scale Rank.all =
      .ok (Rank.all.map fun r => (scale.label r, number scale r)) := by
    refine Answers.mapM_of_ok fun r _ => ?_
    rw [counted]
    rfl
  have done : issueCounts (s :: later) = .ok (Rank.all.map (fun r => (severityLabel r, number .severity r)) ++
      Rank.all.map fun r => (confidenceLabel r, number .confidence r)) := by
    rw [issueCounts_cons, countScore_nil, row, row]
    rfl
  refine ⟨_, done, ?_, fun scale r => ?_⟩
  · rw [keys_issueCounts done]
    decide
  · cases scale <;> cases r <;>
      simp [Rank.all, Entries.lookup_cons, Scale.label, severityLabel, confidenceLabel, Rank.name]

namespace Document

variable {d : Document} {out : Outcome}

theorem lookup_counts (tallied : out.score.Tallies out.issues) (scale : Scale) (r : Rank) :
    (d.counts out none).lookup (scale.label r) = some (scale.count r out.issues : Int) := by
  obtain ⟨issues, counted, distinct, found⟩ := exists_issueCounts tallied []
  simp only [counts, counted]
  rw [Counts.lookup_foldl_set _ _ distinct, found, Option.some_or]

theorem get_counts_skipped (why : Skip) (scale : Scale) (r : Rank) :
    (d.counts out (some why)).get (scale.label r) = 0 := by
  cases scale <;> cases r <;>
    simp [counts, measured, Counts.get, Entries.lookup_cons, Scale.label, Metrics.severityLabel,
      Metrics.confidenceLabel, Rank.name]

end Document

namespace Session

variable {t : FileTree} {input : Input} {o : ScanOptions} {name : String}

theorem count_issues (scan : Nat) (d : Document) (out : Outcome) (scale : Scale) (r : Rank) :
    scale.count r (Fate.issues scan (.scanned d out)) = scale.count r out.issues := by
  rw [Scale.count, Fate.issues, countP_map]
  cases scale <;> rfl

theorem tallies_of_scanned {d : Document} {out : Outcome} (fated : fate t input o name = .scanned d out)
    (ranked : ∀ i ∈ (fate t input o name).issues scan, i.Ranked) : out.score.Tallies out.issues := by
  have plain : ∀ i ∈ out.issues, i.Ranked := by
    intro i present scale
    rw [fated] at ranked
    have marked := ranked _ (mem_map_of_mem present) scale
    cases scale <;> exact marked
  rw [Document.score_of_scan (fate_eq_scanned fated).2]
  exact Score.tallies_empty.foldl plain

theorem sum_block {b : String × Counts} (made : (fate t input o name).block? = some b)
    (ranked : ∀ i ∈ (fate t input o name).issues scan, i.Ranked) (scale : Scale) :
    (Rank.all.map fun r => b.2.get (scale.label r)).sum = ((fate t input o name).issues scan).length := by
  cases fated : fate t input o name with
  | unread why => simp [fated, Fate.block?] at made
  | dropped d out why =>
    rw [fated, Fate.block?, Option.some.injEq] at made
    subst made
    simp [Document.get_counts_skipped, Fate.issues, Rank.all]
  | scanned d out =>
    have tallied := tallies_of_scanned fated ranked
    have summed := Scale.sum_count ranked scale
    rw [fated] at made summed
    rw [Fate.block?, Option.some.injEq] at made
    subst made
    simp only [Counts.get, Document.lookup_counts tallied, getD_some]
    simp only [count_issues] at summed
    rw [← summed]
    simp [Rank.all]

theorem issues_of_unmade (unmade : (fate t input o name).block? = none) : (fate t input o name).issues scan = [] := by
  cases fated : fate t input o name with
  | unread why => rfl
  | dropped d out why => rfl
  | scanned d out => simp [fated, Fate.block?] at unmade

theorem sum_blocks {names : List String} (ranked : ∀ i ∈ Fate.collect scan (names.map (fate t input o)), i.Ranked)
    (scale : Scale) : (Rank.all.map fun r => ((names.filterMap fun n => (fate t input o n).block?).map fun b =>
        b.2.get (scale.label r)).sum).sum = ((Fate.collect scan (names.map (fate t input o))).length : Int) := by
  induction names generalizing scan with
  | nil => rfl
  | cons name rest ih =>
    rw [map_cons, Fate.collect] at ranked ⊢
    have others := ih fun i later => ranked i (mem_append_right _ later)
    have own : ∀ i ∈ (fate t input o name).issues scan, i.Ranked :=
      fun i here => ranked i (mem_append_left _ here)
    cases made : (fate t input o name).block? with
    | none => simpa [made, issues_of_unmade made] using others
    | some b =>
      have first := sum_block made own scale
      simp only [filterMap_cons, made, map_cons, sum_cons]
      rw [sum_map_add, first, others, length_append]
      simp

structure Tallied (s : Session) : Prop where
  /-- The block of each listed file holds, on either scale and for each rank, the number of its results. -/
  files : ∀ f ∈ s.targets.files, ∃ counts, s.metrics.blocks.lookup f = some counts ∧
    ∀ (scale : Scale) (r : Rank), counts.lookup (scale.label r) =
      some (scale.count r (s.results.filter fun i => i.filename == f) : Int)
  /-- The total holds under each label the sum over the blocks of files. -/
  total : ∀ label, s.metrics.total.get label = (s.metrics.fileBlocks.map fun b => b.2.get label).sum
  /-- On either scale the total counts each result once. -/
  results : ∀ scale : Scale, (Rank.all.map fun r => s.metrics.total.get (scale.label r)).sum = (s.results.length : Int)

theorem runWith_tallied {before found : Session} {targets : List String} {recursive : Bool}
    {excluded : String} {log : Log} (fresh : before.Fresh)
    (discovered : before.discover t targets recursive excluded = .ok (found, log))
    (now : FileTree) (input : Except OpenError Bytes)
    (ranked : ∀ i ∈ (found.runWith now input).1.results, i.Ranked) :
    Tallied (found.runWith now input).1 := by
  obtain ⟨unused, separate⟩ := separate_of_discover fresh discovered
  have ran := ran_runWith now input unused separate
  obtain ⟨m, metrics, blocks⟩ := ran.metrics
  rw [ran.results] at ranked
  constructor
  case files =>
      intro f listed
      rw [ran.files] at listed
      obtain ⟨name, present, kept⟩ := mem_filterMap.mp listed
      have named := shown_of_file? kept
      cases fated : fate now input found.options name with
      | unread why => simp [fated, Fate.file?] at kept
      | dropped d out why => simp [fated, Fate.file?] at kept
      | scanned d out =>
        obtain rfl : d.name = f := by simpa [fated, Fate.file?] using kept
        obtain ⟨n, own⟩ := filter_collect now input found.options separate.distinct present 0
        have ownRanked : ∀ i ∈ (fate now input found.options name).issues n, i.Ranked := by
          rw [← own]
          exact fun i there => ranked i (mem_filter.mp there).1
        have made : (d.name, d.counts out none) ∈
            found.targets.files.filterMap fun n => (fate now input found.options n).block? :=
          mem_filterMap.mpr ⟨name, present, by rw [fated, Fate.block?]⟩
        refine ⟨d.counts out none, ?_, ?_⟩
        · rw [metrics]
          exact lookup_of_blocks unused separate blocks made
        · intro scale r
          rw [Document.lookup_counts (tallies_of_scanned fated ownRanked), ran.results, named, own, fated,
            count_issues]
  case total =>
      intro label
      rw [metrics, fileBlocks_aggregate, fileBlocks_of_blocks unused separate blocks]
      exact get_total_of_blocks blocks label
  case results =>
      intro scale
      calc (Rank.all.map fun r => (found.runWith now input).1.metrics.total.get (scale.label r)).sum
          = (Rank.all.map fun r => ((found.targets.files.filterMap fun n =>
              (fate now input found.options n).block?).map fun b => b.2.get (scale.label r)).sum).sum := by
            simp only [metrics, get_total_of_blocks blocks]
        _ = _ := sum_blocks ranked scale
        _ = _ := by rw [ran.results]

theorem runWith_mixedTree_tallied : ∃ fresh found : Session, fresh.Fresh ∧
    fresh.discover mixedTree ["-", "a.py", "b.py"] false "" = .ok (found, []) ∧
    ((found.runWith mixedTree (.ok [])).1.results.map fun i => (i.severity, i.confidence)) = [("LOW", "HIGH")] ∧
    Tallied (found.runWith mixedTree (.ok [])).1 := by
  obtain ⟨fresh, created, discovered⟩ := exists_found_mixed
  have unused := fresh_of_create created
  have ends : (create .standard (.dict [])).toOption.map (fun s =>
      (runWith mixedTree (.ok []) { s with targets := mixedTargets }).1.results.map fun i =>
        (i.severity, i.confidence)) = some [("LOW", "HIGH")] := by decide +kernel
  simp only [created, Except.toOption, map_some, Option.some.injEq] at ends
  refine ⟨fresh, _, unused, discovered, ends, runWith_tallied unused discovered mixedTree (.ok []) ?_⟩
  intro i there scale
  have grades := mem_map_of_mem (f := fun i : Issue => (i.severity, i.confidence)) there
  rw [ends, mem_singleton, Prod.mk.injEq] at grades
  cases scale with
  | severity => rw [Scale.grade, grades.1]; decide
  | confidence => rw [Scale.grade, grades.2]; decide

end Session

namespace Score

/-- How many issues of a rank the weight in a score stands for. -/
def number (s : Score) (scale : Scale) (r : Rank) : Int := (scale.weights s).getD r.index 0 / r.weight

/-- All weights are multiples of those of the ranks, and none is below zero. -/
def Whole (s : Score) : Prop :=
  ∀ (scale : Scale) (r : Rank), ∃ n : Nat, (scale.weights s)[r.index]? = some ((r.weight : Int) * n)

theorem Whole.number_eq (whole : s.Whole) (scale : Scale) (r : Rank) :
    ∃ n : Nat, s.number scale r = n ∧ (scale.weights s)[r.index]? = some ((r.weight : Int) * n) := by
  obtain ⟨n, held⟩ := whole scale r
  have positive : (r.weight : Int) ≠ 0 := by cases r <;> decide
  exact ⟨n, by rw [number, getD_eq_getElem?_getD, held, getD_some, Int.mul_ediv_cancel_left _ positive], held⟩

theorem Whole.holds (whole : s.Whole) : s.Holds s.number := by
  intro scale r
  obtain ⟨n, same, held⟩ := whole.number_eq scale r
  rw [held, same]

theorem sum_number_eq_zero {scores : List Score} (whole : ∀ s ∈ scores, s.Whole) (scale : Scale) (r : Rank) :
    (scores.map fun s => s.number scale r).sum = 0 ↔ ∀ s ∈ scores, s.number scale r = 0 := by
  constructor
  · intro none s among
    refine all_zero_of_le_zero_le_of_sum_eq_zero (fun n mem => ?_) none (mem_map_of_mem among)
    obtain ⟨s, among, rfl⟩ := mem_map.mp mem
    obtain ⟨n, same, -⟩ := (whole s among).number_eq scale r
    exact same ▸ Int.natCast_nonneg n
  · intro none
    rw [map_congr_left none]
    simp

end Score

namespace Metrics

variable {m : Metrics} {name : String} {before : Counts} {scores : List Score} (current : m.current = .block name)
  (present : m.blocks.lookup name = some before) (whole : ∀ s ∈ scores, s.Whole)

include current present whole

theorem exists_setIssues : ∃ counted after, m.setIssues scores = .ok counted ∧ counted.blocks.lookup name = some after ∧
    ∀ (scale : Scale) (r : Rank), after.lookup (scale.label r) =
      scores.head?.elim (before.lookup (scale.label r)) fun s => some (s.number scale r) := by
  have modified (f : Counts → Counts) : m.modify f = .ok { m with blocks := Entries.update name f m.blocks } := by
    rw [modify, current]
  have found (f : Counts → Counts) : (Entries.update name f m.blocks).lookup name = some (f before) := by
    rw [Entries.lookup_update, if_pos rfl, present, Option.map_some]
  cases scores with
  | nil =>
    refine ⟨{ m with blocks := Entries.update name id m.blocks }, before, ?_, found id, fun _ _ => rfl⟩
    rw [setIssues, modified]
    exact modified id
  | cons s later =>
    obtain ⟨counts, counted, distinct, listed⟩ := exists_issueCounts (whole s mem_cons_self).holds later
    let write (cs : Counts) : Counts := counts.foldl (fun acc e => acc.set e.1 e.2) cs
    have done : m.setIssues (s :: later) = .ok { m with blocks := Entries.update name write m.blocks } := by
      rw [setIssues, modified, counted]
      exact modified write
    refine ⟨_, write before, done, found write, fun scale r => ?_⟩
    rw [Counts.lookup_foldl_set _ _ distinct, listed, Option.some_or, head?_cons, Option.elim_some]

/-- Of several scores only the first is counted: the numbers add up exactly if the later ones hold nothing and, where
there is no score at all, the numbers are there already and zero. -/
theorem setIssues_adds_iff :
    ∃ counted after, m.setIssues scores = .ok counted ∧ counted.blocks.lookup name = some after ∧
      (∀ (scale : Scale) (r : Rank), after.lookup (scale.label r) =
        scores.head?.elim (before.lookup (scale.label r)) fun s => some (s.number scale r)) ∧
      ((∀ (scale : Scale) (r : Rank), after.lookup (scale.label r) = some (scores.map fun s => s.number scale r).sum) ↔
        (∀ s ∈ scores.tail, ∀ (scale : Scale) (r : Rank), s.number scale r = 0) ∧
        (scores = [] → ∀ (scale : Scale) (r : Rank), before.lookup (scale.label r) = some 0)) := by
  obtain ⟨counted, after, done, found, each⟩ := exists_setIssues current present whole
  refine ⟨counted, after, done, found, each, ?_⟩
  simp only [each]
  cases scores with
  | nil => simp
  | cons s later =>
    have rest := Score.sum_number_eq_zero fun s among => whole s (mem_cons_of_mem _ among)
    simp only [head?_cons, Option.elim_some, map_cons, sum_cons, Option.some.injEq, left_eq_add, rest, tail_cons,
      reduceCtorEq, false_implies, and_true]
    exact ⟨fun all s among scale r => all scale r s among, fun all scale r s among => all s among scale r⟩

omit current present whole

theorem setIssues_adds_low : ∃ counted after,
    (empty.begin "a").setIssues [{ severity := [0, 3, 0, 0] }, {}] = .ok counted ∧
      counted.blocks.lookup "a" = some after ∧ ∀ (scale : Scale) (r : Rank), after.lookup (scale.label r) =
        some (Score.number { severity := [0, 3, 0, 0] } scale r + (Score.number {} scale r + 0)) := by
  have whole : ∀ s ∈ [({ severity := [0, 3, 0, 0] } : Score), {}], s.Whole := by
    rw [forall_mem_cons, forall_mem_singleton]
    refine ⟨fun scale r => ⟨if scale = .severity ∧ r = .low then 1 else 0, ?_⟩, fun scale r => ⟨0, ?_⟩⟩
    all_goals cases scale <;> cases r <;> rfl
  obtain ⟨counted, after, done, found, -, adds⟩ := setIssues_adds_iff (m := empty.begin "a") rfl rfl whole
  refine ⟨counted, after, done, found, adds.mpr ⟨?_, nofun⟩⟩
  rw [tail_cons, forall_mem_singleton]
  exact fun scale r => by cases scale <;> cases r <;> rfl

/-- Of two issues of low severity, in two scores, one is counted. -/
theorem second_score_missed : ∃ counted after,
    (empty.begin "a").setIssues [{ severity := [0, 3, 0, 0] }, { severity := [0, 3, 0, 0] }] = .ok counted ∧
      counted.blocks.lookup "a" = some after ∧ after.lookup (Scale.severity.label .low) = some 1 ∧
        ([{ severity := [0, 3, 0, 0] }, { severity := [0, 3, 0, 0] }].map fun s => Score.number s .severity .low).sum =
          2 :=
  ⟨_, _, rfl, rfl, by decide +kernel, rfl⟩

end Metrics

end SourceAudit
