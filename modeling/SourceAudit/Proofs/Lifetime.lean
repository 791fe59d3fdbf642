import SourceAudit.Proofs.Run

/-! The numbers of a session over all its runs. A total sums up all blocks, the earlier total among them. -/

namespace SourceAudit

open Answers List

variable {cs : Counts} {start out : Outcome} {o : ScanOptions}

variable {m : Metrics} {b : String × Counts} {weights : List Int}

namespace Counts

def Nonneg (cs : Counts) : Prop := ∀ e ∈ cs, 0 ≤ e.2

theorem Nonneg.get (nonneg : cs.Nonneg) (label : String) : 0 ≤ cs.get label := by
  cases found : cs.lookup label with
  | none => simp [Counts.get, found]
  | some n =>
    obtain ⟨_, _, split, -⟩ := lookup_eq_some_iff.mp found
    have bound : 0 ≤ n := nonneg (label, n) (by simp [split])
    simpa [Counts.get, found] using bound

theorem Nonneg.foldl_set {given : Counts} (new : given.Nonneg) (old : cs.Nonneg) :
    Nonneg (given.foldl (fun acc e => acc.set e.1 e.2) cs) := by
  induction given generalizing cs with
  | nil => exact old
  | cons e rest ih =>
    refine ih (fun f later => new f (mem_cons_of_mem e later)) ?_
    intro f present
    rcases Entries.mem_of_mem_put present with rfl | there
    · exact new e mem_cons_self
    · exact old f there

theorem nodup_keys_sum {a : Counts} (distinct : (a.map Prod.fst).Nodup) (b : Counts) :
    ((a.sum b).map Prod.fst).Nodup := by
  induction b generalizing a with
  | nil => exact distinct
  | cons e rest ih => exact ih (Entries.nodup_keys_put distinct e.1 _ e.2)

theorem nodup_keys_foldl_sum (blocks : List (String × Counts)) {start : Counts}
    (distinct : (start.map Prod.fst).Nodup) : ((blocks.foldl (fun acc b => acc.sum b.2) start).map Prod.fst).Nodup := by
  induction blocks generalizing start with
  | nil => exact distinct
  | cons b rest ih => exact ih (nodup_keys_sum distinct b.2)

end Counts

theorem Entries.sum_eq_lookup_add {β : Type} (value : β → Int) {es : List (String × β)}
    (distinct : (es.map Prod.fst).Nodup) (name : String) : (es.map fun e => value e.2).sum =
      ((es.lookup name).map value).getD 0 + ((es.filter fun e => e.1 != name).map fun e => value e.2).sum := by
  induction es with
  | nil => simp
  | cons e rest ih =>
    obtain ⟨key, _⟩ := e
    obtain ⟨new, distinct⟩ := nodup_cons.mp distinct
    rw [map_cons, sum_cons, ih distinct, lookup_cons]
    by_cases same : name = key
    · subst same
      have absent : rest.lookup name = none := (lookup_eq_none_iff name rest).mpr new
      simp [absent]
    · have other : key ≠ name := fun is => same is.symm
      rw [if_neg same, filter_cons_of_pos (by simpa using other), map_cons, sum_cons]
      omega

namespace Metrics

def fileSum (m : Metrics) (label : String) : Int := (m.fileBlocks.map fun b => b.2.get label).sum

/-- Blocks and their numbers bear distinct names, and no number of a file is negative. -/
structure Sound (m : Metrics) : Prop where
  names : (m.blocks.map Prod.fst).Nodup
  labels : ∀ b ∈ m.blocks, (b.2.map Prod.fst).Nodup
  nonneg : ∀ b ∈ m.fileBlocks, b.2.Nonneg

theorem sound_empty : empty.Sound := by
  refine ⟨by decide, ?_, ?_⟩
  · intro b present
    rw [empty, mem_singleton] at present
    subst present
    decide
  · have noFile : empty.fileBlocks = [] := rfl
    simp [noFile]

theorem fileSum_nonneg (sound : m.Sound) (label : String) : 0 ≤ m.fileSum label := by
  apply sum_nonneg
  intro n present
  obtain ⟨b, mem, rfl⟩ := mem_map.mp present
  exact (sound.nonneg b mem).get label

theorem Sound.putBlock (sound : m.Sound) (labels : (b.2.map Prod.fst).Nodup) (nonneg : b.2.Nonneg) (current : Current) :
    Sound { blocks := putBlock b.1 b.2 m.blocks, current } := by
  refine ⟨Entries.nodup_keys_put sound.names b.1 _ b.2, ?_, ?_⟩
  · intro c present
    rcases Entries.mem_of_mem_put present with rfl | old
    · exact labels
    · exact sound.labels c old
  · intro c mem
    obtain ⟨present, file⟩ := mem_filter.mp mem
    rcases Entries.mem_of_mem_put present with rfl | old
    · exact nonneg
    · exact sound.nonneg c (mem_filter.mpr ⟨old, file⟩)

theorem total_putBlock (m : Metrics) (file : b.1 ≠ totalName) (current : Current) :
    total { blocks := putBlock b.1 b.2 m.blocks, current } = m.total := by
  rw [total, putBlock, Entries.lookup_put, if_neg (Ne.symm file), total]

theorem Sound.aggregate (sound : m.Sound) : m.aggregate.Sound := by
  refine ⟨Entries.nodup_keys_put sound.names totalName _ _, ?_, ?_⟩
  · intro b present
    rcases Entries.mem_of_mem_put present with rfl | old
    · exact Counts.nodup_keys_foldl_sum m.blocks nodup_nil
    · exact sound.labels b old
  · rw [fileBlocks_aggregate]
    exact sound.nonneg

@[simp] theorem fileSum_aggregate (m : Metrics) (label : String) : m.aggregate.fileSum label = m.fileSum label := by
  rw [fileSum, fileBlocks_aggregate, fileSum]

theorem get_total_of_sound (sound : m.Sound) (label : String) :
    m.aggregate.total.get label = m.total.get label + m.fileSum label := by
  rw [get_total_aggregate m sound.labels, Entries.sum_eq_lookup_add (·.get label) sound.names totalName, fileSum,
    fileBlocks, total]
  cases m.blocks.lookup totalName <;> simp [Counts.get]

end Metrics

namespace Score

def Nonneg (s : Score) : Prop := ∀ w ∈ s.severity ++ s.confidence, 0 ≤ w

theorem nonneg_addWeight (nonneg : ∀ w ∈ weights, 0 ≤ w) (r : Rank) : ∀ w ∈ addWeight r weights, 0 ≤ w := by
  intro w present
  obtain ⟨n, inside, rfl⟩ := mem_iff_getElem.mp present
  have old : 0 ≤ weights.get ⟨n, by simpa [addWeight] using inside⟩ := nonneg _ (get_mem ..)
  simp only [addWeight, getElem_modify, get_eq_getElem] at old ⊢
  split <;> omega

theorem Nonneg.addIssue {s : Score} (nonneg : s.Nonneg) (i : Issue) : (s.addIssue i).Nonneg := by
  simp only [Nonneg, forall_mem_append] at nonneg ⊢
  unfold Score.addIssue
  split
  · exact nonneg
  · exact ⟨nonneg_addWeight nonneg.1 _, nonneg.2⟩
  · exact ⟨nonneg_addWeight nonneg.1 _, nonneg_addWeight nonneg.2 _⟩

theorem Nonneg.foldl {s : Score} (nonneg : s.Nonneg) (issues : List Issue) : (issues.foldl Score.addIssue s).Nonneg := by
  induction issues generalizing s with
  | nil => exact nonneg
  | cons i rest ih => exact ih (nonneg.addIssue i)

end Score

namespace Metrics

theorem issueCount_nonneg (nonneg : ∀ w ∈ weights, 0 ≤ w) {r : Rank} {n : Int}
    (counted : issueCount weights r = .ok n) : 0 ≤ n := by
  unfold issueCount at counted
  split at counted
  · rename_i w found
    obtain rfl := Except.ok.inj counted
    exact Int.fdiv_nonneg (nonneg w (mem_of_getElem? found)) (by omega)
  · simp at counted

theorem nonneg_issueCounts {s : Score} (nonneg : s.Nonneg) {counts : Counts} (done : issueCounts [s] = .ok counts) :
    counts.Nonneg := by
  have each (scale : Scale) (sane : ∀ w ∈ scale.weights s, 0 ≤ w) {counts : Counts}
      (all : ranksCounted s scale Rank.all = .ok counts) : counts.Nonneg := by
    intro e present
    obtain ⟨r, -, counted⟩ := (mem_mapM_iff all).mp present
    simp only [bind_eq_ok, pure_eq_ok] at counted
    obtain ⟨n, counted, rfl⟩ := counted
    exact issueCount_nonneg sane counted
  simp only [issueCounts_cons, countScore_nil, bind_eq_ok, pure_eq_ok] at done
  obtain ⟨_, bySeverity, _, byConfidence, rfl⟩ := done
  obtain ⟨severe, sure⟩ := forall_mem_append.mp nonneg
  exact forall_mem_append.mpr ⟨each .severity severe bySeverity, each .confidence sure byConfidence⟩

end Metrics

def Outcome.Nonneg (o : Outcome) : Prop := 0 ≤ o.nosec ∧ 0 ≤ o.skipped

namespace Inspection

theorem nonneg_one {debug : Bool} {ss : Suppressions} {c : Context} {r : ActiveRule} {o : Outcome}
    (nonneg : o.Nonneg) : (finish ((one debug ss c r).run o)).Nonneg := by
  have recorded := finish_one debug ss c r o
  have nosec := congrArg Outcome.nosec recorded
  have skipped := congrArg Outcome.skipped recorded
  simp only [Outcome.quiet, Outcome.foldl_record] at nosec skipped
  obtain ⟨_, _⟩ := nonneg
  constructor <;> omega

theorem nonneg_forM (debug : Bool) (ss : Suppressions) (looks : List (Context × ActiveRule))
    (nonneg : start.Nonneg) : (finish ((looks.forM fun l => one debug ss l.1 l.2).run start)).Nonneg := by
  induction looks generalizing start with
  | nil => exact nonneg
  | cons l rest ih =>
    simp only [forM_eq_forM, forM_cons, EStateM.run_bind] at ih ⊢
    have stepped : (finish ((one debug ss l.1 l.2).run start)).Nonneg := nonneg_one nonneg
    cases ran : (one debug ss l.1 l.2).run start with
    | ok _ middle =>
      rw [ran] at stepped
      exact ih stepped
    | error fault last =>
      rw [ran] at stepped
      exact stepped

end Inspection

namespace Document

theorem nonneg_scanTree (o : ScanOptions) (ss : Suppressions) (d : Document)
    (nonneg : start.Nonneg) : (d.scanTree o ss start).1.Nonneg := by
  unfold scanTree
  split
  · exact nonneg
  · rename_i tree parsed
    have named : Outcome.Nonneg { start with log := start.log ++ d.namelessLog } := nonneg
    have inspected := Inspection.nonneg_forM o.debug ss (d.looks o.rules tree) named
    rw [← inspect_eq] at inspected
    change (Inspection.finish (d.inspect o ss tree _)).Nonneg at inspected
    cases ran : d.inspect o ss tree { start with log := start.log ++ d.namelessLog } with
    | ok _ out => simpa only [ran, Inspection.finish_ok] using inspected
    | error fault out => simpa only [ran, Inspection.finish_error] using inspected

theorem nonneg_scan (o : ScanOptions) (d : Document) : (d.scan o).1.Nonneg := by
  have nothing (log : Log) : Outcome.Nonneg { log } := ⟨Int.le_refl 0, Int.le_refl 0⟩
  unfold scan
  split
  · exact nothing []
  · rename_i e encoding
    split
    · dsimp only
      cases (Source.comments e d.bytes).2 with
      | badIndentation => exact nothing _
      | undecodable => exact nothing _
      | complete => exact nonneg_scanTree _ _ _ (nothing _)
      | unfinished => exact nonneg_scanTree _ _ _ (nothing _)
    · exact nonneg_scanTree _ _ _ (nothing [])

theorem nonneg_measured (d : Document) (nonneg : out.Nonneg) : (d.measured out).Nonneg := by
  intro e present
  simp only [measured, mem_cons, not_mem_nil, or_false] at present
  rcases present with rfl | rfl | rfl
  · exact Int.natCast_nonneg _
  · exact nonneg.1
  · exact nonneg.2

theorem nonneg_counts {d : Document} {skip : Option Skip}
    (done : d.scan o = (out, skip)) : (d.counts out skip).Nonneg := by
  have bare : (d.measured out).Nonneg := by
    have scanned := nonneg_scan o d
    rw [done] at scanned
    exact nonneg_measured d scanned
  cases skip with
  | some why => exact bare
  | none =>
    have zero : Score.Nonneg {} := by simp [Score.Nonneg]
    have weights : out.score.Nonneg := by
      rw [score_of_scan done]
      exact zero.foldl out.issues
    cases counted : Metrics.issueCounts [out.score] with
    | error fault => simpa only [counts, counted] using bare
    | ok issues =>
      simp only [counts, counted]
      exact (Metrics.nonneg_issueCounts weights counted).foldl_set bare

end Document

namespace Session

variable {t : FileTree} {input : Input} {s : Session} {name : String}

theorem nonneg_block (made : (fate t input o name).block? = some b) : b.2.Nonneg := by
  unfold fate at made
  split at made
  · simp [Fate.block?] at made
  · split at made
    · rename_i out scanned
      obtain rfl := Option.some.inj made
      exact Document.nonneg_counts scanned
    · rename_i out why scanned
      obtain rfl := Option.some.inj made
      exact Document.nonneg_counts scanned

theorem metrics_scanNamed (t : FileTree) (input : Input) (s : Session) (name : String) :
    (scanNamed t input s name).1.metrics = ((fate t input s.options name).block?.map fun b =>
        { blocks := Metrics.putBlock b.1 b.2 s.metrics.blocks, current := .block b.1 }).getD s.metrics := by
  unfold scanNamed fate
  cases opened : document t input name with
  | error why => rfl
  | ok d =>
    have renamed : (if name == "-" then s.nameInput else s).options = s.options ∧
        (if name == "-" then s.nameInput else s).metrics = s.metrics := by
      split <;> exact ⟨rfl, rfl⟩
    obtain ⟨options, metrics⟩ := renamed
    simp only [scanDocument]
    rw [show ({ rules := _, debug := _, heedComments := _ } : ScanOptions) = s.options from options]
    rcases scanned : d.scan s.options with ⟨_, _ | why⟩
    · simp only [metrics, measure_eq, setIssues_eq]
      rfl
    · simp only [dropFile, metrics, measure_eq]
      rfl

/-- The numbers of a session are sound, and no file is called like the total. -/
structure Orderly (s : Session) : Prop where
  metrics : s.metrics.Sound
  files : ∀ f ∈ s.targets.files, f ≠ Metrics.totalName

theorem files_scanDocument (d : Document) (s : Session) : (scanDocument d s).1.targets.files ⊆ s.targets.files := by
  unfold scanDocument
  rcases d.scan _ with ⟨_, _ | _⟩
  · exact List.Subset.refl _
  · exact erase_subset

theorem mem_files_scanNamed {f : String} (mem : f ∈ (scanNamed t input s name).1.targets.files) :
    f ∈ s.targets.files ∨ f = Issue.inputName := by
  have renamed (present : f ∈ (if name == "-" then s.nameInput else s).targets.files) :
      f ∈ s.targets.files ∨ f = Issue.inputName := by
    split at present
    · obtain ⟨old, there, rfl⟩ := mem_map.mp present
      by_cases hyphen : old = "-"
      · simp [hyphen]
      · simp [hyphen, there]
    · exact .inl present
  unfold scanNamed at mem
  split at mem
  · exact renamed (files_scanDocument _ _ mem)
  · exact .inl (mem_of_mem_erase mem)

variable (t input) in
theorem Orderly.scanNamed (orderly : s.Orderly) (file : name ≠ Metrics.totalName) :
    (scanNamed t input s name).1.Orderly ∧ (Session.scanNamed t input s name).1.metrics.total = s.metrics.total := by
  have shownFile : shown name ≠ Metrics.totalName := by
    by_cases hyphen : name = "-"
    · rw [hyphen]
      decide
    · rwa [shown_of_ne hyphen]
  have mem : ∀ f ∈ (Session.scanNamed t input s name).1.targets.files, f ≠ Metrics.totalName := by
    intro f present
    rcases mem_files_scanNamed present with old | input
    · exact orderly.files f old
    · rw [input]
      decide
  have put := metrics_scanNamed t input s name
  cases made : (fate t input s.options name).block? with
  | none =>
    rw [made] at put
    exact ⟨⟨put ▸ orderly.metrics, mem⟩, congrArg Metrics.total put⟩
  | some b =>
    rw [made] at put
    have named : b.1 ≠ Metrics.totalName := shown_of_block? made ▸ shownFile
    refine ⟨⟨?_, mem⟩, ?_⟩
    · rw [put]
      exact orderly.metrics.putBlock (nodup_keys_block made) (nonneg_block made) _
    · rw [put]
      exact s.metrics.total_putBlock named _

variable (t input) in
theorem Orderly.foldl (orderly : s.Orderly) {names : List String} (files : ∀ n ∈ names, n ≠ Metrics.totalName)
    (log : Log) :
    let last := (names.foldl (fun (s, log) name =>
      let (s, more) := Session.scanNamed t input s name
      (s, log ++ more)) (s, log)).1
    last.Orderly ∧ last.metrics.total = s.metrics.total := by
  induction names generalizing s log with
  | nil => exact ⟨orderly, rfl⟩
  | cons name rest ih =>
    obtain ⟨next, same⟩ := orderly.scanNamed t input (files name mem_cons_self)
    obtain ⟨last, still⟩ := ih next (fun n later => files n (mem_cons_of_mem name later))
      (log ++ (Session.scanNamed t input s name).2)
    exact ⟨last, still.trans same⟩

variable (t input) in
theorem Orderly.runWith (orderly : s.Orderly) :
    (runWith t input s).1.Orderly ∧ ∀ label, (Session.runWith t input s).1.metrics.total.get label =
      s.metrics.total.get label + (Session.runWith t input s).1.metrics.fileSum label := by
  obtain ⟨last, same⟩ := orderly.foldl t input orderly.files []
  refine ⟨⟨last.metrics.aggregate, last.files⟩, fun label => ?_⟩
  unfold Session.runWith
  simp only [Metrics.get_total_of_sound last.metrics, same, Metrics.fileSum_aggregate]

theorem Orderly.discover (orderly : s.Orderly) {found : Session} {targets : List String} {recursive : Bool}
    {excluded : String} {log : Log} (discovered : s.discover t targets recursive excluded = .ok (found, log)) :
    found.Orderly ∧ found.metrics = s.metrics := by
  obtain ⟨same, -, named⟩ := discover_eq_ok discovered
  have metrics : found.metrics = s.metrics := by rw [same]
  refine ⟨⟨metrics ▸ orderly.metrics, ?_⟩, metrics⟩
  rintro f mem rfl
  exact absurd (named _ mem) (by unfold Targets.IsFileName; decide)

theorem Orderly.searched (orderly : s.Orderly) (t : FileTree) (targets : List String) (recursive : Bool)
    (excluded : String) : (s.searched t targets recursive excluded).Orderly ∧
      (s.searched t targets recursive excluded).metrics = s.metrics := by
  unfold Session.searched
  split
  · rename_i discovered
    exact orderly.discover discovered
  · split
    · exact ⟨⟨orderly.metrics, orderly.files⟩, rfl⟩
    · exact ⟨orderly, rfl⟩

/-- What a session can be told to do. The files may be others each time. -/
inductive Step where
  | discover (t : FileTree) (targets : List String) (recursive : Bool) (excluded : String)
  | run (t : FileTree) (input : Input)

def after (s : Session) : Step → Session
  | .discover t targets recursive excluded => s.searched t targets recursive excluded
  | .run t input => (s.runWith t input).1

def life (s : Session) (steps : List Step) : Session := steps.foldl after s

def runSums (label : String) : Session → List Step → List Int
  | _, [] => []
  | s, .discover t targets recursive excluded :: rest =>
    runSums label (s.after (.discover t targets recursive excluded)) rest
  | s, .run t input :: rest =>
    (s.after (.run t input)).metrics.fileSum label :: runSums label (s.after (.run t input)) rest

theorem Orderly.after (orderly : s.Orderly) (step : Step) : (s.after step).Orderly := by
  cases step with
  | run t input => exact (orderly.runWith t input).1
  | discover t targets recursive excluded => exact (orderly.searched t targets recursive excluded).1

theorem metrics_after_discover (orderly : s.Orderly) (t : FileTree) (targets : List String) (recursive : Bool)
    (excluded : String) : (s.after (.discover t targets recursive excluded)).metrics = s.metrics :=
  (orderly.searched t targets recursive excluded).2

theorem get_total_life (orderly : s.Orderly) (steps : List Step) (label : String) :
    (s.life steps).Orderly ∧ (∀ n ∈ runSums label s steps, 0 ≤ n) ∧
      (s.life steps).metrics.total.get label = s.metrics.total.get label + (runSums label s steps).sum := by
  induction steps generalizing s with
  | nil => exact ⟨orderly, by simp [runSums], by simp [life, runSums]⟩
  | cons step rest ih =>
    obtain ⟨last, nonneg, total⟩ := ih (orderly.after step)
    cases step with
    | discover t targets recursive excluded =>
      rw [metrics_after_discover orderly] at total
      exact ⟨last, nonneg, total⟩
    | run t input =>
      have added := (orderly.runWith t input).2 label
      have own := Metrics.fileSum_nonneg (orderly.runWith t input).1.metrics label
      refine ⟨last, forall_mem_cons.mpr ⟨own, nonneg⟩, ?_⟩
      change _ = s.metrics.total.get label + ((runWith t input s).1.metrics.fileSum label + _)
      rw [← add_assoc, ← added]
      exact total

theorem orderly_of_fresh (fresh : s.Fresh) (unsearched : s.targets.files = []) : s.Orderly := by
  refine ⟨?_, by simp [unsearched]⟩
  rw [fresh.metrics]
  exact Metrics.sound_empty

/-- The total holds what all runs have summed up. It is the sum over the files exactly if earlier runs summed up to
zero, and summing up again changes it unless the files have nothing under the label. -/
theorem totals_of_life {start : Session} (fresh : start.Fresh) (unsearched : start.targets.files = [])
    (steps : List Step) (t : FileTree) (input : Except OpenError Bytes) (label : String) :
    let last := start.life (steps ++ [.run t input])
    last.metrics.total.get label = (runSums label start steps).sum + last.metrics.fileSum label ∧
      (last.metrics.total.get label = last.metrics.fileSum label ↔ ∀ n ∈ runSums label start steps, n = 0) ∧
      (last.metrics.aggregate.total.get label = last.metrics.total.get label ↔ last.metrics.fileSum label = 0) := by
  intro last
  obtain ⟨orderly, nonneg, before⟩ := get_total_life (orderly_of_fresh fresh unsearched) steps label
  have ran : last = (runWith t input (start.life steps)).1 := by
    simp only [last, life, foldl_append, foldl_cons, foldl_nil, after]
  obtain ⟨still, added⟩ := orderly.runWith t input
  rw [← ran] at still
  have zero : start.metrics.total.get label = 0 := by
    rw [fresh.metrics]
    exact Metrics.get_empty (b := (Metrics.totalName, Metrics.empty.total)) mem_cons_self label
  have total : last.metrics.total.get label =
      (runSums label start steps).sum + last.metrics.fileSum label := by
    rw [ran, added label, before, zero, zero_add]
  refine ⟨total, ?_, ?_⟩
  · rw [total, add_eq_right]
    constructor
    · intro none n there
      exact all_zero_of_le_zero_le_of_sum_eq_zero nonneg none there
    · exact sum_eq_zero
  · rw [Metrics.get_total_of_sound still.metrics, add_eq_left]

def mixedSteps : List Step :=
  [.discover mixedTree ["-", "a.py", "b.py"] false "", .run mixedTree (.ok []), .run mixedTree (.ok [])]

theorem exists_life_mixed : ∃ start : Session, create .standard (.dict []) = .ok start ∧
    runSums "loc" start mixedSteps.dropLast = [4] ∧ (start.life mixedSteps).metrics.fileSum "loc" = 4 ∧
      (start.life mixedSteps).metrics.total.get "loc" = 8 := by
  obtain ⟨fresh, created, discovered⟩ := exists_found_mixed
  have ends : (create .standard (.dict [])).toOption.map (fun s =>
      let first := (runWith mixedTree (.ok []) { s with targets := mixedTargets }).1
      let second := (runWith mixedTree (.ok []) first).1
      (first.metrics.fileSum "loc", second.metrics.fileSum "loc", second.metrics.total.get "loc")) =
        some (4, 4, 8) := by decide +kernel
  simp only [created, Except.toOption, Option.map_some, Option.some.injEq, Prod.mk.injEq] at ends
  refine ⟨fresh, created, ?_, ?_, ?_⟩
  · simpa [mixedSteps, runSums, after, searched, discovered] using ends.1
  · simpa [mixedSteps, life, after, searched, discovered] using ends.2.1
  · simpa [mixedSteps, life, after, searched, discovered] using ends.2.2

theorem totals_of_mixedSteps : ∃ start : Session, start.Fresh ∧ start.targets.files = [] ∧
    (start.life mixedSteps).metrics.total.get "loc" = [4].sum + 4 ∧
    ¬ ∀ n ∈ runSums "loc" start mixedSteps.dropLast, n = 0 := by
  obtain ⟨start, created, before, last, -⟩ := exists_life_mixed
  have unsearched : start.targets.files = [] := by
    simp only [create, bind_eq_ok, pure_eq_ok] at created
    obtain ⟨-, -, _, -, rfl⟩ := created
    rfl
  have fresh := fresh_of_create created
  obtain ⟨total, -, -⟩ := totals_of_life fresh unsearched mixedSteps.dropLast mixedTree (.ok []) "loc"
  rw [show mixedSteps.dropLast ++ [.run mixedTree (.ok [])] = mixedSteps from rfl, before, last] at total
  exact ⟨start, fresh, unsearched, total, by simp [before]⟩

/-- After two runs over the same files the total counts each line of code twice. -/
theorem mixedSteps_counted_twice : ∃ start : Session, create .standard (.dict []) = .ok start ∧
    (start.life mixedSteps).metrics.total.get "loc" ≠ (start.life mixedSteps).metrics.fileSum "loc" := by
  obtain ⟨start, created, -, files, total⟩ := exists_life_mixed
  refine ⟨start, created, ?_⟩
  rw [files, total]
  decide

end Session

end SourceAudit
