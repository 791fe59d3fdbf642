import SourceAudit.Proofs.Fate
import SourceAudit.Proofs.Targets

/-! A run over distinct files, said without its loop: it leaves behind, in their order, what becomes of each of them. -/

namespace SourceAudit.Session

open Answers List Targets Fate

variable {found : Session} {targets : List String} {recursive : Bool} {excluded : String} {log : Log}

/-- Where a run stands that has done with some files. `before` is the session at its start. -/
structure Progress (t : FileTree) (input : Input) (before : Session)
    (done rest : List String) (s : Session) : Prop where
  options : s.options = before.options
  files : s.targets.files = done.filterMap (fun n => (fate t input before.options n).file?) ++ rest
  skipped : s.skipped = before.skipped ++ done.filterMap fun n => (fate t input before.options n).skipped? n
  scores : s.scores = before.scores ++ done.filterMap fun n => (fate t input before.options n).score?
  results : s.results = before.results ++ Fate.collect before.scores.length (done.map (fate t input before.options))
  blocks : s.metrics.blocks = before.metrics.blocks ++ done.filterMap fun n => (fate t input before.options n).block?

/-- No two files are scanned under the same name, and none has a block of numbers yet. -/
structure Separate (names : List String) (before : Session) : Prop where
  distinct : (names.map shown).Nodup
  noBlock : ∀ n ∈ names, shown n ∉ before.metrics.blocks.map Prod.fst

variable {t : FileTree} {input : Input} {before s : Session} {done rest : List String}
  {name : String}

theorem Separate.not_done (separate : Separate (done ++ name :: rest) before) : shown name ∉ done.map shown := by
  have distinct := separate.distinct
  rw [map_append, map_cons, nodup_append] at distinct
  exact fun there => distinct.2.2 _ there _ mem_cons_self rfl

theorem Separate.not_later (separate : Separate (done ++ name :: rest) before) : shown name ∉ rest.map shown := by
  have distinct := separate.distinct
  rw [map_append, map_cons, nodup_append] at distinct
  exact (nodup_cons.mp distinct.2.1).1

theorem hyphen_not_mem_kept {o : ScanOptions} : "-" ∉ done.filterMap fun n => (fate t input o n).file? := by
  intro kept
  obtain ⟨n, -, hyphen⟩ := mem_map.mp (mem_shown_of_file? kept)
  exact shown_ne_hyphen n hyphen

theorem nameInput_opened {d : Document} (separate : Separate (done ++ name :: rest) before)
    (progress : Progress t input before done (name :: rest) s) (opened : document t input name = .ok d) :
    (if name == "-" then s.nameInput else s) =
      { s with targets := { s.targets with
        files := done.filterMap (fun n => (fate t input before.options n).file?) ++ d.name :: rest } } := by
  rw [name_of_document opened]
  by_cases hyphen : name = "-"
  · subst hyphen
    have later : "-" ∉ rest := fun present => separate.not_later (mem_map_of_mem present)
    have same (fs : List String) (absent : "-" ∉ fs) :
        fs.map (fun f => if f == "-" then Issue.inputName else f) = fs := by
      conv => rhs; rw [← map_id fs]
      apply map_congr_left
      intro f present
      have other : f ≠ "-" := fun is => absent (is ▸ present)
      simp [other]
    simp only [beq_self_eq_true, if_true, nameInput, progress.files, map_append, map_cons,
      same _ hyphen_not_mem_kept, same _ later, shown]
  · have plain : (name == "-") = false := by simpa using hyphen
    simp only [plain, Bool.false_eq_true, if_false, shown]
    rw [← progress.files]

theorem Progress.extend {next : Session} {f : Fate} (progress : Progress t input before done (name :: rest) s)
    (fated : fate t input before.options name = f) (options : next.options = s.options)
    (files : next.targets.files =
      done.filterMap (fun n => (fate t input before.options n).file?) ++ (f.file?.toList ++ rest))
    (skipped : next.skipped = s.skipped ++ (f.skipped? name).toList)
    (scores : next.scores = s.scores ++ f.score?.toList)
    (results : next.results = s.results ++ f.issues s.scores.length)
    (blocks : next.metrics.blocks = s.metrics.blocks ++ f.block?.toList) :
    Progress t input before (done ++ [name]) rest next := by
  have last {β : Type} (g : Fate → Option β) :
      [name].filterMap (fun n => g (fate t input before.options n)) = (g f).toList := by
    rw [filterMap_cons, filterMap_nil, fated]
    cases g f <;> rfl
  constructor
  case options => rw [options, progress.options]
  case files => rw [files, filterMap_append, last file?, append_assoc]
  case skipped =>
      rw [skipped, progress.skipped, filterMap_append, append_assoc, filterMap_cons, filterMap_nil, fated]
      cases f.skipped? name <;> rfl
  case scores => rw [scores, progress.scores, filterMap_append, last score?, append_assoc]
  case results =>
      rw [results, progress.results, progress.scores, map_append, map_singleton, fated,
        collect_concat, filterMap_map, length_append, append_assoc]
      rfl
  case blocks => rw [blocks, progress.blocks, filterMap_append, last block?, append_assoc]

section

variable (separate : Separate (done ++ name :: rest) before)
  (progress : Progress t input before done (name :: rest) s)

include separate progress

theorem not_mem_blocks : shown name ∉ s.metrics.blocks.map Prod.fst := by
  rw [progress.blocks, map_append, mem_append]
  rintro (old | made)
  · exact separate.noBlock name (by simp) old
  · exact separate.not_done (mem_shown_of_block? made)

theorem progress_step : Progress t input before (done ++ [name]) rest (scanNamed t input s name).1 := by
  have absent : shown name ∉ done.filterMap fun n => (fate t input before.options n).file? :=
    fun kept => separate.not_done (mem_shown_of_file? kept)
  cases opened : document t input name with
  | error why =>
    have fated : fate t input before.options name = .unread why := by simp [fate, opened]
    -- a hyphen that cannot be read leaves the list as the hyphen that it still is
    have unlisted : name ∉ done.filterMap fun n => (fate t input before.options n).file? := by
      by_cases hyphen : name = "-"
      · subst hyphen
        exact hyphen_not_mem_kept
      · rwa [shown_of_ne hyphen] at absent
    simp only [scanNamed, opened, dropFile]
    refine progress.extend fated rfl ?_ rfl ?_ ?_ ?_
    · simp only [progress.files, erase_append_right _ unlisted, erase_cons_head]
      rfl
    all_goals simp [score?, issues, block?]
  | ok d =>
    have named := name_of_document opened
    have newBlock := not_mem_blocks separate progress
    rw [← named] at absent newBlock
    simp only [scanNamed, opened, nameInput_opened separate progress opened, scanDocument]
    rw [show ({ rules := s.rules, debug := s.debug, heedComments := s.heedComments } : ScanOptions) =
      before.options from progress.options]
    rcases scanned : d.scan before.options with ⟨o, _ | why⟩
    · have fated : fate t input before.options name = .scanned d o := by simp [fate, opened, scanned]
      simp only [measure_eq, setIssues_eq]
      refine progress.extend fated rfl rfl ?_ rfl rfl (Metrics.putBlock_new newBlock _)
      simp [skipped?]
    · have fated : fate t input before.options name = .dropped d o why := by simp [fate, opened, scanned]
      simp only [measure_eq, dropFile, skipNote_reason]
      refine progress.extend fated rfl ?_ rfl ?_ ?_ (Metrics.putBlock_new newBlock _)
      · simp only [erase_append_right _ absent, erase_cons_head]
        rfl
      all_goals simp [score?, issues]

end

theorem progress_foldl (separate : Separate (done ++ rest) before)
    (progress : Progress t input before done rest s) (log : Log) :
    Progress t input before (done ++ rest) []
      (rest.foldl (fun (s, log) name =>
        let (s, more) := scanNamed t input s name
        (s, log ++ more)) (s, log)).1 := by
  induction rest generalizing done s log with
  | nil => simpa using progress
  | cons name rest ih =>
    have stepped := progress_step separate progress
    simpa using ih (by simpa using separate) stepped (log ++ (scanNamed t input s name).2)

variable (t input) in
theorem progress_runWith (separate : Separate before.targets.files before) :
    ∃ last, Progress t input before before.targets.files [] last ∧
      (runWith t input before).1 = { last with metrics := last.metrics.aggregate } := by
  have start : Progress t input before [] before.targets.files before :=
    ⟨rfl, by simp, by simp, by simp, by simp [Fate.collect], by simp⟩
  exact ⟨_, progress_foldl (by simpa using separate) start [], rfl⟩

/-- Nothing has been scanned yet. -/
structure Fresh (s : Session) : Prop where
  skipped : s.skipped = []
  results : s.results = []
  scores : s.scores = []
  metrics : s.metrics = .empty

/-- What a run from a fresh start leaves behind. -/
structure Ran (t : FileTree) (input : Input) (before after : Session) : Prop where
  files : after.targets.files = before.targets.files.filterMap fun n => (fate t input before.options n).file?
  skipped : after.skipped = before.targets.files.filterMap fun n => (fate t input before.options n).skipped? n
  scores : after.scores = before.targets.files.filterMap fun n => (fate t input before.options n).score?
  results : after.results = Fate.collect 0 (before.targets.files.map (fate t input before.options))
  metrics : ∃ m : Metrics, after.metrics = m.aggregate ∧ m.blocks =
    Metrics.empty.blocks ++ before.targets.files.filterMap fun n => (fate t input before.options n).block?

variable (t input) in
theorem ran_runWith (fresh : before.Fresh) (separate : Separate before.targets.files before) :
    Ran t input before (runWith t input before).1 := by
  obtain ⟨last, progress, ran⟩ := progress_runWith t input separate
  rw [ran]
  constructor
  case files => simpa using progress.files
  case skipped => simpa [fresh.skipped] using progress.skipped
  case scores => simpa [fresh.scores] using progress.scores
  case results => simpa [fresh.results, fresh.scores] using progress.results
  case metrics => exact ⟨last.metrics, rfl, by rw [progress.blocks, fresh.metrics]⟩

theorem fresh_of_create {settings : Settings} {profile : Value} (created : create settings profile = .ok s) :
    s.Fresh := by
  simp only [create, bind_eq_ok, pure_eq_ok] at created
  obtain ⟨-, -, _, -, rfl⟩ := created
  exact ⟨rfl, rfl, rfl, rfl⟩

theorem discover_eq_ok (discovered : before.discover t targets recursive excluded = .ok (found, log)) :
    found = { before with settings := found.settings, targets := found.targets } ∧
      found.targets.files.Nodup ∧ ∀ f ∈ found.targets.files, Targets.IsFileName f := by
  simp only [discover, bind_eq_ok, pure_eq_ok, Prod.mk.injEq] at discovered
  obtain ⟨⟨_, settings⟩, -, -, -, _, -, ⟨files, log⟩, searched, rfl, -⟩ := discovered
  exact ⟨rfl, files_discover searched⟩

theorem shown_injOn_fileNames {a b : String} (left : Targets.IsFileName a) (right : Targets.IsFileName b)
    (same : shown a = shown b) : a = b := by
  have noSlash : '/' ∉ Issue.inputName.toList := by decide
  by_cases first : a = "-"
  · by_cases second : b = "-"
    · rw [first, second]
    · rw [first, shown_hyphen, shown_of_ne second] at same
      exact absurd (right.resolve_left second) (same ▸ noSlash)
  · by_cases second : b = "-"
    · rw [second, shown_hyphen, shown_of_ne first] at same
      exact absurd (left.resolve_left first) (same ▸ noSlash)
    · rwa [shown_of_ne first, shown_of_ne second] at same

theorem shown_ne_totalName (file : Targets.IsFileName name) : shown name ≠ Metrics.totalName := by
  intro same
  by_cases hyphen : name = "-"
  · rw [hyphen] at same
    exact absurd same (by decide)
  · rw [shown_of_ne hyphen] at same
    have slash := file.resolve_left hyphen
    rw [same] at slash
    exact absurd slash (by decide)

theorem separate_of_discover (fresh : before.Fresh)
    (discovered : before.discover t targets recursive excluded = .ok (found, log)) :
    found.Fresh ∧ Separate found.targets.files found := by
  obtain ⟨same, distinct, named⟩ := discover_eq_ok discovered
  have still : found.Fresh := by
    rw [same]
    exact ⟨fresh.skipped, fresh.results, fresh.scores, fresh.metrics⟩
  refine ⟨still, ?_, ?_⟩
  · refine (nodup_map_iff_inj_on distinct).mpr ?_
    intro a first b second
    exact shown_injOn_fileNames (named a first) (named b second)
  · intro n mem
    simpa [still.metrics, Metrics.empty] using shown_ne_totalName (named n mem)

def mixedTree : FileTree :=
  { files := [(["a.py"], Utf8.encode "import pickle\nassert pickle # nosec\nassert 1 # nosec: B101\n".toList),
      (["b.py"], Utf8.encode "def\n".toList)]
    folders := [[]] }

def mixedTargets : Targets := { files := ["-", "./a.py", "./b.py"] }

theorem discover_mixedTargets : Targets.discover mixedTree [.str "*.py", .str "*.pyw"] [] false ["-", "a.py", "b.py"] =
      .ok (mixedTargets, []) := by
  have parts : ["-", "a.py", "b.py"].mapM (Targets.ofTarget mixedTree [.str "*.py", .str "*.pyw"] [] false) =
      .ok (mixedTargets.files.map fun f => ({ files := [f] }, [])) := by decide +kernel
  have sorted : FileTree.sorted mixedTargets.files = mixedTargets.files := mergeSort_of_pairwise (by decide +kernel)
  have distinct : Targets.distinct mixedTargets.files = mixedTargets.files := by
    rw [Targets.distinct, sorted]
    decide +kernel
  have noneLeftOut : Targets.distinct [] = [] := by simp [Targets.distinct, FileTree.sorted]
  rw [Targets.discover, parts]
  change Except.ok (Targets.mk (Targets.distinct mixedTargets.files) (Targets.distinct []), []) = _
  rw [distinct, noneLeftOut]
  rfl

theorem exists_found_mixed : ∃ fresh, create .standard (.dict []) = .ok fresh ∧
    fresh.discover mixedTree ["-", "a.py", "b.py"] false "" = .ok ({ fresh with targets := mixedTargets }, []) := by
  have works : (create .standard (.dict [])).toOption.isSome := by decide +kernel
  have exclude : exclusions mixedTree .standard "" = .ok ([], .standard) := by cbv
  have patterns : Settings.standard.option "include" = .ok (.list [.str "*.py", .str "*.pyw"]) := by cbv
  cases created : create .standard (.dict []) with
  | error fault => simp [created, Except.toOption] at works
  | ok fresh =>
    refine ⟨fresh, rfl, ?_⟩
    simp only [create, bind_eq_ok, pure_eq_ok] at created
    obtain ⟨-, -, rules, -, rfl⟩ := created
    rw [discover, exclude, patterns]
    change (Targets.discover mixedTree [.str "*.py", .str "*.pyw"] [] false ["-", "a.py", "b.py"] >>= fun found =>
      pure (({ settings := .standard, rules, targets := found.1 } : Session), found.2)) = _
    rw [discover_mixedTargets]
    rfl

end SourceAudit.Session

namespace SourceAudit

open Answers List Metrics

namespace Metrics

def issueLabels : List String := Rank.all.map severityLabel ++ Rank.all.map confidenceLabel

section

variable {s : Score} {scale : Scale} {r : Rank} {counts after : Counts}

theorem countRank_of_mem (present : scale.label r ∈ counts.map Prod.fst) : countRank s scale counts r = .ok counts := by
  rw [countRank, if_pos ((Entries.any_iff_mem_keys _ _).mpr present)]
  rfl

theorem countRank_of_not_mem (absent : scale.label r ∉ counts.map Prod.fst) :
    countRank s scale counts r = do return counts ++ [(scale.label r, ← issueCount (scale.weights s) r)] := by
  have added (n : Int) : (counts.set (scale.label r) 0).add (scale.label r) n = counts ++ [(scale.label r, n)] := by
    have there : scale.label r ∈ (counts ++ [(scale.label r, (0 : Int))]).map Prod.fst := by simp
    rw [Counts.set, Entries.put_of_not_mem absent, Counts.add, Entries.put,
      if_pos ((Entries.any_iff_mem_keys _ _).mpr there), Entries.update_concat absent, Int.zero_add]
  rw [countRank, if_neg (mt (Entries.any_iff_mem_keys _ _).mp absent)]
  simp only [added]

def ranksCounted (s : Score) (scale : Scale) : List Rank → Answer Counts :=
  List.mapM fun r => do return (scale.label r, ← issueCount (scale.weights s) r)

theorem keys_ranksCounted {ranks : List Rank} (done : ranksCounted s scale ranks = .ok after) :
    after.map Prod.fst = ranks.map scale.label := by
  refine map_eq_of_mapM done fun r e counted => ?_
  simp only [bind_eq_ok, pure_eq_ok] at counted
  obtain ⟨n, -, rfl⟩ := counted
  rfl

/-- As long as the labels are new, each rank puts one number behind the others. -/
theorem foldlM_countRank {ranks : List Rank} (distinct : (ranks.map scale.label).Nodup)
    (fresh : ∀ r ∈ ranks, scale.label r ∉ counts.map Prod.fst) :
    ranks.foldlM (countRank s scale) counts = do return counts ++ (← ranksCounted s scale ranks) := by
  induction ranks generalizing counts with
  | nil => simp [ranksCounted]
  | cons r rest ih =>
    obtain ⟨single, distinct⟩ := nodup_cons.mp distinct
    obtain ⟨new, fresh⟩ := forall_mem_cons.mp fresh
    have next (n : Int) : ∀ q ∈ rest, scale.label q ∉ (counts ++ [(scale.label r, n)]).map Prod.fst := by
      intro q later there
      rw [map_append, mem_append, map_singleton, mem_singleton] at there
      rcases there with old | same
      · exact fresh q later old
      · exact single (mem_map.mpr ⟨q, later, same⟩)
    rw [foldlM_cons, countRank_of_not_mem new, ranksCounted, mapM_cons]
    simp only [bind_assoc, pure_bind, ih distinct (next _), ranksCounted, append_assoc, cons_append, nil_append]

/-- Where all labels have a number, further scores change nothing. -/
theorem foldlM_countScore (counted : ∀ (scale : Scale) (r : Rank), scale.label r ∈ counts.map Prod.fst)
    (later : List Score) : later.foldlM countScore counts = .ok counts := by
  refine foldlM_of_fixed fun s _ => ?_
  refine foldlM_of_fixed fun scale _ => ?_
  exact foldlM_of_fixed fun r _ => countRank_of_mem (counted scale r)

theorem countScore_nil (s : Score) : countScore [] s = do
    return (← ranksCounted s .severity Rank.all) ++ (← ranksCounted s .confidence Rank.all) := by
  rw [countScore, Scale.all, foldlM_cons, foldlM_countRank (by decide) (by simp)]
  cases counted : ranksCounted s .severity Rank.all with
  | error fault => rfl
  | ok severities =>
    have apart : ∀ r ∈ Rank.all, Scale.confidence.label r ∉ severities.map Prod.fst := by
      rw [keys_ranksCounted counted]
      decide
    change [Scale.confidence].foldlM (fun counts scale => Rank.all.foldlM (countRank s scale) counts) severities = _
    rw [foldlM_cons, foldlM_countRank (by decide) apart]
    simp [foldlM_nil]
    rfl

theorem keys_countScore (done : countScore [] s = .ok counts) : counts.map Prod.fst = issueLabels := by
  simp only [countScore_nil, bind_eq_ok, pure_eq_ok] at done
  obtain ⟨_, severe, _, sure, rfl⟩ := done
  rw [map_append, keys_ranksCounted severe, keys_ranksCounted sure]
  rfl

/-- Only the first of several scores is counted: it gives each label a number. -/
theorem issueCounts_cons (s : Score) (later : List Score) : issueCounts (s :: later) = countScore [] s := by
  rw [issueCounts, foldlM_cons]
  cases counted : countScore [] s with
  | error fault => rfl
  | ok counts =>
    refine foldlM_countScore (fun scale r => ?_) later
    rw [keys_countScore counted]
    cases scale <;> cases r <;> decide

theorem keys_issueCounts {later : List Score} (done : issueCounts (s :: later) = .ok counts) :
    counts.map Prod.fst = issueLabels :=
  keys_countScore (issueCounts_cons s later ▸ done)

end

end Metrics

namespace Document

variable {d : Document} {out : Outcome}

theorem nodup_keys_counts (skip : Option Skip) : ((d.counts out skip).map Prod.fst).Nodup := by
  have plain : ((d.measured out).map Prod.fst).Nodup := by simp [measured]
  unfold counts
  split
  · split
    · exact Counts.nodup_keys_foldl_set _ plain
    · exact plain
  · exact plain

theorem get_counts {label : String} (other : label ∉ issueLabels) (skip : Option Skip) :
    (d.counts out skip).get label = (d.measured out).get label := by
  unfold counts
  split
  · split
    · rename_i issues counted
      have keys := keys_issueCounts counted
      have distinct : (issues.map Prod.fst).Nodup := by
        rw [keys]
        decide
      have absent : issues.lookup label = none := by rwa [Entries.lookup_eq_none_iff, keys]
      rw [Counts.get, Counts.lookup_foldl_set _ _ distinct, absent, Option.none_or, Counts.get]
    · rfl
  · rfl

end Document

namespace Session

variable {t : FileTree} {input : Input} {o : ScanOptions} {name : String}

theorem keys_blocks_sublist (names : List String) :
    ((names.filterMap fun n => (fate t input o n).block?).map Prod.fst).Sublist (names.map shown) := by
  induction names with
  | nil => exact .slnil
  | cons name rest ih =>
    cases made : (fate t input o name).block? with
    | none => simpa [made] using ih.cons (shown name)
    | some b => simpa [made, shown_of_block? made] using ih.cons_cons (shown name)

theorem nodup_keys_block {b : String × Counts} (made : (fate t input o name).block? = some b) :
    (b.2.map Prod.fst).Nodup := by
  cases fated : fate t input o name with
  | unread why => simp [fated, Fate.block?] at made
  | dropped d out why =>
    obtain rfl : (d.name, d.counts out (some why)) = b := by simpa [fated, Fate.block?] using made
    exact Document.nodup_keys_counts (some why)
  | scanned d out =>
    obtain rfl : (d.name, d.counts out none) = b := by simpa [fated, Fate.block?] using made
    exact Document.nodup_keys_counts none

section Blocks

variable {names : List String} {before : Session} {m : Metrics}

theorem get_total_of_blocks (blocks : m.blocks = empty.blocks ++ names.filterMap fun n => (fate t input o n).block?)
    (label : String) : m.aggregate.total.get label =
      ((names.filterMap fun n => (fate t input o n).block?).map fun b => b.2.get label).sum := by
  have distinct : ∀ b ∈ m.blocks, (b.2.map Prod.fst).Nodup := by
    intro b present
    rw [blocks] at present
    rcases mem_append.mp present with old | made
    · rw [empty, mem_singleton] at old
      subst old
      decide
    · obtain ⟨n, -, made⟩ := mem_filterMap.mp made
      exact nodup_keys_block made
  have nothing : (empty.blocks.map fun b => b.2.get label).sum = 0 := by
    apply sum_eq_zero
    intro n present
    obtain ⟨b, old, rfl⟩ := mem_map.mp present
    exact get_empty old label
  rw [get_total_aggregate m distinct, blocks, map_append, sum_append, nothing, zero_add]

section

variable (fresh : before.Fresh) (separate : Separate names before)

include fresh separate

theorem name_of_mem_blocks {b : String × Counts}
    (made : b ∈ names.filterMap fun n => (fate t input o n).block?) : b.1 ≠ totalName := by
  intro total
  obtain ⟨n, mem, made⟩ := mem_filterMap.mp made
  refine separate.noBlock n mem ?_
  rw [← shown_of_block? made, total, fresh.metrics]
  decide

section

variable (blocks : m.blocks = empty.blocks ++ names.filterMap fun n => (fate t input o n).block?)

include blocks

theorem fileBlocks_of_blocks : m.fileBlocks = names.filterMap fun n => (fate t input o n).block? := by
  have total : empty.blocks.filter (fun b => b.1 != totalName) = [] := rfl
  rw [fileBlocks, blocks, filter_append, total, nil_append, filter_eq_self]
  intro b made
  simpa using name_of_mem_blocks fresh separate made

theorem lookup_of_blocks {b : String × Counts} (made : b ∈ names.filterMap fun n => (fate t input o n).block?) :
    m.aggregate.blocks.lookup b.1 = some b.2 := by
  have other := name_of_mem_blocks fresh separate made
  have absent : empty.blocks.lookup b.1 = none := by
    simpa [empty] using other
  have distinct : ((names.filterMap fun n => (fate t input o n).block?).map Prod.fst).Nodup :=
    (keys_blocks_sublist names).nodup separate.distinct
  rw [lookup_aggregate m other, blocks, lookup_append, absent, Option.none_or]
  exact Entries.lookup_of_mem distinct made

end

end

end Blocks

end Session

end SourceAudit
