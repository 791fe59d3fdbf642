import SourceAudit.Proofs.Run
import SourceAudit.Proofs.Looks

/-! A run that heeds comments has the results of one that ignores them, less those that it has counted as suppressed. -/

namespace SourceAudit

open List

namespace Finding

theorem verdict_nil (f : Finding) : f.verdict [] = .kept := by
  have nothing : Suppressions.covering [] f.line f.lines = none := by
    cases found : f.line <;> simp [Suppressions.covering, Suppressions.within, Suppressions.at_]
  rw [verdict, nothing]

theorem countP_verdict (ss : Suppressions) (fs : List Finding) :
    fs.length = (fs.filter fun f => f.verdict ss == .kept).length +
      fs.countP (fun f => f.verdict ss == .silenced) + fs.countP fun f => f.verdict ss == .skipped := by
  induction fs with
  | nil => rfl
  | cons f rest ih => cases judged : f.verdict ss <;> simp [judged, ih] <;> omega

end Finding

/-- One outcome is what suppression leaves of the other. -/
structure Outcome.Suppresses (heeding ignoring : Outcome) : Prop where
  issues : heeding.issues.Sublist ignoring.issues
  counted : (ignoring.issues.length : Int) = heeding.issues.length + heeding.nosec + heeding.skipped

theorem Document.suppresses_of_scan {rules : RuleSet} {d : Document} {heeding ignoring : Outcome}
    (heedful : d.scan { rules, heedComments := true } = (heeding, none))
    (careless : d.scan { rules, heedComments := false } = (ignoring, none)) : heeding.Suppresses ignoring := by
  obtain ⟨tree, parsed, recorded⟩ := scan_ok heedful
  obtain ⟨other, again, all⟩ := issues_of_scan careless
  obtain rfl : tree = other := Except.ok.inj (parsed.symm.trans again)
  have issues := congrArg Outcome.issues recorded
  have nosec := congrArg Outcome.nosec recorded
  have skipped := congrArg Outcome.skipped recorded
  simp only [Outcome.foldl_record, Outcome.quiet, nil_append, zero_add] at issues nosec skipped
  have everything : ignoring.issues = (d.findings rules tree).map Finding.issue := by
    rw [all, Outcome.issuesKept, filter_eq_self.mpr]
    simp [heeded, Finding.verdict_nil]
  have split := Finding.countP_verdict (d.heeded { rules, heedComments := true }) (d.findings rules tree)
  constructor
  case issues =>
      rw [issues, everything]
      exact filter_sublist.map Finding.issue
  case counted =>
      calc (ignoring.issues.length : Int) = (d.findings rules tree).length := by
            rw [everything, length_map]
        _ = ((d.findings rules tree).filter fun f =>
              f.verdict (d.heeded { rules, heedComments := true }) == .kept).length +
            heeding.nosec + heeding.skipped := by
            rw [nosec, skipped]
            exact_mod_cast split
        _ = heeding.issues.length + heeding.nosec + heeding.skipped := by
            rw [issues, Outcome.issuesKept, length_map]

namespace Session

namespace Fate

def suppressed (f : Fate) : Int := (f.block?.map fun b => b.2.get "nosec" + b.2.get "skipped_tests").getD 0

theorem suppressed_of_block {f : Fate} {d : Document} {out : Outcome} {skip : Option Skip}
    (made : f.block? = some (d.name, d.counts out skip)) : f.suppressed = out.nosec + out.skipped := by
  rw [suppressed, made, Option.map_some, Option.getD_some, Document.get_counts (by decide),
    Document.get_counts (by decide)]
  simp [Document.measured, Counts.get, Entries.lookup_cons]

/-- What becomes of a file when comments are heeded, and otherwise: the same less what is suppressed. -/
structure Alike (heeding ignoring : Fate) : Prop where
  issues : ∀ scan, (heeding.issues scan).Sublist (ignoring.issues scan)
  counted : ∀ scan, ((ignoring.issues scan).length : Int) = (heeding.issues scan).length + heeding.suppressed
  numbered : heeding.score?.toList.length = ignoring.score?.toList.length

end Fate

variable {t : FileTree} {input : Input} {rules : RuleSet} {name : String}

theorem alike_fate (placed : rules.Placed) (tokenized : ∀ d, document t input name = .ok d → d.Tokenizes) :
    (fate t input { rules, heedComments := true } name).Alike (fate t input { rules, heedComments := false } name) := by
  cases opened : document t input name with
  | error why =>
    simp only [fate, opened]
    exact ⟨fun _ => .slnil, fun _ => rfl, rfl⟩
  | ok d =>
    by_cases parses : ∃ tree, d.Parses tree
    · obtain ⟨tree, parses⟩ := parses
      obtain ⟨_, heedful⟩ := Document.scan_of_parses (o := { rules, heedComments := true }) rfl placed
        (tokenized d opened) parses
      obtain ⟨_, careless⟩ := Document.scan_of_parses (o := { rules, heedComments := false }) rfl placed
        (tokenized d opened) parses
      obtain ⟨issues, counted⟩ := Document.suppresses_of_scan heedful careless
      simp only [fate, opened, heedful, careless]
      constructor
      case issues => exact fun scan => issues.map _
      case counted =>
          intro scan
          rw [Fate.suppressed_of_block rfl, Fate.issues, Fate.issues, length_map, length_map, counted, add_assoc]
      case numbered => rfl
    · have fails : ∀ tree, ¬ d.Parses tree := fun tree h => parses ⟨tree, h⟩
      obtain ⟨_, heedful⟩ := Document.scan_of_not_parses (o := { rules, heedComments := true })
        (tokenized d opened) fails
      obtain ⟨_, careless⟩ := Document.scan_of_not_parses (o := { rules, heedComments := false })
        (tokenized d opened) fails
      simp only [fate, opened, heedful, careless]
      -- no rule has looked at the file yet, so nothing has been suppressed
      exact ⟨fun _ => .slnil, fun _ => by rw [Fate.suppressed_of_block rfl]; rfl, rfl⟩

theorem collect_alike {heeding ignoring : String → Fate} {names : List String}
    (alike : ∀ n ∈ names, (heeding n).Alike (ignoring n)) (scan : Nat) :
    (Fate.collect scan (names.map heeding)).Sublist (Fate.collect scan (names.map ignoring)) ∧
      ((Fate.collect scan (names.map ignoring)).length : Int) =
        (Fate.collect scan (names.map heeding)).length + (names.map fun n => (heeding n).suppressed).sum := by
  induction names generalizing scan with
  | nil => exact ⟨.slnil, rfl⟩
  | cons name rest ih =>
    obtain ⟨issues, counted, numbered⟩ := alike name mem_cons_self
    obtain ⟨sublist, _⟩ := ih (fun n later => alike n (mem_cons_of_mem name later))
      (scan + (heeding name).score?.toList.length)
    -- with the same number of scans so far, the next file is numbered alike in both rows
    simp only [map_cons, Fate.collect, sum_cons, length_append, ← numbered]
    refine ⟨(issues scan).append sublist, ?_⟩
    have first := counted scan
    push_cast
    omega

theorem sum_suppressed {o : ScanOptions} (names : List String) : (names.map fun n => (fate t input o n).suppressed).sum =
      ((names.filterMap fun n => (fate t input o n).block?).map fun b => b.2.get "nosec").sum +
        ((names.filterMap fun n => (fate t input o n).block?).map fun b => b.2.get "skipped_tests").sum := by
  induction names with
  | nil => rfl
  | cons name rest ih =>
    rw [map_cons, sum_cons, ih, Fate.suppressed]
    cases made : (fate t input o name).block? with
    | none => simp [made]
    | some b =>
      simp only [filterMap_cons, made, Option.map_some, Option.getD_some, map_cons, sum_cons]
      omega

/-- A session that looks, outside of debug mode, for nothing but what the catalogue and the data list. -/
structure Standard (s : Session) : Prop where
  calm : s.debug = false
  rules : ∃ p option, p.blacklist.truthy = false ∧ RuleSet.ofProfile p option = .ok s.rules

theorem standard_of_create {settings : Settings} {profile : Value} {p : Profile} {s : Session}
    (read : Profile.ofValue profile = .ok p) (plain : p.blacklist.truthy = false)
    (created : create settings profile = .ok s) : s.Standard := by
  simp only [create, read, Answers.bind_eq_ok, Answers.pure_eq_ok, Except.ok.injEq, exists_eq_left'] at created
  obtain ⟨_, chosen, rfl⟩ := created
  exact ⟨rfl, p, settings.option, plain, chosen⟩

/-- The results of one session are, in order, those of another, less those it counts as suppressed. -/
structure Conserves (heeding ignoring : Session) : Prop where
  results : heeding.results.Sublist ignoring.results
  counted : (ignoring.results.length : Int) = heeding.results.length + heeding.metrics.total.get "nosec" +
    heeding.metrics.total.get "skipped_tests"

/-- Suppressed issues are neither lost nor counted twice by a run that heeds comments. -/
theorem runWith_conserves {before found : Session} {targets : List String} {recursive : Bool}
    {excluded : String} {log : Log} (fresh : before.Fresh) (standard : before.Standard)
    (discovered : before.discover t targets recursive excluded = .ok (found, log))
    (now : FileTree) (input : Except OpenError Bytes)
    (tokenized : ∀ name ∈ found.targets.files, ∀ d, document now input name = .ok d → d.Tokenizes) :
    Conserves (runWith now input { found with heedComments := true }).1
      (runWith now input { found with heedComments := false }).1 := by
  obtain ⟨unused, separate⟩ := separate_of_discover fresh discovered
  obtain ⟨same, -, -⟩ := discover_eq_ok discovered
  obtain ⟨calm, p, _, plain, chosen⟩ := standard
  have calm : found.debug = false := by rw [same, calm]
  have placed : found.rules.Placed := RuleSet.placed_ofProfile (by rw [same]; exact chosen) plain
  have options (heed : Bool) : ({ found with heedComments := heed } : Session).options =
      { rules := found.rules, heedComments := heed } := by rw [Session.options, calm]
  have ran (heed : Bool) : Ran now input { found with heedComments := heed }
      (runWith now input { found with heedComments := heed }).1 :=
    ran_runWith now input ⟨unused.skipped, unused.results, unused.scores, unused.metrics⟩
      ⟨separate.distinct, separate.noBlock⟩
  have heedful := (ran true).results
  have careless := (ran false).results
  obtain ⟨m, metrics, blocks⟩ := (ran true).metrics
  rw [options] at heedful careless blocks
  obtain ⟨sublist, lengths⟩ := collect_alike (fun n listed => alike_fate placed (tokenized n listed)) 0
  rw [sum_suppressed, ← get_total_of_blocks blocks, ← get_total_of_blocks blocks] at lengths
  constructor
  case results =>
      rw [heedful, careless]
      exact sublist
  case counted =>
      calc ((runWith now input { found with heedComments := false }).1.results.length : Int)
          = _ := by rw [careless]
        _ = _ + (m.aggregate.total.get "nosec" + m.aggregate.total.get "skipped_tests") := lengths
        _ = _ := by rw [heedful, metrics, add_assoc]

theorem runWith_mixedTree_conserves : ∃ fresh found : Session, fresh.Fresh ∧ fresh.Standard ∧
    fresh.discover mixedTree ["-", "a.py", "b.py"] false "" = .ok (found, []) ∧
    (runWith mixedTree (.ok []) { found with heedComments := false }).1.results.length = 3 ∧
    Conserves (runWith mixedTree (.ok []) { found with heedComments := true }).1
      (runWith mixedTree (.ok []) { found with heedComments := false }).1 := by
  obtain ⟨fresh, created, discovered⟩ := exists_found_mixed
  have unused := fresh_of_create created
  have read : Profile.ofValue (.dict []) = .ok {} := rfl
  have standard := standard_of_create read rfl created
  have ends : (create .standard (.dict [])).toOption.map (fun s => (runWith mixedTree (.ok [])
      { s with targets := mixedTargets, heedComments := false }).1.results.length) = some 3 := by decide +kernel
  have tokenized : mixedTargets.files.all (fun name => (document mixedTree (.ok []) name).toOption.all
      fun d => decide d.Tokenizes) = true := by decide +kernel
  simp only [created, Except.toOption, Option.map_some, Option.some.injEq] at ends
  refine ⟨fresh, _, unused, standard, discovered, ends, runWith_conserves unused standard discovered _ _ ?_⟩
  intro name listed d opened
  have told := all_eq_true.mp tokenized name listed
  simpa [opened, Except.toOption] using told

end Session

end SourceAudit
