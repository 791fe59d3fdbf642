import SourceAudit.Proofs.Entries
import SourceAudit.Proofs.Inspection
import SourceAudit.Scan.Session

/-! What becomes of one file of a run: it cannot be read, is scanned to its end, or is dropped half way. -/

namespace SourceAudit

open List

namespace Counts

theorem get_add (cs : Counts) (label asked : String) (n : Int) :
    (cs.add label n).get asked = cs.get asked + if asked = label then n else 0 := by
  unfold get add
  rw [Entries.lookup_put]
  by_cases same : asked = label
  · subst same
    cases found : cs.lookup asked <;> simp
  · simp [same]

theorem lookup_set (cs : Counts) (label asked : String) (n : Int) :
    (cs.set label n).lookup asked = if asked = label then some n else cs.lookup asked := by
  unfold set
  rw [Entries.lookup_put]
  cases cs.lookup label <;> rfl

theorem get_sum (a b : Counts) (distinct : (b.map Prod.fst).Nodup) (asked : String) :
    (a.sum b).get asked = a.get asked + b.get asked := by
  unfold sum
  induction b generalizing a with
  | nil => simp [get]
  | cons e rest ih =>
    obtain ⟨label, n⟩ := e
    obtain ⟨fresh, distinct⟩ := nodup_cons.mp distinct
    rw [foldl_cons, ih _ distinct, get_add]
    by_cases same : asked = label
    · subst same
      have none_left : rest.lookup asked = none := (Entries.lookup_eq_none_iff asked rest).mpr fresh
      simp [get, none_left]
    · simp [get, Entries.lookup_cons, same]

theorem get_foldl_sum (blocks : List (String × Counts))
    (distinct : ∀ b ∈ blocks, (b.2.map Prod.fst).Nodup) (start : Counts) (asked : String) :
    (blocks.foldl (fun acc b => acc.sum b.2) start).get asked =
      start.get asked + (blocks.map fun b => b.2.get asked).sum := by
  induction blocks generalizing start with
  | nil => simp
  | cons b rest ih =>
    rw [foldl_cons, ih fun c later => distinct c (mem_cons_of_mem b later),
      get_sum start b.2 (distinct b mem_cons_self), map_cons, sum_cons, add_assoc]

theorem lookup_foldl_set (given cs : Counts) (distinct : (given.map Prod.fst).Nodup) (asked : String) :
    (given.foldl (fun acc e => acc.set e.1 e.2) cs).lookup asked = (given.lookup asked).or (cs.lookup asked) := by
  induction given generalizing cs with
  | nil => simp
  | cons e rest ih =>
    obtain ⟨label, n⟩ := e
    obtain ⟨fresh, distinct⟩ := nodup_cons.mp distinct
    rw [foldl_cons, ih _ distinct, lookup_set, Entries.lookup_cons]
    by_cases same : asked = label
    · subst same
      have none_left : rest.lookup asked = none := (Entries.lookup_eq_none_iff asked rest).mpr fresh
      simp [none_left]
    · simp [same]

theorem nodup_keys_set {cs : Counts} (distinct : (cs.map Prod.fst).Nodup) (label : String) (n : Int) :
    ((cs.set label n).map Prod.fst).Nodup := Entries.nodup_keys_put distinct label _ n

theorem nodup_keys_foldl_set (given : Counts) {cs : Counts} (distinct : (cs.map Prod.fst).Nodup) :
    ((given.foldl (fun acc e => acc.set e.1 e.2) cs).map Prod.fst).Nodup := by
  induction given generalizing cs with
  | nil => exact distinct
  | cons e rest ih => exact ih (nodup_keys_set distinct e.1 e.2)

end Counts

namespace Metrics

theorem putBlock_new {blocks : List (String × Counts)} {name : String} (absent : name ∉ blocks.map Prod.fst)
    (cs : Counts) : putBlock name cs blocks = blocks ++ [(name, cs)] := by
  rw [putBlock, Entries.put_of_not_mem absent]

theorem modify_putBlock (f : Counts → Counts) (name : String) (cs : Counts) (blocks : List (String × Counts)) :
    modify f { blocks := putBlock name cs blocks, current := .block name } =
      .ok { blocks := putBlock name (f cs) blocks, current := .block name } := by
  simp only [modify, putBlock, Entries.update_put]
  rfl

theorem get_total_aggregate (m : Metrics) (distinct : ∀ b ∈ m.blocks, (b.2.map Prod.fst).Nodup) (label : String) :
    m.aggregate.total.get label = (m.blocks.map fun b => b.2.get label).sum := by
  have summed := Counts.get_foldl_sum m.blocks distinct [] label
  rw [total, aggregate, putBlock, Entries.lookup_put, if_pos rfl]
  cases m.blocks.lookup totalName <;> simpa [Counts.get] using summed

theorem lookup_aggregate (m : Metrics) {name : String} (other : name ≠ totalName) :
    m.aggregate.blocks.lookup name = m.blocks.lookup name := by
  rw [aggregate, putBlock, Entries.lookup_put, if_neg other]

def fileBlocks (m : Metrics) : List (String × Counts) := m.blocks.filter fun b => b.1 != totalName

theorem fileBlocks_aggregate (m : Metrics) : m.aggregate.fileBlocks = m.fileBlocks :=
  Entries.filter_put totalName _ _ m.blocks

theorem get_empty {b : String × Counts} (present : b ∈ empty.blocks) (label : String) : b.2.get label = 0 := by
  have zeros : ∀ e ∈ b.2, e.2 = 0 := by
    rw [empty, mem_singleton] at present
    subst present
    decide
  cases found : b.2.lookup label with
  | none => simp [Counts.get, found]
  | some n =>
    obtain ⟨_, _, split, -⟩ := lookup_eq_some_iff.mp found
    have zero : n = 0 := zeros (label, n) (by simp [split])
    simp [Counts.get, found, zero]

end Metrics

variable {o : ScanOptions} {listed : String}

namespace Document

def measured (d : Document) (o : Outcome) : Counts :=
  [("loc", ((Source.byteLines d.bytes).countP Metrics.isCodeLine : Nat)), ("nosec", o.nosec),
    ("skipped_tests", o.skipped)]

def counts (d : Document) (o : Outcome) : Option Skip → Counts
  | none =>
    match Metrics.issueCounts [o.score] with
    | .ok issues => issues.foldl (fun acc e => acc.set e.1 e.2) (d.measured o)
    | .error _ => d.measured o
  | some _ => d.measured o

end Document

namespace Session

def options (s : Session) : ScanOptions := { rules := s.rules, debug := s.debug, heedComments := s.heedComments }

/-- What becomes of a file. -/
inductive Fate where
  | unread (why : OpenError)
  | scanned (d : Document) (o : Outcome)
  | dropped (d : Document) (o : Outcome) (why : Skip)

def fate (t : FileTree) (input : Input) (o : ScanOptions) (name : String) : Fate :=
  match document t input name with
  | .error why => .unread why
  | .ok d =>
    match d.scan o with
    | (out, none) => .scanned d out
    | (out, some why) => .dropped d out why

theorem fate_eq_scanned {t : FileTree} {input : Input} {name : String} {d : Document} {out : Outcome}
    (fated : fate t input o name = .scanned d out) : document t input name = .ok d ∧ d.scan o = (out, none) := by
  unfold fate at fated
  split at fated
  · simp at fated
  · rename_i opened
    split at fated
    · rename_i scanned
      obtain ⟨rfl, rfl⟩ := Fate.scanned.inj fated
      exact ⟨opened, scanned⟩
    · simp at fated

def reason : Skip → String
  | .notParsed => "syntax error while parsing AST from file"
  | .failed _ => "exception while scanning file"

theorem skipNote_reason (s : Session) (name : String) (why : Skip) : (s.skipNote name why).1 = reason why := by
  cases why <;> rfl

namespace Fate

def file? : Fate → Option String
  | scanned d _ => some d.name
  | _ => none

def skipped? (name : String) : Fate → Option (FileName × String)
  | unread why => some (.text name, why.message)
  | scanned .. => none
  | dropped d _ why => some (.text d.name, reason why)

def score? : Fate → Option Score
  | scanned _ o => some o.score
  | _ => none

def block? : Fate → Option (String × Counts)
  | unread _ => none
  | scanned d o => some (d.name, d.counts o none)
  | dropped d o why => some (d.name, d.counts o (some why))

/-- The issues of a scanned file, marked with the number of the scan. -/
def issues (scan : Nat) : Fate → List Issue
  | scanned _ o => o.issues.map fun i => { i with origin := i.origin.map ({ · with scan }) }
  | _ => []

def collect (scan : Nat) : List Fate → List Issue
  | [] => []
  | f :: rest => f.issues scan ++ collect (scan + f.score?.toList.length) rest

theorem collect_concat (scan : Nat) (before : List Fate) (f : Fate) : collect scan (before ++ [f]) =
      collect scan before ++ f.issues (scan + (before.filterMap score?).length) := by
  induction before generalizing scan with
  | nil => simp [collect]
  | cons first rest ih =>
    have counted : scan + first.score?.toList.length + (rest.filterMap score?).length =
        scan + ((first :: rest).filterMap score?).length := by
      cases scored : first.score? with
      | none => simp [scored]
      | some score =>
        simp only [filterMap_cons, scored, Option.toList, length_cons, length_nil]
        omega
    simp [collect, ih, counted, append_assoc]

end Fate

def shown (name : String) : String := if name == "-" then Issue.inputName else name

@[simp] theorem shown_hyphen : shown "-" = Issue.inputName := rfl

theorem shown_of_ne {name : String} (other : name ≠ "-") : shown name = name := by simp [shown, other]

theorem shown_ne_hyphen (name : String) : shown name ≠ "-" := by
  unfold shown
  split
  · decide
  · rename_i other
    simpa using other

theorem name_of_document {t : FileTree} {input : Input} {name : String} {d : Document}
    (opened : document t input name = .ok d) : d.name = shown name := by
  unfold document at opened
  split at opened
  · rename_i hyphen
    cases input with
    | error why => simp [Except.map] at opened
    | ok bytes =>
      obtain rfl := Except.ok.inj opened
      simp [shown, hyphen]
  · rename_i other
    cases read : t.read name with
    | error why => simp [Except.map, read] at opened
    | ok bytes =>
      rw [read] at opened
      obtain rfl := Except.ok.inj opened
      simp [shown, other]

theorem measure_eq (d : Document) (o : Outcome) (m : Metrics) :
    measure d o m = { blocks := Metrics.putBlock d.name (d.measured o) m.blocks, current := .block d.name } := by
  simp only [measure, Metrics.begin, Metrics.addLines, Metrics.addNosec, Metrics.addSkipped,
    Metrics.modify_putBlock, Except.toOption, Option.getD_some]
  simp [Counts.zero, Counts.add, Entries.put, Entries.update, Document.measured]

theorem setIssues_eq (d : Document) (o : Outcome) (blocks : List (String × Counts)) :
    let m : Metrics := { blocks := Metrics.putBlock d.name (d.measured o) blocks, current := .block d.name }
    (m.setIssues [o.score]).toOption.getD m =
      { blocks := Metrics.putBlock d.name (d.counts o none) blocks, current := .block d.name } := by
  intro m
  have kept : m.modify id = .ok m := Metrics.modify_putBlock id d.name (d.measured o) blocks
  simp only [Metrics.setIssues, kept]
  cases counted : Metrics.issueCounts [o.score] with
  | error fault => simp [m, Except.toOption, Document.counts, counted, bind, Except.bind]
  | ok issues =>
    have set := Metrics.modify_putBlock
      (fun cs => issues.foldl (fun acc e => acc.set e.1 e.2) cs) d.name (d.measured o) blocks
    simp only [bind, Except.bind]
    rw [show m.modify _ = _ from set]
    simp [Except.toOption, Document.counts, counted]

variable {t : FileTree} {input : Input} {names : List String} {name : String}

theorem shown_of_file? (kept : (fate t input o name).file? = some listed) : listed = shown name := by
  cases fated : fate t input o name with
  | unread why => simp [fated, Fate.file?] at kept
  | dropped d out why => simp [fated, Fate.file?] at kept
  | scanned d out =>
    simp only [fated, Fate.file?, Option.some.injEq] at kept
    rw [← kept, name_of_document (fate_eq_scanned fated).1]

theorem shown_of_block? {b : String × Counts} (made : (fate t input o name).block? = some b) : b.1 = shown name := by
  unfold fate at made
  split at made
  · simp [Fate.block?] at made
  · rename_i d opened
    rw [← name_of_document opened]
    split at made <;> simp only [Fate.block?, Option.some.injEq] at made <;> rw [← made]

theorem mem_shown_of_file? (kept : listed ∈ names.filterMap fun n => (fate t input o n).file?) :
    listed ∈ names.map shown := by
  obtain ⟨n, present, kept⟩ := mem_filterMap.mp kept
  exact mem_map.mpr ⟨n, present, (shown_of_file? kept).symm⟩

theorem mem_shown_of_block? (kept : listed ∈ (names.filterMap fun n => (fate t input o n).block?).map Prod.fst) :
    listed ∈ names.map shown := by
  obtain ⟨b, made, rfl⟩ := mem_map.mp kept
  obtain ⟨n, present, made⟩ := mem_filterMap.mp made
  exact mem_map.mpr ⟨n, present, (shown_of_block? made).symm⟩

variable {i : Issue} {scan : Nat}

theorem file?_of_mem_issues (present : i ∈ (fate t input o name).issues scan) :
    (fate t input o name).file? = some i.filename := by
  cases fated : fate t input o name with
  | unread why => simp [fated, Fate.issues] at present
  | dropped d out why => simp [fated, Fate.issues] at present
  | scanned d out =>
    rw [fated, Fate.issues, mem_map] at present
    obtain ⟨j, kept, rfl⟩ := present
    rw [Fate.file?, Document.filename_of_mem_issues (fate_eq_scanned fated).2 kept]

theorem exists_of_mem_collect (present : i ∈ Fate.collect scan (names.map (fate t input o))) :
    ∃ name ∈ names, ∃ n, i ∈ (fate t input o name).issues n := by
  induction names generalizing scan with
  | nil => simp [Fate.collect] at present
  | cons name rest ih =>
    rw [map_cons, Fate.collect, mem_append] at present
    rcases present with here | later
    · exact ⟨name, mem_cons_self, scan, here⟩
    · obtain ⟨other, listed, found⟩ := ih later
      exact ⟨other, mem_cons_of_mem name listed, found⟩

variable (t input) in
theorem filter_collect (o : ScanOptions) (distinct : (names.map shown).Nodup) (present : name ∈ names) (scan : Nat) :
    ∃ n, (Fate.collect scan (names.map (fate t input o))).filter (fun i => i.filename == shown name) =
      (fate t input o name).issues n := by
  have own (n : String) (scan : Nat) : ∀ i ∈ (fate t input o n).issues scan, i.filename = shown n :=
    fun i there => shown_of_file? (file?_of_mem_issues there)
  induction names generalizing scan with
  | nil => simp at present
  | cons first rest ih =>
    obtain ⟨new, distinct⟩ := nodup_cons.mp distinct
    -- the issues of one file either all pass or all fail
    rw [map_cons, Fate.collect, filter_append]
    rcases mem_cons.mp present with rfl | later
    · refine ⟨scan, ?_⟩
      rw [filter_eq_self.mpr, filter_eq_nil_iff.mpr, append_nil]
      · intro i there
        obtain ⟨other, listed, n, there⟩ := exists_of_mem_collect there
        have apart : shown other ≠ shown name := fun same => new (same ▸ mem_map_of_mem listed)
        simpa [own other n i there] using apart
      · intro i there
        simp [own name scan i there]
    · obtain ⟨n, found⟩ := ih distinct later (scan + (fate t input o first).score?.toList.length)
      refine ⟨n, ?_⟩
      rw [found, filter_eq_nil_iff.mpr, nil_append]
      intro i there
      have apart : shown first ≠ shown name := fun same => new (same ▸ mem_map_of_mem later)
      simpa [own first scan i there] using apart

end Session

end SourceAudit
