import SourceAudit.Proofs.Coverage
import SourceAudit.Proofs.Excerpt

/-! The lines that are shown with an issue: consecutive lines around its own. -/

namespace SourceAudit

open List

theorem Stop.exists_lineRange (s : Stop) :
    ∃ first count, s.checkedContext.lineRange = some ((range' first count).map Int.ofNat) := by
  have lines (n : Node) (next : Option Node) : ∃ first count, n.lines next = range' first count := by
    unfold Node.lines Node.partLines Node.reaching Node.linesBetween
    split
    · exact ⟨_, _, rfl⟩
    · split <;> exact ⟨_, _, rfl⟩
  have base : ∃ first count, s.context.lineRange = some ((range' first count).map Int.ofNat) := by
    obtain ⟨first, count, same⟩ := lines s.visit.node s.visit.next
    refine ⟨first, count, ?_⟩
    unfold context
    rw [← same]
    dsimp only
    split <;> rfl
  unfold checkedContext
  split
  · rename_i parent _ _
    obtain ⟨first, count, same⟩ := lines parent none
    exact ⟨first, count, by rw [← same]⟩
  · exact base

namespace Issue

def numberFrom (n : Int) : List Text → List (Int × Text)
  | [] => []
  | l :: ls => (n, l) :: numberFrom (n + 1) ls

theorem mem_numberFrom {n m : Int} {ls : List Text} {l : Text} :
    (m, l) ∈ numberFrom n ls ↔ n ≤ m ∧ ls[(m - n).toNat]? = some l := by
  induction ls generalizing n with
  | nil => simp [numberFrom]
  | cons x xs ih =>
    rw [numberFrom, mem_cons, ih, Prod.mk.injEq]
    by_cases here : m = n
    · subst here
      simp [show ¬m + 1 ≤ m by omega, eq_comm]
    · by_cases later : n + 1 ≤ m
      · have next : (m - n).toNat = (m - (n + 1)).toNat + 1 := by omega
        rw [next, getElem?_cons_succ]
        simp [here, later, show n ≤ m by omega]
      · simp [here, later, show ¬n ≤ m by omega]

theorem numbered_eq {line : Int → Answer (Option Text)} (source : List Text) (count : Nat) {n : Int}
    (positive : 1 ≤ n) (reads : ∀ m, n ≤ m → m < n + count →
      line m = .ok source[(m - 1).toNat]? ∧ source[(m - 1).toNat]? ≠ some []) :
    numbered line count n = .ok (numberFrom n ((source.drop (n - 1).toNat).take count)) := by
  induction count generalizing n with
  | zero => rfl
  | succ count ih =>
    obtain ⟨read, more⟩ := reads n (Int.le_refl n) (by omega)
    rw [numbered, read]
    cases found : source[(n - 1).toNat]? with
    | none =>
      rw [drop_eq_nil_of_le (getElem?_eq_none_iff.mp found)]
      rfl
    | some l =>
      obtain ⟨bound, rfl⟩ := List.getElem?_eq_some_iff.mp found
      have next : (n - 1).toNat + 1 = (n + 1 - 1).toNat := by omega
      have rest := ih (n := n + 1) (by omega) fun m _ _ => reads m (by omega) (by omega)
      rw [drop_eq_getElem_cons bound, take_succ_cons, next, numberFrom]
      cases here : source[(n - 1).toNat] with
      | nil => exact absurd (here ▸ found) more
      | cons p t =>
        rw [rest]
        rfl

def firstShown (lines n : Int) : Int := max 1 (n - max lines 1 / 2)

def mostShown (lines : Int) (i : Issue) : Nat := i.lineRange.length + (max lines 1 - 1).toNat

/-- The lines of a source that are shown with an issue on line `n`: fewer than `mostShown` only where it ends. -/
def window (lines : Int) (i : Issue) (n : Int) (source : List Text) : List (Int × Text) :=
  numberFrom (firstShown lines n) ((source.drop (firstShown lines n - 1).toNat).take (i.mostShown lines))

variable {i : Issue} {files : LineSource} {lines n : Int} {tabbed : Bool} {source : List Text}

theorem mem_window {m : Int} {l : Text} : (m, l) ∈ i.window lines n source ↔
    firstShown lines n ≤ m ∧ m < firstShown lines n + i.mostShown lines ∧ source[(m - 1).toNat]? = some l := by
  have positive : 1 ≤ firstShown lines n := Int.le_max_left ..
  rw [window, mem_numberFrom, getElem?_take]
  by_cases low : firstShown lines n ≤ m
  · rw [getElem?_drop, show (firstShown lines n - 1).toNat + (m - firstShown lines n).toNat = (m - 1).toNat by omega]
    by_cases high : m < firstShown lines n + i.mostShown lines
    · simp [low, high, show (m - firstShown lines n).toNat < i.mostShown lines by omega]
    · simp [low, high, show ¬(m - firstShown lines n).toNat < i.mostShown lines by omega]
  · simp [low]

theorem code_eq_window (placed : i.line = some n) (given : i.filename = inputName → i.input.isSome)
    (reads : ∀ m, firstShown lines n ≤ m → m < firstShown lines n + i.mostShown lines →
      i.lineAt files m = .ok source[(m - 1).toNat]? ∧ source[(m - 1).toNat]? ≠ some []) :
    i.code files lines tabbed = .ok (excerpt tabbed (i.window lines n source)) := by
  rw [code_eq placed given]
  exact congrArg (excerpt tabbed <$> ·) (numbered_eq source _ (Int.le_max_left ..) reads)

theorem code_of_file {b : Bytes} (placed : i.line = some n) (file : i.filename ≠ inputName)
    (read : files i.filename = Source.shownLines b) :
    i.code files lines tabbed = .ok (excerpt tabbed (i.window lines n (Source.shownLines b))) := by
  apply code_eq_window placed fun input => absurd input file
  intro m low _
  have positive : 1 ≤ m := Int.le_trans (Int.le_max_left ..) low
  constructor
  · simp [lineAt, file, read, show ¬m < 1 by omega]
  · intro none
    obtain ⟨l, -, empty⟩ := mem_map.mp (mem_of_getElem? none)
    split at empty
    · rename_i ended
      obtain rfl : l = [] := by simpa [Text.ofChars] using empty
      simp at ended
    · simp [Text.ofChars] at empty

variable {o : ScanOptions} {d : Document} {out : Outcome}

theorem exists_look_of_reported (done : d.scan o = (out, none)) (reported : i ∈ out.issues) :
    ∃ tree, ∃ l ∈ d.looks o.rules tree, ∃ raw, Finding.Completes l.2.rule l.1 raw i := by
  obtain ⟨tree, -, kept⟩ := Document.issues_of_scan done
  rw [kept, Outcome.issuesKept, mem_map] at reported
  obtain ⟨f, found, rfl⟩ := reported
  obtain ⟨l, listed, seen⟩ := mem_filterMap.mp (mem_filter.mp found).1
  obtain ⟨raw, -, completed, -⟩ := Finding.exists_of_seen seen
  exact ⟨tree, l, listed, raw, completed⟩

theorem line_of_mem_issues (done : d.scan o = (out, none)) (reported : i ∈ out.issues) : ∃ n, i.line = some n := by
  obtain ⟨_, _, _, _, completed⟩ := exists_look_of_reported done reported
  exact Option.isSome_iff_exists.mp completed.placed

theorem exists_range_of_visited (done : d.scan o = (out, none)) (reported : i ∈ out.issues) (visited : i.origin ≠ none) :
    ∃ first count, i.lineRange = (range' first count).map Int.ofNat := by
  obtain ⟨_, l, listed, _, completed⟩ := exists_look_of_reported done reported
  obtain ⟨_, c, -, here, ⟨s, _, -, rfl⟩ | rfl⟩ := Document.exists_of_mem_looks listed
  · obtain ⟨first, count, range⟩ := s.exists_lineRange
    refine ⟨first, count, Option.some.inj (completed.lines.symm.trans ?_)⟩
    rw [here, ← range]
    rfl
  · exact absurd (completed.origin.trans (by rw [here]; rfl)) visited

theorem range_shown_iff {first count : Nat} (range : i.lineRange = (range' first count).map Int.ofNat)
    (more : 1 ≤ lines) : (∀ m ∈ i.lineRange, ∃ l, (m, l) ∈ i.window lines n source) ↔
      count = 0 ∨ firstShown lines n ≤ first ∧ first < firstShown lines n + lines ∧ first + count ≤ source.length + 1 := by
  have positive : 1 ≤ firstShown lines n := Int.le_max_left ..
  have most : (i.mostShown lines : Int) = count + lines - 1 := by
    rw [mostShown, range, length_map, length_range']
    omega
  have shown (m : Nat) : (∃ l, ((m : Int), l) ∈ i.window lines n source) ↔
      firstShown lines n ≤ m ∧ m < firstShown lines n + (count + lines - 1) ∧ m < source.length + 1 := by
    simp only [mem_window, most, exists_and_left]
    rw [← Option.isSome_iff_exists, isSome_getElem?]
    omega
  simp only [range, forall_mem_map, mem_range'_1]
  constructor
  · intro all
    by_cases none : count = 0
    · exact .inl none
    · have low := (shown first).mp (all first (by omega))
      have high := (shown (first + count - 1)).mp (all (first + count - 1) (by omega))
      omega
  · intro fits m inside
    exact (shown m).mpr (by omega)

/-- The lines of an issue are consecutive, and all shown if the window begins at most at the first and less than `lines`
above, and the source does not end before them. -/
theorem code_whole_iff (done : d.scan o = (out, none)) (reported : i ∈ out.issues) (visited : i.origin ≠ none)
    (file : d.name ≠ inputName) (read : files d.name = Source.shownLines d.bytes) (more : 1 ≤ lines) (tabbed : Bool) :
    ∃ (n : Int) (first count : Nat), i.line = some n ∧ i.lineRange = (range' first count).map Int.ofNat ∧
      i.code files lines tabbed = .ok (excerpt tabbed (i.window lines n (Source.shownLines d.bytes))) ∧
      ((∀ m ∈ i.lineRange, ∃ l, (m, l) ∈ i.window lines n (Source.shownLines d.bytes)) ↔
        count = 0 ∨ firstShown lines n ≤ first ∧ first < firstShown lines n + lines ∧
          first + count ≤ (Source.shownLines d.bytes).length + 1) := by
  obtain ⟨n, placed⟩ := line_of_mem_issues done reported
  obtain ⟨first, count, range⟩ := exists_range_of_visited done reported visited
  have named := Document.filename_of_mem_issues done reported
  exact ⟨n, first, count, placed, range, code_of_file placed (named ▸ file) (named ▸ read), range_shown_iff range more⟩

def longCall : Document :=
  let bytes := Utf8.encode "run(1,\n    2,\n    shell=True)\n".toList
  { name := "./t.py", bytes, contents := some bytes, module := .ok "t" }

set_option synthInstance.maxSize 1000 in
theorem exists_issue_longCall : ∃ rules out i,
    RuleSet.ofProfile { includes := ["B604"] } Settings.standard.option = .ok rules ∧
      longCall.scan { rules } = (out, none) ∧ i ∈ out.issues ∧ i.line = some 3 ∧ i.lineRange = [1, 2, 3] ∧
      i.origin ≠ none := by
  let view (i : Issue) := (i.line, i.lineRange, i.origin.isSome)
  obtain ⟨rules, -, out, chosen, -, done, reported, -⟩ := Document.exists_scan_of_eval (d := longCall)
    (p := { includes := ["B604"] }) view (s := [(some 3, [1, 2, 3], true)])
    (t := [(some 3, [1, 2, 3], true)]) (by decide +kernel)
  obtain ⟨i, mem, seen⟩ := mem_map.mp (reported ▸ mem_singleton_self _)
  obtain ⟨line, range, origin⟩ := Prod.mk.inj seen |>.imp id Prod.mk.inj
  exact ⟨rules, out, i, chosen, done, mem, line, range, Option.isSome_iff_ne_none.mp origin⟩

theorem code_whole_iff_longCall : ∃ rules out, ∃ i ∈ out.issues, longCall.scan { rules } = (out, none) ∧
    ∃ (n : Int) (first count : Nat), i.line = some n ∧ i.lineRange = (range' first count).map Int.ofNat ∧
      ((∀ m ∈ i.lineRange, ∃ l, (m, l) ∈ i.window 5 n (Source.shownLines longCall.bytes)) ↔
        count = 0 ∨ firstShown 5 n ≤ first ∧ first < firstShown 5 n + 5 ∧
          first + count ≤ (Source.shownLines longCall.bytes).length + 1) := by
  obtain ⟨rules, out, i, -, done, mem, -, -, visited⟩ := exists_issue_longCall
  let files : LineSource := fun _ => Source.shownLines longCall.bytes
  obtain ⟨n, first, count, placed, lines, -, whole⟩ :=
    code_whole_iff done mem visited (by decide) (rfl : files longCall.name = _) (by decide : (1 : Int) ≤ 5) false
  exact ⟨rules, out, i, mem, done, n, first, count, placed, lines, whole⟩

/-- By default the first line of the call is not shown. -/
theorem longCall_not_whole : ∃ rules out, ∃ i ∈ out.issues,
    RuleSet.ofProfile { includes := ["B604"] } Settings.standard.option = .ok rules ∧
      longCall.scan { rules } = (out, none) ∧ i.origin ≠ none ∧ 1 ∈ i.lineRange ∧
      (∀ files, files longCall.name = Source.shownLines longCall.bytes →
        i.code files 3 false = .ok (excerpt false (i.window 3 3 (Source.shownLines longCall.bytes)))) ∧
      ∀ l, (1, l) ∉ i.window 3 3 (Source.shownLines longCall.bytes) := by
  obtain ⟨rules, out, i, chosen, done, mem, line, range, visited⟩ := exists_issue_longCall
  have named := Document.filename_of_mem_issues done mem
  refine ⟨rules, out, i, mem, chosen, done, visited, by simp [range], fun files read => ?_, fun l shown => ?_⟩
  · exact code_of_file line (by rw [named]; decide) (named ▸ read)
  · exact absurd (mem_window.mp shown).1 (by decide)

end Issue

end SourceAudit
