import SourceAudit.Proofs.Coverage
import SourceAudit.Proofs.Excerpt
import SourceAudit.Proofs.Provenance

/-! Control characters: where the rule points, and which comments silence it. -/

namespace SourceAudit

open List

namespace Source

/-- The characters of a source that is read line by line. -/
def decoded? (b : Bytes) : Option (List Char) := do (← lineEncoding? b).decode? (dropMark b).1

section

variable {p : Char} {cs : List Char} (other : p ≠ '\r' ∧ p ≠ '\n')

include other

theorem mem_unifyLineEnds : p ∈ unifyLineEnds cs ↔ p ∈ cs := by fun_induction unifyLineEnds cs <;> simp_all

/-- Lines hold the characters of the text, if line ends are left out of account. -/
theorem exists_line_iff : (∃ l ∈ splitLines (unifyLineEnds cs), p ∈ l) ↔ p ∈ cs := by
  rw [← mem_flatten, splitLines, Segments.flatten_runs, mem_unifyLineEnds other]

end

end Source

namespace Rule

variable {c : Context} {b : Bytes} {cs : List Char}

theorem exists_control_iff : (∃ l ∈ Source.splitLines (Source.unifyLineEnds cs), ∃ p ∈ l, p ∈ directionControls) ↔
    ∃ p ∈ cs, p ∈ directionControls := by
  have visible (p : Char) (control : p ∈ directionControls) : p ≠ '\r' ∧ p ≠ '\n' := by
    constructor <;> (rintro rfl; exact absurd control (by decide))
  constructor
  · rintro ⟨l, mem, p, present, control⟩
    exact ⟨p, (Source.exists_line_iff (visible p control)).mp ⟨l, mem, present⟩, control⟩
  · rintro ⟨p, present, control⟩
    obtain ⟨l, mem, there⟩ := (Source.exists_line_iff (visible p control)).mpr present
    exact ⟨l, mem, p, there, control⟩

/-- Something is found exactly if a line has a control character, on the first such line. There the rule points at the
control that comes first in the order of the controls. -/
theorem controls_pointed (given : c.contents = some b) (decoded : Source.decoded? b = some cs) (settings : Value) :
    ∃ found, trojanSource.run c settings = .ok found ∧ (found.isSome ↔ ∃ p ∈ cs, p ∈ directionControls) ∧
      ∀ i, found = some i → ∃ (n : Nat) (l : List Char) (p : Char),
        (Source.splitLines (Source.unifyLineEnds cs))[n]? = some l ∧ i.line = some (n + 1) ∧
        (∀ m < n, ∀ other, (Source.splitLines (Source.unifyLineEnds cs))[m]? = some other →
          ∀ p ∈ other, p ∉ directionControls) ∧
        directionControls.find? (l.contains ·) = some p ∧ i.column = l.idxOf p + 1 := by
  have read : Source.textLines? b = some (Source.splitLines (Source.unifyLineEnds cs)) := by
    obtain ⟨e, encoded, text⟩ := Option.bind_eq_some_iff.mp decoded
    simp [Source.textLines?, encoded, text]
  rw [← exists_control_iff]
  generalize Source.splitLines (Source.unifyLineEnds cs) = lines at read ⊢
  simp only [trojanSource, plain, given, read]
  refine ⟨_, rfl, ?_, ?_⟩
  · rw [isSome_findSome?, any_eq_true]
    simp only [Prod.exists, mk_mem_zipIdx_iff_getElem?, Option.isSome_map]
    constructor
    · rintro ⟨l, n, there, pointed⟩
      refine ⟨l, mem_of_getElem? there, ?_⟩
      by_contra free
      rw [controlIn_eq_none_iff.mpr fun p present control => free ⟨p, present, control⟩] at pointed
      cases pointed
    · rintro ⟨l, listed, p, present, control⟩
      obtain ⟨n, there⟩ := getElem?_of_mem listed
      refine ⟨l, n, there, Option.isSome_iff_ne_none.mpr fun none => ?_⟩
      exact controlIn_eq_none_iff.mp none p present control
  · intro i found
    obtain ⟨n, l, there, pointed, earlier⟩ := Lists.exists_of_findSome?_zipIdx found
    obtain ⟨⟨p, column⟩, chosen, rfl⟩ := Option.map_eq_some_iff.mp pointed
    rw [controlIn_eq] at chosen
    obtain ⟨q, control, same⟩ := Option.map_eq_some_iff.mp chosen
    cases same
    refine ⟨n, l, p, there, rfl, fun m above other stands => ?_, control, rfl⟩
    exact controlIn_eq_none_iff.mp (Option.map_eq_none_iff.mp (earlier m above other stands))

def oneLine (line : String) : Context := { contents := some (Utf8.encode (line ++ "\n").toList) }

theorem controls_pointed_oneLine : ∃ i, trojanSource.run (oneLine "# a\u2066b\u2069") .null = .ok (some i) := by
  have read : Source.decoded? (Utf8.encode "# a\u2066b\u2069\n".toList) = some "# a\u2066b\u2069\n".toList := by decide +kernel
  obtain ⟨_, ran, reports, -⟩ := controls_pointed (c := oneLine "# a\u2066b\u2069") rfl read .null
  obtain ⟨i, rfl⟩ := Option.isSome_iff_exists.mp (reports.mpr ⟨'\u2066', by decide, by decide⟩)
  exact ⟨i, ran⟩

/-- The second control of a line is pointed at, since it is listed before the first. -/
theorem second_control_pointed : ∃ i, trojanSource.run (oneLine "# \u2066\u202a") .null = .ok (some i) ∧
    i.line = some 1 ∧ i.column = 4 ∧ "# \u2066\u202a\n".toList.findIdx? (directionControls.contains ·) = some 2 := by
  have ran : (trojanSource.run (oneLine "# \u2066\u202a") .null).toOption.join.map (fun i => (i.line, i.column)) =
      some (some 1, 4) := by decide +kernel
  cases answer : trojanSource.run (oneLine "# \u2066\u202a") .null with
  | error => simp [answer, Except.toOption] at ran
  | ok found =>
    rw [answer] at ran
    obtain ⟨i, rfl, same⟩ := Option.map_eq_some_iff.mp ran
    obtain ⟨line, column⟩ := Prod.mk.inj same
    exact ⟨i, rfl, line, column, by decide⟩

end Rule

namespace Source

def Search.Placed (s : Search) : Prop := ∀ c ∈ s.comments, 1 ≤ c.line

variable {number : Nat} (positive : 1 ≤ number)

include positive

variable {s : Search}

theorem placed_searchLine (fuel : Nat) (cs : List Char) (placed : s.Placed) : (searchLine number fuel cs s).Placed := by
  fun_induction searchLine number fuel cs s with
  | case3 _ _ _ _ _ _ _ ih => exact ih (forall_mem_cons.mpr ⟨positive, placed⟩)
  | _ => simp_all [Search.Placed]

theorem placed_searchStep (cs : List Char) (placed : s.Placed) : (searchStep number cs s).1.Placed := by
  unfold searchStep
  split
  · split
    · exact placed_searchLine positive _ _ placed
    · dsimp only
      split <;> exact placed
  · split
    · dsimp only
      split
      · exact placed
      · split
        · split
          · exact forall_mem_cons.mpr ⟨positive, placed⟩
          · exact placed
        · split
          · exact placed
          · exact placed_searchLine positive _ _ placed
    · exact placed_searchLine positive _ _ placed

theorem placed_searchLines (e : Encoding) (lines : List Bytes) (placed : s.Placed) :
    (searchLines e number lines s).1.Placed := by
  induction lines generalizing number s with
  | nil => exact placed
  | cons line lines ih =>
    rw [searchLines]
    split
    · exact placed
    · have step := placed_searchStep positive ‹List Char› placed
      split
      · rename_i stopped
        rwa [stopped] at step
      · rename_i went
        rw [went] at step
        exact ih (Nat.le_succ_of_le positive) step

end Source

namespace Document

variable {o : ScanOptions} {d : Document} {out : Outcome} {r : ActiveRule} {f g : Finding} {line : Int}

theorem suppressedOn_zero (d : Document) : d.suppressedOn 0 = none := by
  have placed : ∀ c ∈ d.comments, 1 ≤ c.line := by
    unfold comments
    split
    · rename_i e _
      intro c mem
      exact Source.placed_searchLines (Nat.le_refl 1) e _ (fun _ none => absurd none not_mem_nil) c (mem_reverse.mp mem)
    · simp
  have nowhere : d.comments.filter (fun c => (c.line : Int) == 0) = [] := by
    rw [filter_eq_nil_iff]
    intro c mem
    have below := placed c mem
    rw [beq_iff_eq]
    omega
  rw [suppressedOn, commentOn, nowhere]
  rfl

theorem consulted_whole (whole : f.lines = [0, 1]) (unmarked : ∀ line, f.line = some line → d.suppressedOn line = none) :
    f.consulted d.suppressedOn = (d.suppressedOn 1).toList := by
  have own : f.line.bind d.suppressedOn = none := by
    cases named : f.line with
    | none => rfl
    | some line => exact unmarked line named
  rw [Finding.consulted, own, whole]
  simp only [findSome?, suppressedOn_zero]
  cases d.suppressedOn 1 <;> rfl

/-- Comments on other lines count if they stand on the first one. -/
theorem controls_reported_iff (heed : o.heedComments = true) (done : d.scan o = (out, none))
    (chosen : r ∈ o.rules.forCheck "File") (rule : r.rule = Rule.trojanSource)
    (found : Finding.seen (d.place fileContext) r = some f) (named : f.line = some line)
    (unmarked : d.suppressedOn line = none) :
    f.issue.testId = "B613" ∧ f.issue.line = some line ∧
      (f.issue ∈ out.issues ↔ ∀ ids, d.suppressedOn 1 = some ids → ids ≠ [] ∧ "B613" ∉ ids) := by
  have located := Finding.located_of_seen found
  obtain ⟨_, -, -, -, range⟩ := Finding.exists_of_seen found
  have lines : f.lines = [0, 1] := (Option.some.inj range).symm
  have test : f.issue.testId = "B613" := by
    have listed : Rule.trojanSource ∈ Catalogue.rules := by simp only [Catalogue.rules, mem_cons, true_or, or_true]
    rw [Finding.testId_of_seen (rule ▸ listed) found, rule]
    rfl
  refine ⟨test, located.line line named, ?_⟩
  obtain ⟨tree, -, issues⟩ := exists_tree_of_scan heed done
  have silenced {g : Finding} (present : g ∈ d.findings o.rules tree) (same : g.issue = f.issue) :
      g.Silenced d.suppressedOn ↔ ∃ ids, d.suppressedOn 1 = some ids ∧ (ids = [] ∨ "B613" ∈ ids) := by
    have also := located_of_mem_findings present
    rw [Finding.Silenced, consulted_whole, same, test]
    · cases d.suppressedOn 1 <;> simp
    · rw [← also.lines, same, located.lines, lines]
    · intro other own
      have here := also.line other own
      rw [same, located.line line named] at here
      rwa [← Option.some.inj here]
  have present : f ∈ d.findings o.rules tree :=
    mem_filterMap.mpr ⟨_, mem_append_right _ (mem_map_of_mem chosen), found⟩
  have clear : (∀ ids, d.suppressedOn 1 = some ids → ids ≠ [] ∧ "B613" ∉ ids) ↔ ¬f.Silenced d.suppressedOn := by
    rw [silenced present rfl]
    simp [not_or]
  rw [clear, issues, mem_map]
  constructor
  · rintro ⟨g, kept, same⟩
    obtain ⟨met, loud⟩ := mem_filter.mp kept
    rw [silenced present rfl, ← silenced met same]
    simpa using loud
  · intro loud
    exact ⟨f, mem_filter.mpr ⟨present, by simpa using loud⟩, rfl⟩

def turned (first : String) : Document :=
  let bytes := Utf8.encode (first ++ "\n# \u202e\n").toList
  { name := "./t.py", bytes, contents := some bytes, module := .ok "t" }

theorem controls_reported_iff_turned : ∃ out f, (turned "# nosec: B101").scan { rules := [.opening] } = (out, none) ∧
    Finding.seen ((turned "# nosec: B101").place fileContext) .opening = some f ∧ f.line = some 2 ∧
    f.issue ∈ out.issues := by
  have seen : (Finding.seen ((turned "# nosec: B101").place fileContext) .opening).map Finding.line = some (some 2) := by
    decide +kernel
  have ends : ((turned "# nosec: B101").scan { rules := [.opening] }).2 = none := by decide +kernel
  have first : (turned "# nosec: B101").suppressedOn 1 = some ["B101"] := by decide +kernel
  obtain ⟨f, found, named⟩ := Option.map_eq_some_iff.mp seen
  have done : (turned "# nosec: B101").scan { rules := [.opening] } = (_, none) := Prod.ext rfl ends
  refine ⟨_, f, done, found, named, ?_⟩
  refine (controls_reported_iff rfl done mem_cons_self rfl found named (by decide +kernel)).2.2.mpr ?_
  intro ids same
  rw [first] at same
  cases same
  decide

theorem turned_silenced : ∃ out f, (turned "# nosec").scan { rules := [.opening] } = (out, none) ∧
    Finding.seen ((turned "# nosec").place fileContext) .opening = some f ∧ f.line = some 2 ∧
    (turned "# nosec").suppressedOn 2 = none ∧ out.issues = [] := by
  have seen : (Finding.seen ((turned "# nosec").place fileContext) .opening).map Finding.line = some (some 2) := by
    decide +kernel
  have ends : ((turned "# nosec").scan { rules := [.opening] }).2 = none ∧
      ((turned "# nosec").scan { rules := [.opening] }).1.issues = [] := by decide +kernel
  obtain ⟨f, found, named⟩ := Option.map_eq_some_iff.mp seen
  exact ⟨_, f, Prod.ext rfl ends.1, found, named, by decide +kernel, ends.2⟩

end Document

end SourceAudit
