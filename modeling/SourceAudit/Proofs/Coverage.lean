import SourceAudit.Proofs.Inspection
import SourceAudit.Proofs.Listing

/-! Which findings comments suppress. Two are consulted for a finding: that on the line which the rule names, and the
first on the lines of the place. -/

namespace SourceAudit

open List

variable {ids : List String} {o : ScanOptions}

variable {f : Finding} {line : Int} {on : Int → Option (List String)} {d : Document}

namespace Suppressions

theorem at_latest (ss : Suppressions) (line : Int) :
    at_ (ss.latest.filter fun e => e.2.isSome) line = ((ss.filter fun e => e.1 == line).getLast?).bind Prod.snd := by
  induction ss with
  | nil => rfl
  | cons e rest ih =>
    obtain ⟨key, ids⟩ := e
    by_cases replaced : (rest.any fun later => later.1 == key) = true
    · rw [latest, if_pos replaced, ih, filter_cons]
      split
      · rename_i here
        obtain rfl : key = line := by simpa using here
        obtain ⟨later, present, same⟩ := any_eq_true.mp replaced
        have some : rest.filter (fun e => e.1 == key) ≠ [] := ne_nil_of_mem (mem_filter.mpr ⟨present, same⟩)
        rw [List.getLast?_cons_of_ne_nil some]
      · rfl
    · rw [latest, if_neg replaced, filter_cons, filter_cons]
      by_cases here : key = line
      · subst here
        have none : rest.filter (fun e => e.1 == key) = [] := by
          rw [filter_eq_nil_iff]
          intro later present same
          exact replaced (any_eq_true.mpr ⟨later, present, same⟩)
        rw [none] at ih ⊢
        cases ids with
        | none => simpa using ih
        | some ids => simp [at_]
      · have apart : (line == key) = false := by simpa using Ne.symm here
        have other : (key == line) = false := by simpa using here
        cases ids with
        | none => simpa [other] using ih
        | some ids => simpa [other, at_, lookup_cons, apart] using ih

theorem within_eq (ss : Suppressions) (lines : List Int) : ss.within lines = lines.findSome? ss.at_ := by
  unfold within
  split
  · rename_i empty
    obtain rfl : ss = [] := by simpa using empty
    symm
    rw [List.findSome?_eq_none_iff]
    intro line _
    rfl
  · rfl

end Suppressions

def Issue.extent (i : Issue) : List Int := i.line.toList ++ i.lineRange

namespace Finding

/-- The line that the rule names, and those of the place. -/
def extent (f : Finding) : List Int := f.line.toList ++ f.lines

/-- The comments that are consulted for a finding, by what the comments on lines suppress. -/
def consulted (on : Int → Option (List String)) (f : Finding) : List (List String) :=
  (f.line.bind on).toList ++ (f.lines.findSome? on).toList

theorem covering_eq (ss : Suppressions) (f : Finding) : ss.covering f.line f.lines =
      if f.consulted ss.at_ = [] then none else some (f.consulted ss.at_).flatten := by
  unfold Suppressions.covering consulted
  rw [Suppressions.within_eq]
  cases f.line.bind ss.at_ <;> cases f.lines.findSome? ss.at_ <;> simp

/-- A finding is suppressed if comments are consulted for it that name no test at all or its own. -/
def Silenced (on : Int → Option (List String)) (f : Finding) : Prop :=
  f.consulted on ≠ [] ∧ ((∀ ids ∈ f.consulted on, ids = []) ∨ ∃ ids ∈ f.consulted on, f.issue.testId ∈ ids)

instance (on : Int → Option (List String)) (f : Finding) : Decidable (f.Silenced on) :=
  inferInstanceAs (Decidable (_ ∧ _))

theorem verdict_eq_kept_iff (ss : Suppressions) (f : Finding) : f.verdict ss = .kept ↔ ¬ f.Silenced ss.at_ := by
  rw [verdict, covering_eq, Silenced]
  by_cases none : f.consulted ss.at_ = []
  · simp [none]
  · have named : (f.consulted ss.at_).flatten.contains f.issue.testId = true ↔
        ∃ ids ∈ f.consulted ss.at_, f.issue.testId ∈ ids := by
      rw [List.contains_iff_mem, List.mem_flatten]
    simp only [if_neg none, List.isEmpty_iff, List.flatten_eq_nil_iff]
    split
    · rename_i blank
      exact iff_of_false (by simp) fun loud => loud ⟨none, .inl blank⟩
    · rename_i specific
      split
      · rename_i own
        simp [none, named.mp own]
      · rename_i other
        have unnamed := mt named.mpr other
        simp [none, specific, unnamed]

/-- A comment on one of the lines of the issue suppresses everything or names the test. -/
def Covered (on : Int → Option (List String)) (f : Finding) : Prop :=
  ∃ line ∈ f.issue.extent, ∃ ids, on line = some ids ∧ (ids = [] ∨ f.issue.testId ∈ ids)

/-- The comments that are consulted name tests, but not that of the finding. -/
def Misled (on : Int → Option (List String)) (f : Finding) : Prop :=
  (∃ ids ∈ f.consulted on, ids ≠ []) ∧ ∀ ids ∈ f.consulted on, f.issue.testId ∉ ids

theorem silenced_iff (on : Int → Option (List String)) (f : Finding) :
    f.Silenced on ↔ ¬ (f.consulted on = [] ∨ f.Misled on) := by
  unfold Silenced Misled
  by_cases named : ∃ ids ∈ f.consulted on, f.issue.testId ∈ ids
  · grind
  · grind

/-- What the issue says about lines is what was known when it was found. -/
structure Located (f : Finding) : Prop where
  lines : f.issue.lineRange = f.lines
  line : ∀ line, f.line = some line → f.issue.line = some line

theorem located_of_seen {c : Context} {r : ActiveRule} (found : seen c r = some f) : f.Located := by
  obtain ⟨_, -, completed, own, range⟩ := exists_of_seen found
  constructor
  case lines => exact Option.some.inj (completed.lines.symm.trans range)
  case line =>
      intro line named
      rw [completed.line, ← own, named, Option.some_or]

theorem Located.mem_extent (located : f.Located) (inside : line ∈ f.extent) : line ∈ f.issue.extent := by
  rcases mem_append.mp inside with own | within
  · exact mem_append_left _ (by simpa using located.line line (by simpa using own))
  · exact mem_append_right _ (by simpa [located.lines] using within)

theorem exists_of_mem_consulted (consulted : ids ∈ f.consulted on) : ∃ line ∈ f.extent, on line = some ids := by
  rcases mem_append.mp consulted with own | first
  · rw [Option.mem_toList, Option.bind_eq_some_iff] at own
    obtain ⟨line, named, found⟩ := own
    exact ⟨line, by simp [extent, named], found⟩
  · rw [Option.mem_toList] at first
    obtain ⟨line, present, found⟩ := exists_of_findSome?_eq_some first
    exact ⟨line, by simp [extent, present], found⟩

theorem consulted_eq_nil_iff (on : Int → Option (List String)) (f : Finding) :
    f.consulted on = [] ↔ ∀ line ∈ f.extent, on line = none := by
  cases named : f.line with
  | none => simp [consulted, extent, named]
  | some line => simp [consulted, extent, named]

theorem Located.covered_of_silenced (located : f.Located) (silenced : f.Silenced on) : f.Covered on := by
  obtain ⟨some, blank | ⟨ids, consulted, named⟩⟩ := silenced
  · obtain ⟨ids, consulted⟩ := exists_mem_of_ne_nil _ some
    obtain ⟨line, present, found⟩ := exists_of_mem_consulted consulted
    exact ⟨line, located.mem_extent present, ids, found, .inl (blank ids consulted)⟩
  · obtain ⟨line, present, found⟩ := exists_of_mem_consulted consulted
    exact ⟨line, located.mem_extent present, ids, found, .inr named⟩

theorem Located.silenced_iff_of_alone (located : f.Located) (given : on line = some ids)
    (alone : ∀ other ∈ f.issue.extent, other ≠ line → on other = none) :
    f.Silenced on ↔ line ∈ f.extent ∧ (ids = [] ∨ f.issue.testId ∈ ids) := by
  have only : ∀ other ∈ f.extent, ∀ found, on other = some found → other = line ∧ found = ids := by
    intro other inside found carried
    have here : other = line := by
      by_contra elsewhere
      simp [alone other (located.mem_extent inside) elsewhere] at carried
    exact ⟨here, by simpa [here, given] using carried.symm⟩
  have same : ∀ found ∈ f.consulted on, found = ids := by
    intro found consulted
    obtain ⟨other, inside, carried⟩ := exists_of_mem_consulted consulted
    exact (only other inside found carried).2
  constructor
  · intro silenced
    obtain ⟨some, decides⟩ := silenced
    obtain ⟨found, consulted⟩ := exists_mem_of_ne_nil _ some
    obtain ⟨other, inside, carried⟩ := exists_of_mem_consulted consulted
    obtain ⟨rfl, rfl⟩ := only other inside found carried
    refine ⟨inside, ?_⟩
    rcases decides with blank | ⟨own, asked, named⟩
    · exact .inl (blank found consulted)
    · exact .inr (same own asked ▸ named)
  · rintro ⟨inside, decides⟩
    have some : f.consulted on ≠ [] := by
      rw [ne_eq, consulted_eq_nil_iff]
      intro none
      simp [none line inside] at given
    obtain ⟨found, consulted⟩ := exists_mem_of_ne_nil _ some
    obtain rfl := same found consulted
    refine ⟨some, ?_⟩
    rcases decides with blank | named
    · exact .inl fun other asked => (same other asked).trans blank
    · exact .inr ⟨found, consulted, named⟩

theorem Located.silenced_of_alone (located : f.Located) (inside : line ∈ f.extent)
    (alone : ∀ other ∈ f.issue.extent, other ≠ line → on other = none) (covered : f.Covered on) : f.Silenced on := by
  obtain ⟨other, present, _, found, suppresses⟩ := covered
  obtain rfl : other = line := by
    by_contra elsewhere
    simp [alone other present elsewhere] at found
  exact (located.silenced_iff_of_alone found alone).mpr ⟨inside, suppresses⟩

end Finding

namespace Document

def comments (d : Document) : List Source.Comment :=
  match Source.lineEncoding? d.bytes with
  | some e => (Source.comments e d.bytes).1
  | none => []

def commentOn (d : Document) (line : Int) : Option Source.Comment :=
  (d.comments.filter fun c => (c.line : Int) == line).getLast?

/-- What the comment on a line suppresses: everything, if the list is empty, or the named tests. -/
def suppressedOn (d : Document) (line : Int) : Option (List String) :=
  (d.commentOn line).bind fun c => (Suppression.read c.text).1

theorem at_suppressions (comments : List Source.Comment) (line : Int) : (suppressions comments).1.at_ line =
      ((comments.filter fun c => (c.line : Int) == line).getLast?).bind fun c => (Suppression.read c.text).1 := by
  have entries : (suppressions comments).1 =
      (Suppressions.latest (comments.map fun c => ((c.line : Int), (Suppression.read c.text).1))).filter
        fun e => e.2.isSome := by
    simp only [suppressions, map_map]
    rfl
  rw [entries, Suppressions.at_latest, filter_map, List.getLast?_map]
  simp only [Option.bind_map]
  rfl

theorem at_heeded (heed : o.heedComments) (d : Document) : (d.heeded o).at_ = d.suppressedOn := by
  funext line
  unfold heeded suppressedOn commentOn comments
  rw [heed]
  cases Source.lineEncoding? d.bytes with
  | none => rfl
  | some e => exact at_suppressions _ line

theorem located_of_mem_findings {rules : RuleSet} {tree : Node} (found : f ∈ d.findings rules tree) : f.Located := by
  obtain ⟨l, -, seen⟩ := mem_filterMap.mp found
  exact Finding.located_of_seen seen

theorem exists_tree_of_scan {out : Outcome} (heed : o.heedComments) (done : d.scan o = (out, none)) :
    ∃ tree, Source.parse d.bytes = .ok tree ∧
      out.issues = ((d.findings o.rules tree).filter fun f => !f.Silenced d.suppressedOn).map Finding.issue := by
  obtain ⟨tree, parsed, issues⟩ := issues_of_scan done
  refine ⟨tree, parsed, ?_⟩
  rw [issues, Outcome.issuesKept]
  congr 2
  funext f
  rw [Bool.eq_iff_iff, beq_iff_eq, Finding.verdict_eq_kept_iff, at_heeded heed]
  simp

/-- A scan reports what is not suppressed. A finding is suppressed only if a comment covers it, and then unless none is
consulted or those that are name other tests, which cannot be where a single comment stands on the issue's lines. -/
theorem scan_silences {o : ScanOptions} {d : Document} {out : Outcome} (heed : o.heedComments = true)
    (done : d.scan o = (out, none)) :
    ∃ tree, Source.parse d.bytes = .ok tree ∧
      out.issues = ((d.findings o.rules tree).filter fun f => !f.Silenced d.suppressedOn).map Finding.issue ∧
      ∀ f ∈ d.findings o.rules tree, (f.Silenced d.suppressedOn → f.Covered d.suppressedOn) ∧
        ((f.Silenced d.suppressedOn ↔ f.Covered d.suppressedOn) ↔
          ¬ (f.Covered d.suppressedOn ∧ (f.consulted d.suppressedOn = [] ∨ f.Misled d.suppressedOn))) ∧
        ∀ line ∈ f.extent, (∀ other ∈ f.issue.extent, other ≠ line → d.suppressedOn other = none) →
          (f.Silenced d.suppressedOn ↔ f.Covered d.suppressedOn) := by
  obtain ⟨tree, parsed, issues⟩ := exists_tree_of_scan heed done
  refine ⟨tree, parsed, issues, fun f found => ?_⟩
  have located := located_of_mem_findings found
  have sound : f.Silenced d.suppressedOn → f.Covered d.suppressedOn := located.covered_of_silenced
  have exactly := f.silenced_iff d.suppressedOn
  refine ⟨sound, ?_, fun line inside alone => ⟨sound, located.silenced_of_alone inside alone⟩⟩
  constructor
  · rintro same ⟨covered, unheard⟩
    exact exactly.mp (same.mpr covered) unheard
  · intro heard
    refine ⟨sound, fun covered => exactly.mpr fun unheard => heard ⟨covered, unheard⟩⟩

theorem exists_scan_of_eval {α : Type} {p : Profile} (view : Issue → α) {s t : List α}
    (ends : ((RuleSet.ofProfile p Settings.standard.option).toOption.bind fun rules =>
      (Source.parse d.bytes).toOption.map fun tree =>
        ((d.scan { rules }).2, (d.scan { rules }).1.issues.map view,
          (d.findings rules tree).map fun f => view f.issue)) = some (none, s, t)) :
    ∃ rules tree out, RuleSet.ofProfile p Settings.standard.option = .ok rules ∧
      Source.parse d.bytes = .ok tree ∧ d.scan { rules } = (out, none) ∧ out.issues.map view = s ∧
      ((d.findings rules tree).map fun f => view f.issue) = t := by
  cases chosen : RuleSet.ofProfile p Settings.standard.option with
  | error fault => simp [chosen, Except.toOption] at ends
  | ok rules =>
    cases parsed : Source.parse d.bytes with
    | error fault => simp [parsed, Except.toOption] at ends
    | ok tree =>
      simp only [chosen, parsed, Except.toOption, Option.bind_some, Option.map_some, Option.some.injEq,
        Prod.mk.injEq] at ends
      obtain ⟨whole, issues, findings⟩ := ends
      exact ⟨rules, tree, (d.scan { rules }).1, rfl, rfl, by rw [← whole], issues, findings⟩

def twoMarks : Document :=
  let bytes := Utf8.encode "run(1,  # nosec: B101\n    shell=True)  # nosec\n".toList
  { name := "./t.py", bytes, contents := some bytes, module := .ok "t" }

theorem exists_scan_twoMarks : ∃ rules tree out,
    RuleSet.ofProfile { includes := ["B604"] } Settings.standard.option = .ok rules ∧
      Source.parse twoMarks.bytes = .ok tree ∧ twoMarks.scan { rules } = (out, none) ∧
      out.issues.map (fun i => (i.testId, i.line)) = [("B604", some 2)] ∧
      ((twoMarks.findings rules tree).map fun f => (f.issue.testId, f.issue.line)) = [("B604", some 2)] :=
  exists_scan_of_eval (fun i => (i.testId, i.line)) (by decide +kernel)

theorem scan_twoMarks_silences : ∃ rules out,
    RuleSet.ofProfile { includes := ["B604"] } Settings.standard.option = .ok rules ∧
      twoMarks.scan { rules } = (out, none) ∧ out.issues.map Issue.testId = ["B604"] ∧
      ∃ tree, Source.parse twoMarks.bytes = .ok tree ∧ out.issues =
        ((twoMarks.findings rules tree).filter fun f => !f.Silenced twoMarks.suppressedOn).map Finding.issue := by
  obtain ⟨rules, -, out, chosen, -, done, reported, -⟩ := exists_scan_twoMarks
  obtain ⟨tree, parsed, issues, -⟩ := scan_silences rfl done
  exact ⟨rules, out, chosen, done, by simpa using congrArg (List.map Prod.fst) reported, tree, parsed, issues⟩

/-- An issue is reported though its own line suppresses everything. -/
theorem twoMarks_reported : ∃ rules tree out,
    RuleSet.ofProfile { includes := ["B604"] } Settings.standard.option = .ok rules ∧
      Source.parse twoMarks.bytes = .ok tree ∧ twoMarks.scan { rules } = (out, none) ∧
      ∃ f, twoMarks.findings rules tree = [f] ∧ f.issue.testId = "B604" ∧ f.issue.line = some 2 ∧
        twoMarks.suppressedOn 2 = some [] ∧ f.Covered twoMarks.suppressedOn ∧
        out.issues.map Issue.testId = ["B604"] := by
  obtain ⟨rules, tree, out, chosen, parsed, done, reported, found⟩ := exists_scan_twoMarks
  have everything : twoMarks.suppressedOn 2 = some [] := by decide +kernel
  obtain ⟨f, alone⟩ : ∃ f, twoMarks.findings rules tree = [f] := by
    rw [← length_eq_one_iff]
    simpa using congrArg List.length found
  have place : f.issue.testId = "B604" ∧ f.issue.line = some 2 := by simpa [alone] using found
  refine ⟨rules, tree, out, chosen, parsed, done, f, alone, place.1, place.2, everything, ?_, ?_⟩
  · exact ⟨2, by simp [Issue.extent, place.2], [], everything, .inl rfl⟩
  · simpa using congrArg (List.map Prod.fst) reported

open Suppression in
/-- A comment that lists ids leaves findings of other tests alone exactly if one of the ids is known; else it suppresses
them. Beside other comments, a finding is reported if those consulted name other tests. -/
theorem numbered_reported_iff {o : ScanOptions} {d : Document} {out : Outcome} (heed : o.heedComments = true)
    (done : d.scan o = (out, none)) {line : Int} {c : Source.Comment} (placed : d.commentOn line = some c)
    {w : Wording} {l : Listing} (written : Text.ofString c.text = w.comment l)
    (numbered : ∀ t ∈ l.tests, Numbered t) :
    ∃ tree, Source.parse d.bytes = .ok tree ∧
      out.issues = ((d.findings o.rules tree).filter fun f => !f.Silenced d.suppressedOn).map Finding.issue ∧
      ∀ f ∈ d.findings o.rules tree, f.issue.testId ∉ l.tests →
        (¬ f.Silenced d.suppressedOn ↔ f.consulted d.suppressedOn = [] ∨ f.Misled d.suppressedOn) ∧
        ((∀ other ∈ f.issue.extent, other ≠ line → d.suppressedOn other = none) →
          (¬ f.Silenced d.suppressedOn ↔ (line ∈ f.extent → ∃ t ∈ l.heard, Catalogue.isKnown t = true))) := by
  obtain ⟨tree, parsed, issues⟩ := exists_tree_of_scan heed done
  refine ⟨tree, parsed, issues, fun f found unlisted => ⟨?_, fun alone => ?_⟩⟩
  · rw [Finding.silenced_iff, not_not]
  · obtain ⟨ids, read, named⟩ := read_comment_numbered w numbered
    have given : d.suppressedOn line = some ids := by
      rw [suppressedOn, placed, Option.bind_some, written, read]
    have other : f.issue.testId ∉ ids := fun listed =>
      unlisted (Listing.mem_tests_of_mem_heard ((named _).mp listed).1)
    have empty : ids = [] ↔ ¬ ∃ t ∈ l.heard, Catalogue.isKnown t = true := by
      simp [eq_nil_iff_forall_not_mem, named]
    rw [(located_of_mem_findings found).silenced_iff_of_alone given alone, empty]
    simp [other]

def remarked (comment : String) : Document :=
  let bytes := Utf8.encode ("assert 1  " ++ comment ++ "\n").toList
  { name := "./t.py", bytes, contents := some bytes, module := .ok "t" }

def idPair : Suppression.Listing := .next "B999" .blank (.only "B602")

def halfKnown : Document := remarked "# nosec B999 B602"

theorem halfKnown_reported : ∃ rules tree out f,
    RuleSet.ofProfile { includes := ["B101"] } Settings.standard.option = .ok rules ∧
      Source.parse halfKnown.bytes = .ok tree ∧ halfKnown.scan { rules } = (out, none) ∧
      f ∈ halfKnown.findings rules tree ∧ f.issue.testId = "B101" ∧ ¬ f.Silenced halfKnown.suppressedOn := by
  obtain ⟨rules, tree, out, chosen, parsed, done, -, found⟩ :
      ∃ rules tree out, RuleSet.ofProfile { includes := ["B101"] } Settings.standard.option = .ok rules ∧
        Source.parse halfKnown.bytes = .ok tree ∧ halfKnown.scan { rules } = (out, none) ∧
        out.issues.map (fun i => (i.testId, i.extent)) = [("B101", [1, 1])] ∧
        ((halfKnown.findings rules tree).map fun f => (f.issue.testId, f.issue.extent)) = [("B101", [1, 1])] :=
    exists_scan_of_eval (fun i => (i.testId, i.extent)) (by decide +kernel)
  have placed : halfKnown.commentOn 1 = some ⟨1, "# nosec B999 B602"⟩ := by decide +kernel
  have written : Text.ofString "# nosec B999 B602" = Suppression.Wording.comment {} idPair := by decide +kernel
  have numbered : ∀ t ∈ idPair.tests, Suppression.Numbered t := by
    intro t listed
    simp only [idPair, Suppression.Listing.tests, mem_cons, not_mem_nil, or_false] at listed
    rcases listed with rfl | rfl
    · exact ⟨['9', '9', '9'], by decide, by decide, rfl⟩
    · exact ⟨['6', '0', '2'], by decide, by decide, rfl⟩
  obtain ⟨again, same, -, fate⟩ := numbered_reported_iff rfl done placed written numbered
  obtain rfl : tree = again := by simpa [parsed] using same
  obtain ⟨f, alone⟩ : ∃ f, halfKnown.findings rules tree = [f] := by
    rw [← length_eq_one_iff]
    simpa using congrArg List.length found
  have place : f.issue.testId = "B101" ∧ f.issue.extent = [1, 1] := by simpa [alone] using found
  have present : f ∈ halfKnown.findings rules tree := by simp [alone]
  refine ⟨rules, tree, out, f, chosen, parsed, done, present, place.1, ?_⟩
  have unlisted : f.issue.testId ∉ idPair.tests := by
    rw [place.1]
    decide
  refine ((fate f present unlisted).2 ?_).mpr fun _ => ⟨"B602", by decide, by decide⟩
  simp [place.2]

/-- An id that no test has suppresses the findings of all tests. -/
theorem remarked_suppressed : ∃ rules tree out,
    RuleSet.ofProfile { includes := ["B101"] } Settings.standard.option = .ok rules ∧
      Source.parse (remarked "# nosec B999").bytes = .ok tree ∧
      (remarked "# nosec B999").scan { rules } = (out, none) ∧ out.issues.map Issue.testId = [] ∧
      ((remarked "# nosec B999").findings rules tree).map (fun f => f.issue.testId) = ["B101"] :=
  exists_scan_of_eval Issue.testId (by decide +kernel)

end Document

end SourceAudit
