import SourceAudit.Proofs.Coverage
import SourceAudit.Proofs.Grading

/-! Which findings can be exported: those whose text takes no lone surrogate from a literal, if their lines can be
shown. -/

namespace SourceAudit

open List

variable {p : Profile} {option : String → Answer Value} {o : ScanOptions} {d : Document} {tree : Node} {out : Outcome}
  {i : Issue}

theorem Segments.mem_of_mem_replace {α : Type} [BEq α] {needle by_ xs : List α} {a : α}
    (there : a ∈ replace needle by_ xs) : a ∈ by_ ∨ a ∈ xs := by
  have steps : ∀ n xs, a ∈ replace.go needle by_ n xs → a ∈ by_ ∨ a ∈ xs := by
    intro n xs
    fun_induction replace.go needle by_ n xs with
    | case1 xs => exact .inr
    | case2 n => exact .inr
    | case3 n x xs _ ih =>
      intro there
      rcases mem_append.mp there with put | later
      · exact .inl put
      · exact (ih later).imp_right mem_of_mem_drop
    | case4 n x xs _ ih =>
      intro there
      rcases mem_cons.mp there with rfl | later
      · exact .inr mem_cons_self
      · exact (ih later).imp_right (mem_cons_of_mem x)
  unfold replace at there
  split at there
  · exact .inr there
  · exact steps _ _ there

/-- Literals at a stop, and in nodes around it inside the whole, are literals of the program. -/
theorem Walker.hasText_of_mem_below (n : Node) : ∀ (ancestors : List Ancestor) (w : Walker),
    ∀ s ∈ (below ancestors n w).1, (∀ t, s.visit.node.HasText t → n.HasText t) ∧
      ∀ a ∈ s.visit.ancestors, a ∈ ancestors ∨ ∀ t, a.node.HasText t → n.HasText t := by
  induction n using Node.induction_on_children with
  | step n ih =>
    intro ancestors w s met
    rw [below_eq] at met
    obtain ⟨⟨⟨c, next⟩, slot⟩, mem, _, met, -⟩ := mem_along met
    have child : (c, next) ∈ n.children := mem_of_getElem? (mem_zipIdx_iff_getElem?.mp mem)
    have inside : ∀ t, c.HasText t → n.HasText t := by
      intro t within
      obtain ⟨group, member, placed⟩ := mem_flatMap.mp child
      exact .inside (mem_flatten.mpr ⟨group, member, Node.mem_of_mem_withNext placed⟩) within
    have above : ∀ a ∈ (⟨n, slot⟩ :: ancestors : List Ancestor),
        a ∈ ancestors ∨ ∀ t, a.node.HasText t → n.HasText t := by
      intro a mem
      rcases mem_cons.mp mem with rfl | outer
      · exact .inr fun _ within => within
      · exact .inl outer
    rcases mem_cons.mp met with rfl | inner
    · exact ⟨inside, above⟩
    · obtain ⟨own, around⟩ := ih c next child _ _ s inner
      refine ⟨fun t within => inside t (own t within), ?_⟩
      intro a mem
      rcases around a mem with known | below
      · exact above a known
      · exact .inr fun t within => inside t (below t within)

theorem Stop.node_of_call {s : Stop} {n : Node} (called : s.checkedContext.call = some n) : s.visit.node = n := by
  obtain ⟨_, same⟩ := s.exists_checkedContext_eq
  rw [same] at called
  change s.context.call = some n at called
  unfold context at called
  dsimp only at called
  split at called <;> cases called
  rfl

theorem Document.hasText_of_mem_looks {rules : RuleSet} {l : Context × ActiveRule} (mem : l ∈ d.looks rules tree)
    {t : Text}
    (held : l.1.HasText t) : tree.HasText t := by
  rcases mem_looks_iff.mp mem with ⟨s, visit, _, met, -, r, -, rfl⟩ | ⟨r, -, rfl⟩
  · have member : s ∈ d.stops tree := mem_of_getElem? (mem_zipIdx_iff_getElem?.mp met)
    obtain ⟨own, around⟩ := Walker.hasText_of_mem_below tree [] _ s member
    obtain ⟨here, above, -⟩ := d.known_sight s visit
    cases held with
    | node named within => exact own t (Option.some.inj (here.symm.trans named) ▸ within)
    | call named within => exact own t (Stop.node_of_call named ▸ within)
    | around mem within =>
      rcases around _ (above ▸ mem) with outer | inner
      · cases outer
      · exact inner t within
  · -- a look at the whole file is at no node
    cases held with
    | node named | call named => cases named
    | around mem => cases mem

theorem Rule.proper_blacklist {c : Context} {data : Value} (tabled : Banned.Tabled data)
    (found : blacklistRun c data = .ok (some i)) : i.text.Proper := by
  obtain ⟨check, v, _, entered, items, _, mem, _, made, given⟩ := exists_of_blacklistRun found
  obtain ⟨_, -, rfl⟩ := tabled check v entered
  obtain rfl := Except.ok.inj items
  obtain ⟨b, -, rfl⟩ := mem_map.mp mem
  obtain ⟨_, -, -, t, told, -, -, rfl, -, -, -, text⟩ := exists_of_bannedIssue made
  rw [b.entry_record.2, Except.ok.injEq, Value.str, Value.text.injEq] at told
  have named : t.Proper := by
    rcases given with ⟨s, same⟩ | ⟨w, _, names, held, _, member, equal⟩
    · rw [Value.text.inj same]
      exact Text.proper_ofString s
    · rw [b.entry_record.1, Except.ok.injEq] at names
      subst names
      obtain rfl := Except.ok.inj held
      obtain ⟨s, -, rfl⟩ := mem_map.mp member
      have same : t = Text.ofString s := by simpa [Value.equals, Value.str] using equal
      rw [same]
      exact Text.proper_ofString s
  intro q there
  rw [text, ← told] at there
  rcases Segments.mem_of_mem_replace there with put | kept
  · exact named q put
  · exact Text.proper_ofString _ q kept

theorem Document.drawnFrom_of_mem_findings {rules : RuleSet} (chosen : RuleSet.ofProfile p option = .ok rules)
    (plain : p.blacklist.truthy = false) {f : Finding} (found : f ∈ d.findings rules tree) :
    f.issue.text.DrawnFrom tree.HasText := by
  obtain ⟨l, mem, seen⟩ := mem_filterMap.mp found
  obtain ⟨raw, ran, completed, -, -⟩ := Finding.exists_of_seen seen
  rw [completed.text]
  rcases RuleSet.of_mem_ofProfile chosen (mem_rules_of_mem_looks mem) with own | ⟨_, -, same⟩
  · exact (Rule.only_catalogue l.2.rule own raw ran).drawn.mono fun t held => hasText_of_mem_looks mem held
  · rw [same] at ran
    exact (Rule.proper_blacklist (Profile.tabled_bannedData plain) ran).drawnFrom

namespace Issue

/-- The record of the issue is made, and its text stands there. -/
def Exported (files : LineSource) (lines : Int) (i : Issue) : Prop :=
  ∃ es, i.recordEntries files lines = .ok es ∧ Value.lookup (.str "issue_text") es = some (.text i.text)

theorem exported_iff {files : LineSource} {lines : Int} : i.Exported files lines ↔ i.Visible lines ∧ i.text.Proper := by
  have held (code : Text) : Value.lookup (.str "issue_text") (i.fields ++ [(.str "code", .text code)]) =
      some (.text i.text) := by
    simp [fields, Value.lookup, Value.equals_str]
  have shown_iff : (∃ code, i.code files lines false = .ok code) ↔ i.Visible lines := exists_code_iff
  rw [← shown_iff, ← Text.isSome_encodeText?_iff]
  constructor
  · rintro ⟨es, made, -⟩
    obtain ⟨fields, encoded, made⟩ := Answers.bind_eq_ok.mp made
    obtain ⟨code, shown, -⟩ := Answers.bind_eq_ok.mp made
    refine ⟨⟨code, shown⟩, ?_⟩
    cases known : Utf8.encodeText? i.text with
    | some b => rfl
    | none => simp [entries, known, throw, throwThe, MonadExceptOf.throw, bind, Except.bind] at encoded
  · rintro ⟨⟨code, shown⟩, encoded⟩
    have made : i.entries = .ok i.fields := Report.entries_of_proper (Text.isSome_encodeText?_iff.mp encoded)
    exact ⟨_, by simp only [recordEntries, made, shown, bind, Except.bind, pure, Except.pure], held code⟩

end Issue

namespace Document

/-- A finding is exported exactly if its lines can be shown, as in a file, and no lone surrogate of a literal is in its
text. -/
theorem exported_iff_no_surrogate (chosen : RuleSet.ofProfile p option = .ok o.rules)
    (plain : p.blacklist.truthy = false) (parsed : Source.parse d.bytes = .ok tree) (done : d.scan o = (out, none))
    (found : i ∈ out.issues) (files : LineSource) (lines : Int) :
    (i.Exported files lines ↔ i.Visible lines ∧
      ∀ t, tree.HasText t → ∀ q ∈ t, q.isSurrogate = true → q ∉ i.text) ∧
    (d.name ≠ Issue.inputName → i.Visible lines) := by
  obtain ⟨tree', own, kept⟩ := issues_of_scan done
  obtain rfl : tree = tree' := Except.ok.inj (parsed.symm.trans own)
  have file := filename_of_mem_issues done found
  rw [kept, Outcome.issuesKept, mem_map] at found
  obtain ⟨f, kept, rfl⟩ := found
  have found := (mem_filter.mp kept).1
  have drawn := drawnFrom_of_mem_findings chosen plain found
  constructor
  · rw [Issue.exported_iff]
    apply and_congr_right
    intro _
    constructor
    · intro proper t _ q _ odd there
      exact absurd odd (by simp [proper q there])
    · intro free q there
      rw [← Bool.not_eq_true]
      intro odd
      obtain ⟨t, held, member⟩ := drawn q there odd
      exact free t held q member odd there
  · intro other
    obtain ⟨l, -, seen⟩ := mem_filterMap.mp found
    obtain ⟨_, -, completed, -, -⟩ := Finding.exists_of_seen seen
    obtain ⟨n, line⟩ := Option.isSome_iff_exists.mp completed.placed
    exact ⟨n, line, fun typed => absurd (file.symm.trans typed) other⟩

def opening (name : String) : Document :=
  let bytes := Utf8.encode ("chmod('" ++ name ++ "', 7)\n").toList
  { name := "./t.py", bytes, contents := some bytes, module := .ok "t" }

def told (i : Issue) : String × Bool := (i.testName, i.text.all fun q => !q.isSurrogate)

theorem exists_found_opening (name : String) (proper : Bool)
    (ends : ((RuleSet.ofProfile { includes := ["B103"] } Settings.standard.option).toOption.bind fun rules =>
      (Source.parse (opening name).bytes).toOption.map fun tree =>
        (((opening name).scan { rules }).2, ((opening name).scan { rules }).1.issues.map told,
          ((opening name).findings rules tree).map fun f => told f.issue)) =
      some (none, [("set_bad_file_permissions", proper)], [("set_bad_file_permissions", proper)])) :
    ∃ tree out i, Source.parse (opening name).bytes = .ok tree ∧
      (opening name).scan { rules := RuleSet.standard } = (out, none) ∧ i ∈ out.issues ∧
      i.testName = "set_bad_file_permissions" ∧ (i.text.Proper ↔ proper = true) := by
  obtain ⟨rules, tree, few, chosen, parsed, done, reported, -⟩ := exists_scan_of_eval told ends
  obtain ⟨i, alone, same⟩ := map_eq_singleton_iff.mp reported
  rw [told, Prod.mk.injEq] at same
  -- all rules find what the one rule finds
  have within : ∀ id ∈ ({ includes := ["B103"] } : Profile).selected, id ∈ ({} : Profile).selected := by
    decide +kernel
  obtain ⟨narrow, chosen', part⟩ := RuleSet.exists_part_of_within ⟨rfl, rfl⟩ within RuleSet.ofProfile_standard
  obtain rfl : rules = narrow := Except.ok.inj (chosen.symm.trans chosen')
  have ended := skip_scan_eq (o := { rules }) (p := { rules := RuleSet.standard }) ⟨rfl, rfl⟩ part.placed rfl
    (rfl : (opening name).bytes = (opening name).bytes)
  rw [done] at ended
  obtain ⟨many, again⟩ : ∃ many, (opening name).scan { rules := RuleSet.standard } = (many, none) :=
    ⟨_, Prod.ext rfl ended.symm⟩
  have there : i ∈ few.issues.filter fun i => !i.ofBlacklist := by simp [alone, Issue.ofBlacklist, same.1]
  rw [filter_issues_of_part part done again] at there
  refine ⟨tree, many, i, parsed, again, (mem_filter.mp there).1, same.1, ?_⟩
  rw [← same.2]
  simp [Text.Proper]

theorem opened_file_exported : ∃ tree out i, Source.parse (opening "abc").bytes = .ok tree ∧
    (opening "abc").scan { rules := RuleSet.standard } = (out, none) ∧ i ∈ out.issues ∧
    i.testName = "set_bad_file_permissions" ∧ i.Exported (fun _ => []) 3 := by
  obtain ⟨tree, out, i, parsed, done, found, test, proper⟩ := exists_found_opening "abc" true (by decide +kernel)
  have exported := exported_iff_no_surrogate RuleSet.ofProfile_standard rfl parsed done found (fun _ => []) 3
  refine ⟨tree, out, i, parsed, done, found, test, exported.1.mpr ⟨exported.2 (by decide), ?_⟩⟩
  intro t _ q _ odd there
  exact absurd odd (by simp [proper.mpr rfl q there])

/-- A file whose name is a lone surrogate is found, but not exported. -/
theorem surrogate_kept_back : ∃ tree out i, Source.parse (opening "\\ud800").bytes = .ok tree ∧
    (opening "\\ud800").scan { rules := RuleSet.standard } = (out, none) ∧ i ∈ out.issues ∧
    i.testName = "set_bad_file_permissions" ∧ ∀ files lines, ¬ i.Exported files lines := by
  obtain ⟨tree, out, i, parsed, done, found, test, proper⟩ :=
    exists_found_opening "\\ud800" false (by decide +kernel)
  refine ⟨tree, out, i, parsed, done, found, test, ?_⟩
  intro files lines exported
  exact absurd (proper.mp (Issue.exported_iff.mp exported).2) (by decide)

end Document

end SourceAudit
