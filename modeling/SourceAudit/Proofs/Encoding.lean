import SourceAudit.Proofs.Formats

/-! Reports that can be encoded: tables, pages and listings if files and issues have no surrogates, suites and records
always. -/

namespace SourceAudit

open Answers List Text Segments

namespace Text

theorem Proper.sub {t u : Text} (proper : Proper u) (within : t ⊆ u) : Proper t := fun p there => proper p (within there)

theorem Proper.trim {t : Text} (proper : Proper t) (out : CodePoint → Bool) : Proper (trim out t) := by
  apply proper.sub
  intro p there
  have kept := (dropWhile_suffix _).subset (mem_reverse.mp there)
  exact (dropWhile_suffix _).subset (mem_reverse.mp kept)

theorem Proper.splitOn {t : Text} (proper : Proper t) (sep : CodePoint) :
    ∀ piece ∈ Segments.splitOn sep t, Proper piece := by
  induction t with
  | nil => simp [Segments.splitOn]
  | cons p rest ih =>
    rw [proper_cons] at proper
    have later := ih proper.2
    rw [Segments.splitOn]
    split
    · exact forall_mem_cons.mpr ⟨proper_nil, later⟩
    · split
      · exact forall_mem_singleton.mpr (proper_point proper.1)
      · rename_i piece pieces pieced
        rw [pieced, forall_mem_cons] at later
        exact forall_mem_cons.mpr ⟨proper_cons.mpr ⟨proper.1, later.1⟩, later.2⟩

theorem proper_join {sep : Text} (between : Proper sep) {parts : List Text} (each : ∀ t ∈ parts, Proper t) :
    Proper (join sep parts) := forall_mem_join between each

end Text

theorem Source.proper_of_mem_shownLines {b : Bytes} {l : Text} (mem : l ∈ Source.shownLines b) : Text.Proper l := by
  obtain ⟨_, -, rfl⟩ := mem_map.mp mem
  exact proper_ofChars _

theorem Session.proper_of_mem_lineSource {t : FileTree} {name : String} {l : Text}
    (mem : l ∈ Session.lineSource t name) : Text.Proper l := by
  unfold Session.lineSource at mem
  split at mem
  · exact Source.proper_of_mem_shownLines mem
  · simp at mem

theorem Value.proper_render_ints (ns : List Int) : Text.Proper (Value.list (ns.map .int)).render := by
  have items : ∀ t ∈ Value.renderItems (ns.map .int), Text.Proper t := by
    induction ns with
    | nil => simp [Value.renderItems]
    | cons n rest ih =>
      exact forall_mem_cons.mpr ⟨proper_ofString _, ih⟩
  rw [Value.render]
  simp only [proper_append, proper_ofString, true_and, and_true]
  exact proper_join (proper_ofString _) items

/-- An issue with ranks whose text can be encoded. -/
structure Issue.Printable (i : Issue) : Prop where
  ranked : i.Ranked
  text : Text.Proper i.text

namespace Report

/-- The lines of all files can be encoded. -/
def Legible (r : Report) : Prop := ∀ name, ∀ l ∈ r.files name, Text.Proper l

theorem proper_tableCell {t : Text} (proper : Text.Proper t) : Text.Proper (tableCell t) := by
  unfold tableCell
  split
  · simp only [proper_append, proper_flatMap]
    refine ⟨⟨proper_point rfl, ?_⟩, proper_point rfl⟩
    intro p there
    split
    · exact Text.proper_cons.mpr ⟨rfl, proper_point rfl⟩
    · exact proper_point (proper p there)
  · exact proper

theorem proper_tableRow {cells : List Text} (each : ∀ t ∈ cells, Text.Proper t) : Text.Proper (tableRow cells) := by
  have ending : Text.Proper [13, 10] := Text.proper_cons.mpr ⟨rfl, proper_point rfl⟩
  refine proper_append.mpr ⟨proper_join (proper_point rfl) ?_, ending⟩
  intro t mem
  obtain ⟨cell, there, rfl⟩ := mem_map.mp mem
  exact proper_tableCell (each cell there)

theorem proper_tableCells {i : Issue} (proper : Text.Proper i.text) {cells : List Text}
    (made : tableCells i = .ok cells) : ∀ t ∈ cells, Text.Proper t := by
  simp only [tableCells, bind_eq_ok] at made
  obtain ⟨-, -, made⟩ := made
  split at made
  · simp [throw, throwThe, MonadExceptOf.throw, bind, Except.bind] at made
  · obtain rfl := pure_eq_ok.mp made
    have line : Text.Proper (i.line.elim [] shownNumber) := by
      cases i.line with
      | none => exact proper_nil
      | some n => exact proper_ofString _
    simp [shownNumber, proper, line, Value.proper_render_ints]

variable {r : Report} {found : Findings} {t : Text}

theorem proper_table (judged : r.findings = .ok found) (proper : ∀ i ∈ found.issues, Text.Proper i.text)
    (made : r.table = .ok t) : Text.Proper t := by
  rw [table, judged] at made
  obtain ⟨_, mem, rfl⟩ := map_eq_ok.mp made
  have columns : ∀ t ∈ tableColumns, Text.Proper t := by simp [tableColumns]
  refine proper_append.mpr ⟨proper_tableRow columns, proper_flatten.mpr ?_⟩
  intro row there
  obtain ⟨_, among, rfl⟩ := mem_map.mp there
  obtain ⟨i, issue, own⟩ := (mem_mapM_iff mem).mp among
  exact proper_tableRow (proper_tableCells (proper i issue) own)

theorem proper_escapeMarkup {t : Text} (proper : Text.Proper t) : Text.Proper (escapeMarkup t) := by
  unfold escapeMarkup
  rw [proper_flatMap]
  intro p there
  split_ifs
  all_goals first | exact proper_ofString _ | exact proper_point (proper p there)

theorem proper_pageCode (legible : r.Legible) {i : Issue} {code : Text}
    (made : pageCode r i = .ok code) : Text.Proper code := by
  obtain ⟨_, there, rfl⟩ := map_eq_ok.mp made
  exact ((Issue.proper_code legible there).trim _).sub (dropWhile_suffix _).subset

theorem proper_issueText (n : Nat) {i : Issue} (proper : Text.Proper i.text) {code others : Text}
    (coded : Text.Proper code) (also : Text.Proper others) : Text.Proper (issueText n i code others) := by
  unfold issueText
  simp only [proper_append, proper_ofString, showNumber, proper, coded, also, and_true, true_and]
  cases i.line <;> exact proper_ofString _

theorem proper_issueBlock (legible : r.Legible) {n : Nat} {i : Issue}
    (proper : Text.Proper i.text) {candidates : List Issue} (made : issueBlock r n i candidates = .ok t) :
    Text.Proper t := by
  unfold issueBlock at made
  split at made
  · obtain ⟨code, shown, rfl⟩ := map_eq_ok.mp made
    refine proper_issueText n proper ?_ proper_nil
    simp [codeBlock, proper_escapeMarkup (proper_pageCode legible shown)]
  · obtain ⟨codes, shown, rfl⟩ := map_eq_ok.mp made
    refine proper_issueText n proper proper_nil ?_
    have each : ∀ code ∈ codes, Text.Proper (escapeMarkup code) := by
      intro code there
      obtain ⟨c, -, own⟩ := (mem_mapM_iff shown).mp there
      exact proper_escapeMarkup (proper_pageCode legible own)
    simpa [candidateBlock] using each

theorem proper_skippedBlock (skipped : List (String × String)) : Text.Proper (skippedBlock skipped) := by
  unfold skippedBlock
  split
  · exact proper_nil
  · simp

theorem proper_metricsBlock (loc nosec : Int) : Text.Proper (metricsBlock loc nosec) := by simp [metricsBlock, showNumber]

theorem proper_page (legible : r.Legible) (judged : r.findings = .ok found)
    (proper : ∀ i ∈ found.issues, Text.Proper i.text) (made : r.page = .ok t) : Text.Proper t := by
  unfold page at made
  rw [judged] at made
  simp only [bind_eq_ok, pure_eq_ok, Except.ok.injEq, exists_eq_left'] at made
  obtain ⟨_, -, blocks, shown, _, -, _, -, rfl⟩ := made
  have each : ∀ block ∈ blocks, Text.Proper block := by
    intro block there
    obtain ⟨⟨f, n⟩, mem, own⟩ := (mem_mapM_iff shown).mp there
    refine proper_issueBlock legible (proper f.1 ?_) own
    rw [Findings.issues_eq]
    exact mem_map_of_mem (fst_mem_of_mem_zipIdx mem)
  have head : Text.Proper pageHead := proper_ofString _
  simp only [proper_append, proper_ofString, proper_flatten, proper_metricsBlock, proper_skippedBlock,
    head, and_true, true_and]
  exact each

theorem proper_referStrays (t : Text) : Text.Proper (referStrays t) := by
  unfold referStrays
  rw [proper_flatMap]
  intro p _
  split
  · exact proper_ofString _
  · rename_i plain
    exact proper_point (by simpa using plain)

theorem proper_suite (made : r.suite = .ok t) : Text.Proper t := by
  obtain ⟨_, -, rfl⟩ := map_eq_ok.mp made
  exact proper_append.mpr ⟨proper_ofString _, proper_referStrays _⟩

theorem proper_json (made : r.json = .ok t) : Text.Proper t := by
  obtain ⟨-, -, -, -, -, -, rfl⟩ := json_eq_ok.mp made
  exact proper_ofString _

theorem proper_yaml (made : r.yaml = .ok t) : Text.Proper t := by
  simp only [yaml, bind_eq_ok, pure_eq_ok] at made
  obtain ⟨-, -, -, -, -, -, rfl⟩ := made
  exact Yaml.proper_render _

/-- What is put around the parts of a listing can be encoded. -/
structure Decoration.Proper (d : Decoration) : Prop where
  heading {t : Text} : Text.Proper t → Text.Proper (d.heading t)
  start {severity : String} {t : Text} : d.issueStart severity = .ok t → Text.Proper t
  ending : Text.Proper d.issueEnd

theorem proper_undecorated : undecorated.Proper where
  heading proper := proper
  start made := by
    cases made
    exact proper_nil
  ending := proper_nil

theorem proper_colour (code : String) : Text.Proper (colour code) :=
  proper_append.mpr ⟨proper_point rfl, proper_ofString _⟩

theorem proper_coloured : coloured.Proper where
  heading proper := proper_append.mpr ⟨proper_append.mpr ⟨proper_colour _, proper⟩, proper_colour _⟩
  start {severity t} made := by
    have shown : severityColour severity = .ok t := made
    unfold severityColour at shown
    split at shown
    all_goals first | cases shown; exact proper_colour _ | cases shown
  ending := proper_colour "0"

theorem proper_showInt (n : Int) : Text.Proper (showInt n) := proper_ofString _

theorem proper_joinLines {ts : List Text} (each : ∀ t ∈ ts, Text.Proper t) : Text.Proper (joinLines ts) :=
  proper_join (proper_point rfl) each

theorem proper_capitalized (rank : Rank) : Text.Proper (capitalized rank.name) := by
  have spelled : capitalized rank.name ∈ ["Undefined", "Low", "Medium", "High"].map ofString := by
    cases rank <;> decide +kernel
  obtain ⟨s, -, same⟩ := mem_map.mp spelled
  rw [← same]
  exact proper_ofString s

variable {d : Decoration} (plain : d.Proper) (legible : r.Legible)

include plain in
theorem proper_fileDetails (s : Session) : Text.Proper (fileDetails d s) := by
  have headed {t : Text} (proper : Text.Proper t) : Text.Proper (d.heading t) := plain.heading proper
  apply proper_joinLines
  simp only [forall_mem_append, forall_mem_singleton, forall_mem_map]
  refine ⟨⟨⟨headed ?_, ?_⟩, headed ?_⟩, ?_⟩
  · simp [proper_showInt]
  · simp [proper_showInt]
  · simp [proper_showInt]
  · simp

theorem proper_rankLines {criterion : String} {label : Rank → String} {ts : List Text}
    (made : rankLines r criterion label = .ok ts) : ∀ t ∈ ts, Text.Proper t := by
  obtain ⟨_, mem, rfl⟩ := map_eq_ok.mp made
  refine forall_mem_cons.mpr ⟨by simp, ?_⟩
  intro t there
  obtain ⟨_, -, own⟩ := (mem_mapM_iff mem).mp there
  obtain ⟨n, -, rfl⟩ := map_eq_ok.mp own
  simp [proper_capitalized, proper_showInt]

include plain in
theorem proper_rankDetails (made : rankDetails d r = .ok t) : Text.Proper t := by
  simp only [rankDetails, bind_eq_ok, pure_eq_ok] at made
  obtain ⟨_, severe, _, sure, rfl⟩ := made
  apply proper_joinLines
  rw [cons_append, forall_mem_cons, forall_mem_append]
  exact ⟨plain.heading (Text.proper_ofString _), proper_rankLines severe, proper_rankLines sure⟩

include plain in
theorem proper_issueHead {margin start line column : Text} (blank : Text.Proper margin) (begun : Text.Proper start)
    (placed : Text.Proper line ∧ Text.Proper column) {i : Issue} (ranked : i.Ranked) (proper : Text.Proper i.text) :
    ∀ t ∈ issueHead d margin start line column i, Text.Proper t := by
  obtain ⟨severe, severity⟩ := ranked.exists_rank .severity
  obtain ⟨sure, confidence⟩ := ranked.exists_rank .confidence
  have ranks : Text.Proper (capitalized i.severity) ∧ Text.Proper (capitalized i.confidence) := by
    rw [show i.severity = severe.name from severity, show i.confidence = sure.name from confidence]
    exact ⟨proper_capitalized severe, proper_capitalized sure⟩
  simp [issueHead, blank, begun, placed, ranks, proper, plain.ending]

include plain legible in
theorem proper_issueLines {margin : Text} (blank : Text.Proper margin) {located : Bool} {i : Issue}
    (printable : i.Printable) (made : issueLines d r margin located i = .ok t) : Text.Proper t := by
  simp only [issueLines, bind_eq_ok] at made
  obtain ⟨start, begun, made⟩ := made
  have head {line column : Text} (placed : Text.Proper line ∧ Text.Proper column) :=
    proper_issueHead plain blank (plain.start begun) placed printable.ranked printable.text
  split at made
  · obtain ⟨_, shown, rfl⟩ := map_eq_ok.mp made
    have line : Text.Proper (i.line.elim (Text.ofString "None") showInt) := by
      cases i.line <;> exact Text.proper_ofString _
    apply proper_joinLines
    rw [forall_mem_append, forall_mem_map]
    refine ⟨head ⟨line, proper_showInt _⟩, ?_⟩
    intro piece mem
    exact Text.proper_append.mpr ⟨blank, (Issue.proper_code legible shown).splitOn 10 piece mem⟩
  · obtain rfl := pure_eq_ok.mp made
    exact proper_joinLines (head ⟨Text.proper_nil, Text.proper_nil⟩)

include plain legible in
theorem proper_findingLines {f : Issue × List Issue} (own : f.1 ∈ f.2) (printable : ∀ i ∈ f.2, i.Printable)
    {ts : List Text} (made : findingLines d r f.1 f.2 = .ok ts) : ∀ t ∈ ts, Text.Proper t := by
  have separator : Text.Proper separatorLine := Text.proper_replicate rfl 50
  unfold findingLines at made
  split at made
  · obtain ⟨t, shown, rfl⟩ := map_eq_ok.mp made
    simp [separator, proper_issueLines plain legible Text.proper_nil (printable f.1 own) shown]
  · simp only [bind_eq_ok, pure_eq_ok] at made
    obtain ⟨shown, written, _, begun, rfl⟩ := made
    have others : ∀ ts ∈ shown, ∀ t ∈ ts, Text.Proper t := by
      intro ts mem
      obtain ⟨c, among, one⟩ := (mem_mapM_iff written).mp mem
      obtain ⟨t, lines, rfl⟩ := map_eq_ok.mp one
      have blank : Text.Proper (List.replicate 10 32) := Text.proper_replicate rfl 10
      rw [forall_mem_cons, forall_mem_singleton]
      exact ⟨proper_issueLines plain legible blank (printable c among) lines, Text.proper_point rfl⟩
    have head := proper_issueLines plain legible Text.proper_nil (printable f.1 own) begun
    simp only [forall_mem_append, forall_mem_singleton, forall_mem_flatten]
    rw [forall_mem_cons, forall_mem_singleton]
    exact ⟨⟨⟨head, Text.proper_ofString _⟩, others⟩, separator⟩

variable (judged : r.findings = .ok found) (settled : found.Settled) (printable : ∀ i ∈ found.issues, i.Printable)

include plain legible judged settled printable in
theorem proper_findingsText (made : findingsText d r = .ok t) : Text.Proper t := by
  unfold findingsText at made
  rw [judged] at made
  simp only [bind_eq_ok, Except.ok.injEq, exists_eq_left'] at made
  split at made
  · obtain rfl := pure_eq_ok.mp made
    exact Text.proper_ofString _
  · obtain ⟨_, mem, rfl⟩ := map_eq_ok.mp made
    apply proper_joinLines
    rw [forall_mem_flatten]
    intro ts there
    obtain ⟨f, among, own⟩ := (mem_mapM_iff mem).mp there
    have candidates : ∀ i ∈ f.2, i.Printable := fun i one => printable i ((settled f among).2 i one)
    exact proper_findingLines plain legible (settled f among).1 candidates own

include plain in
theorem proper_listingText {found ranks : Text} (shown : Text.Proper found) (counted : Text.Proper ranks)
    (loc nosec named : Int) (skipped : List (String × String)) :
    Text.Proper (listingText d r found ranks loc nosec named skipped) := by
  have headed {t : Text} (proper : Text.Proper t) : Text.Proper (d.heading t) := plain.heading proper
  unfold listingText
  refine Text.proper_append.mpr ⟨proper_joinLines ?_, Text.proper_point rfl⟩
  have details : ∀ t ∈ if r.session.verbose then [fileDetails d r.session] else [], Text.Proper t := by
    split
    · exact forall_mem_singleton.mpr (proper_fileDetails plain r.session)
    · exact forall_mem_nil _
  have numbers : Text.Proper (showInt loc) ∧ Text.Proper (showInt nosec) ∧ Text.Proper (showInt named) :=
    ⟨proper_showInt _, proper_showInt _, proper_showInt _⟩
  have start : Text.Proper (d.heading ("Run started:" ++ r.now.dateTime)) := headed (by simp)
  have end_ : Text.Proper (d.heading ("Files skipped (" ++ showInt skipped.length ++ "):")) :=
    headed (by simp [proper_showInt])
  simp only [forall_mem_append, forall_mem_map]
  refine ⟨⟨⟨⟨⟨?_, details⟩, ?_⟩, ?_⟩, ?_⟩, ?_⟩
  · simpa using start
  · simp [headed, shown, numbers]
  · split <;> simp [numbers]
  · simpa using ⟨counted, end_⟩
  · simp

include plain legible judged settled printable in
theorem proper_listing (made : listing d r = .ok (some t)) : Text.Proper t := by
  unfold listing at made
  rw [judged] at made
  simp only [bind_eq_ok, Except.ok.injEq, exists_eq_left'] at made
  split at made
  · cases made
  · simp only [bind_eq_ok, pure_eq_ok, Option.some.injEq] at made
    obtain ⟨_, shown, named, -, skipped, -, loc, -, nosec, -, _, counted, rfl⟩ := made
    exact proper_listingText plain (proper_findingsText plain legible judged settled printable shown)
      (proper_rankDetails plain counted) loc nosec named skipped

end Report

end SourceAudit
