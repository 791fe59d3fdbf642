import SourceAudit.Proofs.Baseline
import SourceAudit.Proofs.Json
import SourceAudit.Proofs.Listing
import SourceAudit.Report.Records

/-! Reports as baselines, which hide the issues they were made from, wherever they have moved. -/

namespace SourceAudit

open Answers List

variable {es : Fields} {i : Issue} {issues : List Issue}

namespace Answers

variable {ε α β : Type}

theorem mapM_eq_ok_iff {f : α → Except ε β} {items : List α} {brought : List β} :
    items.mapM f = .ok brought ↔ List.Forall₂ (fun a b => f a = .ok b) items brought := by
  induction items generalizing brought with
  | nil =>
    rw [mapM_nil, pure_eq_ok, List.forall₂_nil_left_iff]
    exact eq_comm
  | cons a rest ih =>
    rw [mapM_cons_eq_ok, List.forall₂_cons_left_iff]
    constructor
    · rintro ⟨first, others, begun, ended, rfl⟩
      exact ⟨first, others, begun, ih.mp ended, rfl⟩
    · rintro ⟨first, others, begun, ended, rfl⟩
      exact ⟨first, others, begun, ih.mpr ended, rfl⟩

end Answers

namespace Issue

/-- The record of an issue: what it says, the code shown with it, and a link. -/
def written (i : Issue) (code : Text) : Fields :=
  i.fields ++ [(.str "code", .text code)] ++ [(.str "more_info", .str (Catalogue.link i.testId))]

theorem named_written (i : Issue) (code : Text) : Json.Named (i.written code) := by
  constructor
  · intro e mem
    simp only [written, fields, cons_append, nil_append, mem_cons, not_mem_nil] at mem
    repeat' obtain rfl | mem := mem
    all_goals exact ⟨_, rfl⟩
  · change (["filename", "test_name", "test_id", "issue_severity", "issue_cwe", "issue_confidence", "issue_text",
      "line_number", "line_range", "col_offset", "end_col_offset", "code", "more_info"].map Text.ofString).Nodup
    decide

section

variable {record : Value} {key : String}

theorem textField_of_entry {t : Text} (found : record.entry key = .ok (.text t)) : textField key record = .ok t := by
  rw [textField, found]
  rfl

theorem stringField_of_entry {s : String} (found : record.entry key = .ok (.str s)) : stringField key record = .ok s := by
  rw [stringField, textField_of_entry found]
  exact congrArg Except.ok (Text.toStringLossy_ofString s)

end

theorem any_of_lookup {k v : Value} (found : Value.lookup k es = some v) : es.any (fun e => e.1.equals k) = true := by
  induction es with
  | nil => exact absurd found (by simp [Value.lookup])
  | cons e rest ih =>
    rw [Value.lookup] at found
    rw [any_cons]
    by_cases same : e.1.equals k = true
    · rw [same, Bool.true_or]
    · rw [if_neg same] at found
      rw [ih found, Bool.or_true]

theorem weaknessOf_record (sorted : Bool) (w : Weakness) : weaknessOf (Json.normal sorted w.record) = .ok w := by
  by_cases none : w.id = 0
  · have empty : w.record = .dict [] := by simp [Weakness.record, none]
    have same : w = {} := by
      exact congrArg Weakness.mk none
    have nothing : Json.normal sorted (.dict []) = .dict [] := by
      cases sorted <;> simp [Json.normal_dict, Json.arranged, Value.dictOf]
    rw [empty, same, nothing]
    rfl
  · have given : w.record = .dict [(.str "id", .int w.id), (.str "link", .str w.link)] := by
      simp [Weakness.record, none]
    have named : Json.Named [(.str "id", .int w.id), (.str "link", .str w.link)] := by
      constructor
      · intro e mem
        simp only [mem_cons, not_mem_nil, or_false] at mem
        rcases mem with rfl | rfl <;> exact ⟨_, rfl⟩
      · change (["id", "link"].map Text.ofString).Nodup
        decide
    obtain ⟨es, read, found⟩ := Json.exists_normal_dict named sorted
    have id := found "id" (.int w.id) mem_cons_self
    have entry : (Value.dict es).entry "id" = .ok (.int w.id) := by
      rw [Value.entry, id]
      rfl
    have holds : (Value.dict es).holds (.str "id") = .ok true := by
      rw [Value.holds, if_pos (show (Value.str "id").hashable = true from rfl), any_of_lookup id]
    rw [given, read, weaknessOf, holds]
    rw [entry]
    rfl

theorem joined_of_encodable {t : Text} (encodable : (Utf8.encodeText? t).isSome) : Json.joined t = t := by
  rw [Utf8.encodeText?, Option.isSome_map, Text.toChars?] at encodable
  apply Json.joined_of_proper
  induction t with
  | nil => simp
  | cons p rest ih =>
    obtain ⟨_, done⟩ := Option.isSome_iff_exists.mp encodable
    simp only [mapM_cons, Option.bind_eq_bind, Option.bind_eq_some_iff] at done
    obtain ⟨c, first, others, later, -⟩ := done
    have proper : p.isSurrogate = false := by
      by_contra surrogate
      rw [CodePoint.toChar?, if_pos (by simpa using surrogate)] at first
      exact absurd first (by simp)
    exact forall_mem_cons.mpr ⟨proper, ih (Option.isSome_iff_exists.mpr ⟨others, later⟩)⟩

theorem columnField_of_lookup {key : String} {n : Int} (found : Value.lookup (.str key) es = some (.int n)) :
    columnField key (.dict es) = .ok n := by
  rw [columnField, Value.entryD, found]
  rfl

theorem ofRecord_written (encodable : (Utf8.encodeText? i.text).isSome) (code : Text) (sorted : Bool) :
    ofRecord (Json.normal sorted (.dict (i.written code))) =
      .ok { i with ident := none, input := none, origin := none } := by
  obtain ⟨es, read, found⟩ := Json.exists_normal_dict (i.named_written code) sorted
  have entry {key : String} {v : Value} (mem : (.str key, v) ∈ i.written code) :
      (Value.dict es).entry key = .ok (Json.normal sorted v) := by
    rw [Value.entry, found key v mem]
  have string {key s : String} (mem : (.str key, .str s) ∈ i.written code) :
      stringField key (.dict es) = .ok s :=
    stringField_of_entry ((entry mem).trans (by rw [Json.normal_str]))
  have severity : stringField "issue_severity" (.dict es) = .ok i.severity := string (by simp [written, fields])
  have filename : stringField "filename" (.dict es) = .ok i.filename := string (by simp [written, fields])
  have confidence : stringField "issue_confidence" (.dict es) = .ok i.confidence := string (by simp [written, fields])
  have testName : stringField "test_name" (.dict es) = .ok i.testName := string (by simp [written, fields])
  have testId : stringField "test_id" (.dict es) = .ok i.testId := string (by simp [written, fields])
  have shown : (Value.dict es).entry "code" = .ok (Json.normal sorted (.text code)) := entry (by simp [written, fields])
  have weakness : (Value.dict es).entry "issue_cwe" = .ok (Json.normal sorted i.weakness.record) :=
    entry (by simp [written, fields])
  have text : textField "issue_text" (.dict es) = .ok i.text := by
    apply textField_of_entry
    rw [entry (v := .text i.text) (by simp [written, fields]), Json.normal, joined_of_encodable encodable]
  have line : (Value.dict es).entry "line_number" = .ok ((i.line.map Value.int).getD .null) := by
    rw [entry (v := (i.line.map Value.int).getD .null) (by simp [written, fields])]
    cases i.line <;> rfl
  have range : (Value.dict es).entry "line_range" = .ok (.list (i.lineRange.map Value.int)) := by
    rw [entry (v := .list (i.lineRange.map Value.int)) (by simp [written, fields]), Json.normal, Json.normalItems_eq,
      map_map]
    rfl
  have column : columnField "col_offset" (.dict es) = .ok i.column :=
    columnField_of_lookup (found _ (.int i.column) (by simp [written, fields]))
  have endColumn : columnField "end_col_offset" (.dict es) = .ok i.endColumn :=
    columnField_of_lookup (found _ (.int i.endColumn) (by simp [written, fields]))
  rw [read, ofRecord, severity, shown, filename, weakness, confidence, text, testName, testId, line, range, column,
    endColumn]
  simp only [bind, Except.bind, weaknessOf_record, pure, Except.pure]
  cases number : i.line <;> simp [Function.comp_def]

/-- What a report needs of an issue: ranks, a text that can be encoded, and lines of code to show. -/
structure Writable (files : LineSource) (lines : Int) (i : Issue) : Prop where
  ranked : i.Ranked
  encodable : (Utf8.encodeText? i.text).isSome
  shown : ∃ code, i.code files lines false = .ok code

theorem exists_numbered {line : Int → Answer (Option Text)} (given : ∀ n, ∃ t, line n = .ok t) (count : Nat) (n : Int) :
    ∃ shown, numbered line count n = .ok shown := by
  induction count generalizing n with
  | zero => exact ⟨[], rfl⟩
  | succ count ih =>
    obtain ⟨t, read⟩ := given n
    obtain ⟨_, rest⟩ := ih (n + 1)
    rw [numbered, read]
    match t with
    | none => exact ⟨[], rfl⟩
    | some [] => exact ⟨[], rfl⟩
    | some (p :: more) =>
      rw [rest]
      exact ⟨_, rfl⟩

theorem exists_code {n : Int} (placed : i.line = some n) (file : i.filename ≠ inputName) (files : LineSource)
    (lines : Int) (tabbed : Bool) : ∃ code, i.code files lines tabbed = .ok code := by
  have named : (i.filename == inputName) = false := by simpa using file
  have given (n : Int) : ∃ t, i.lineAt files n = .ok t := by
    rw [lineAt, named, if_neg Bool.false_ne_true]
    split <;> exact ⟨_, rfl⟩
  obtain ⟨_, read⟩ := exists_numbered given (i.lineRange.length + (max lines 1 - 1).toNat)
    (max 1 (n - max lines 1 / 2))
  rw [code, placed]
  simp only [named, Bool.false_and, Bool.false_eq_true, if_false, read]
  exact ⟨_, rfl⟩

theorem issueRecord_eq_ok {r : Report} : r.issueRecord i = .ok es ↔
      (Utf8.encodeText? i.text).isSome ∧ ∃ code, i.code r.files r.lines false = .ok code ∧ i.written code = es := by
  have entries : i.entries = if (Utf8.encodeText? i.text).isSome then .ok i.fields else .error .unencodable := by
    unfold Issue.entries
    cases Utf8.encodeText? i.text <;> rfl
  simp only [Report.issueRecord, Issue.recordEntries, bind_eq_ok, pure_eq_ok, entries]
  by_cases encodable : (Utf8.encodeText? i.text).isSome
  · simp [encodable, written]
  · simp [encodable]

end Issue

namespace Report

variable {r : Report}

theorem findings_eq_ok (lowest : r.severity = "UNDEFINED" ∧ r.confidence = "UNDEFINED")
    (alone : r.session.baseline = []) {found : Findings} :
    r.findings = .ok found ↔ (∀ i ∈ r.session.results, i.Ranked) ∧ found = .plain r.session.results := by
  rw [findings, lowest.1, lowest.2]
  have shown (ranked : ∀ i ∈ r.session.results, i.Ranked) :
      r.session.findings "UNDEFINED" "UNDEFINED" = .ok (.plain r.session.results) := by
    rw [Session.findings_lowest ranked, alone]
    rfl
  constructor
  · intro judged
    have ranked : ∀ i ∈ r.session.results, i.Ranked := by
      simp only [Session.findings, bind_eq_ok] at judged
      obtain ⟨pairs, asked, -⟩ := judged
      intro i mem
      obtain ⟨_, step⟩ := exists_mapM_iff.mp ⟨pairs, asked⟩ i mem
      simp only [bind_eq_ok] at step
      obtain ⟨_, reaches, -⟩ := step
      exact (Issue.reaches_lowest.mp reaches).1
    rw [shown ranked, Except.ok.injEq] at judged
    exact ⟨ranked, judged.symm⟩
  · rintro ⟨ranked, rfl⟩
    exact shown ranked

def contents (r : Report) (results errors : List Value) : Value :=
  .dict [(.str "results", .list results), (.str "errors", .list errors),
    (.str "metrics", metricsRecord r.session.metrics), (.str "generated_at", .str r.now.stamp)]

theorem json_eq_ok {report : Text} : r.json = .ok report ↔
    ∃ errors found results, r.skippedRecords = .ok errors ∧ r.findings = .ok found ∧
      r.findingRecords found = .ok results ∧
      Text.ofString (Json.write { indent := some 2, separator := ",", sorted := true } (r.contents results errors)) =
        report := by
  simp only [json, bind_eq_ok, pure_eq_ok]
  constructor
  · rintro ⟨errors, skipped, found, judged, results, recorded, written⟩
    exact ⟨errors, found, results, skipped, judged, recorded, written⟩
  · rintro ⟨errors, found, results, skipped, judged, recorded, written⟩
    exact ⟨errors, skipped, found, judged, results, recorded, written⟩

theorem plain_str (s : String) : Json.Plain (.str s) := .text s

theorem plain_entries {α : Type} {es : List (String × α)} (f : α → Value) (each : ∀ e ∈ es, Json.Plain (f e.2)) :
    Json.Plain (.dict (es.map fun (name, a) => (.str name, f a))) := by
  refine .dict ?_ ?_
  · intro e mem
    obtain ⟨own, -, rfl⟩ := mem_map.mp mem
    exact ⟨own.1, rfl⟩
  · intro e mem
    obtain ⟨own, there, rfl⟩ := mem_map.mp mem
    exact each own there

theorem plain_weakness (w : Weakness) : Json.Plain w.record := by
  unfold Weakness.record
  split
  · exact .dict (by simp) (by simp)
  · refine .dict ?_ ?_
    · simp [Value.str]
    · simp [Json.Plain.int, plain_str]

theorem plain_written (i : Issue) (code : Text) : Json.Plain (.dict (i.written code)) := by
  have line : Json.Plain ((i.line.map Value.int).getD .null) := by
    cases i.line with
    | none => exact .null
    | some n => exact .int n
  have range : Json.Plain (.list (i.lineRange.map Value.int)) := by
    refine .list ?_
    intro v mem
    obtain ⟨n, -, rfl⟩ := mem_map.mp mem
    exact .int n
  refine .dict ?_ ?_
  · intro e mem
    obtain ⟨s, key⟩ := (i.named_written code).strings e mem
    exact ⟨s, key⟩
  · simp [Issue.written, Issue.fields, plain_str, plain_weakness, line, range, Json.Plain.int, Json.Plain.text]

theorem plain_contents {results errors : List Value} (issues : ∀ v ∈ results, Json.Plain v)
    (skipped : r.skippedRecords = .ok errors) : Json.Plain (r.contents results errors) := by
  have files : ∀ v ∈ errors, Json.Plain v := by
    simp only [skippedRecords, bind_eq_ok, pure_eq_ok] at skipped
    obtain ⟨_, -, rfl⟩ := skipped
    intro v mem
    obtain ⟨_, -, rfl⟩ := mem_map.mp mem
    refine .dict ?_ ?_
    · simp [Value.str]
    · simp [plain_str]
  have metrics : Json.Plain (metricsRecord r.session.metrics) :=
    plain_entries countsRecord fun block _ => plain_entries Value.int (fun count _ => .int count.2)
  refine .dict ?_ ?_
  · simp [Value.str]
  · simp [plain_str, metrics, Json.Plain.list issues, Json.Plain.list files]

theorem findingRecords_eq_ok {results : List Value} : r.findingRecords (.plain issues) = .ok results ↔
      List.Forall₂ (fun i v => (Utf8.encodeText? i.text).isSome ∧
        ∃ code, i.code r.files r.lines false = .ok code ∧ v = .dict (i.written code)) (r.ordered id issues) results := by
  rw [findingRecords, mapM_eq_ok_iff]
  have step (i : Issue) (v : Value) : Value.dict <$> r.issueRecord i = .ok v ↔ (Utf8.encodeText? i.text).isSome ∧
      ∃ code, i.code r.files r.lines false = .ok code ∧ v = .dict (i.written code) := by
    simp only [map_eq_ok, Issue.issueRecord_eq_ok]
    constructor
    · rintro ⟨es, ⟨encodable, code, shown, rfl⟩, rfl⟩
      exact ⟨encodable, code, shown, rfl⟩
    · rintro ⟨encodable, code, shown, rfl⟩
      exact ⟨_, ⟨encodable, code, shown, rfl⟩, rfl⟩
  simp only [step]

theorem mem_ordered : i ∈ r.ordered id issues ↔ i ∈ issues := mem_mergeSort

/-- A report at the lowest ranks can be made exactly if all issues can be written and all skipped files named. -/
theorem exists_json_iff (lowest : r.severity = "UNDEFINED" ∧ r.confidence = "UNDEFINED")
    (alone : r.session.baseline = []) : (∃ report, r.json = .ok report) ↔
      (∀ i ∈ r.session.results, i.Writable r.files r.lines) ∧ ∃ names, r.session.skippedNames = .ok names := by
  simp only [json_eq_ok, findings_eq_ok lowest alone]
  constructor
  · rintro ⟨report, errors, found, results, skipped, ⟨ranked, rfl⟩, recorded, -⟩
    constructor
    · intro i mem
      obtain ⟨v, step⟩ := exists_mapM_iff.mp ⟨results, recorded⟩ i (mem_ordered.mpr mem)
      obtain ⟨_, record, -⟩ := map_eq_ok.mp step
      obtain ⟨encodable, code, shown, -⟩ := Issue.issueRecord_eq_ok.mp record
      exact ⟨ranked i mem, encodable, code, shown⟩
    · simp only [skippedRecords, bind_eq_ok] at skipped
      obtain ⟨names, read, -⟩ := skipped
      exact ⟨names, read⟩
  · rintro ⟨writable, names, read⟩
    have skipped : ∃ errors, r.skippedRecords = .ok errors := by
      rw [skippedRecords, read]
      exact ⟨_, rfl⟩
    have recorded : ∃ results, r.findingRecords (.plain r.session.results) = .ok results := by
      apply exists_mapM_iff.mpr
      intro i mem
      obtain ⟨-, encodable, code, shown⟩ := writable i (mem_ordered.mp mem)
      exact ⟨_, map_eq_ok.mpr ⟨_, Issue.issueRecord_eq_ok.mpr ⟨encodable, code, shown, rfl⟩, rfl⟩⟩
    obtain ⟨errors, skipped⟩ := skipped
    obtain ⟨results, recorded⟩ := recorded
    exact ⟨_, errors, _, results, skipped, ⟨fun i mem => (writable i mem).ranked, rfl⟩, recorded, rfl⟩

def recorded (i : Issue) : Issue := { i with ident := none, input := none, origin := none }

theorem read_json (lowest : r.severity = "UNDEFINED" ∧ r.confidence = "UNDEFINED")
    (alone : r.session.baseline = []) {report : Text} (made : r.json = .ok report) :
    Baseline.read report = ((r.ordered id r.session.results).map recorded, []) := by
  obtain ⟨errors, _, results, skipped, judged, written, rfl⟩ := json_eq_ok.mp made
  obtain ⟨-, rfl⟩ := (findings_eq_ok lowest alone).mp judged
  have plain : Json.Plain (r.contents results errors) := by
    refine plain_contents ?_ skipped
    intro v mem
    obtain ⟨i, -, step⟩ := (mem_mapM_iff written).mp mem
    obtain ⟨es, record, rfl⟩ := map_eq_ok.mp step
    obtain ⟨-, code, -, rfl⟩ := Issue.issueRecord_eq_ok.mp record
    exact plain_written i code
  have named : Json.Named [(.str "results", .list results), (.str "errors", .list errors),
      (.str "metrics", metricsRecord r.session.metrics), (.str "generated_at", .str r.now.stamp)] := by
    constructor
    · intro e mem
      simp only [mem_cons, not_mem_nil, or_false] at mem
      rcases mem with rfl | rfl | rfl | rfl <;> exact ⟨_, rfl⟩
    · change (["results", "errors", "metrics", "generated_at"].map Text.ofString).Nodup
      decide
  obtain ⟨es, read, lookup⟩ := Json.exists_normal_dict named true
  have entry : (Value.dict es).entry "results" = .ok (.list (results.map (Json.normal true))) := by
    rw [Value.entry, lookup "results" (.list results) mem_cons_self, Json.normal, Json.normalItems_eq]
  have issues : (results.map (Json.normal true)).mapM Issue.ofRecord =
      .ok ((r.ordered id r.session.results).map recorded) := by
    rw [mapM_eq_ok_iff, List.forall₂_map_left_iff, List.forall₂_map_right_iff]
    refine List.Forall₂.imp ?_ (findingRecords_eq_ok.mp written).flip
    rintro v i ⟨encodable, code, -, rfl⟩
    exact Issue.ofRecord_written encodable code true
  have loaded : Baseline.issuesOf (Text.ofString (Json.write { indent := some 2, separator := ",", sorted := true }
      (r.contents results errors))) = .ok ((r.ordered id r.session.results).map recorded) := by
    rw [Baseline.issuesOf, Json.read?_write rfl plain]
    change (do (← (← (Json.normal true (r.contents results errors)).entry "results").items).mapM Issue.ofRecord) = _
    rw [contents, read, entry]
    exact issues
  rw [Baseline.read, loaded]

theorem agrees_recorded (i : Issue) : i.Agrees (recorded i) := ⟨rfl, rfl, rfl, rfl, rfl, rfl, rfl⟩

theorem exists_loaded_iff {x : Issue} :
    (∃ b ∈ (r.ordered id issues).map recorded, x.Agrees b) ↔ ∃ i ∈ issues, x.Agrees i := by
  constructor
  · rintro ⟨b, loaded, agree⟩
    obtain ⟨i, there, rfl⟩ := mem_map.mp loaded
    exact ⟨i, mem_ordered.mp there, agree.trans (agrees_recorded i).symm⟩
  · rintro ⟨i, there, agree⟩
    exact ⟨_, mem_map_of_mem (mem_ordered.mpr there), agree.trans (agrees_recorded i)⟩

theorem ranked_of_agrees {a b : Issue} (agree : a.Agrees b) (ranked : b.Ranked) : a.Ranked := by
  rw [Issue.ranked_iff] at ranked ⊢
  rwa [agree.severity, agree.confidence]

/-- A report at the lowest ranks is a baseline that hides its issues, wherever they have moved. If all results can be
judged, the others that pass are shown: each among the results that it may be, but plainly if the report has no issues,
since an empty baseline is none. -/
theorem json_is_baseline (lowest : r.severity = "UNDEFINED" ∧ r.confidence = "UNDEFINED")
    (alone : r.session.baseline = []) :
    ((∃ report, r.json = .ok report) ↔
      (∀ i ∈ r.session.results, i.Writable r.files r.lines) ∧ ∃ names, r.session.skippedNames = .ok names) ∧
    ∀ report, r.json = .ok report → ∃ loaded, Baseline.read report = (loaded, []) ∧
      (loaded = [] ↔ r.session.results = []) ∧
      ∀ (s : Session) (severity confidence : Rank), s.baseline = loaded →
        ((∀ x ∈ s.results, ∃ i ∈ r.session.results, x.Agrees i) →
          ∃ found, s.findings severity.name confidence.name = .ok found ∧ found.issues = []) ∧
        ((∃ found, s.findings severity.name confidence.name = .ok found) ↔
          ∀ x ∈ s.results, ∃ passed, x.reaches severity.name confidence.name = .ok passed) ∧
        ((∀ x ∈ s.results, x.Ranked) → ∃ found, s.findings severity.name confidence.name = .ok found) ∧
        ∀ found, s.findings severity.name confidence.name = .ok found →
          (r.session.results = [] → found = .plain (s.reaching severity.name confidence.name)) ∧
          ∀ x ∈ s.results, x.reaches severity.name confidence.name = .ok true →
            (∀ i ∈ r.session.results, ¬ x.Agrees i) → x ∈ found.issues ∧
              (r.session.results ≠ [] → ∃ shown others, found = .compared shown ∧
                (x, others) ∈ shown ∧ x ∈ others) := by
  refine ⟨exists_json_iff lowest alone, ?_⟩
  intro report made
  have empty : (r.ordered id r.session.results).map recorded = [] ↔ r.session.results = [] := by
    simp [ordered, sortedBy, ← length_eq_zero_iff]
  refine ⟨_, read_json lowest alone made, empty, ?_⟩
  intro s severity confidence baseline
  have judged (ranked : ∀ x ∈ s.results, x.Ranked) :
      ∀ x ∈ s.results, ∃ passed, x.reaches severity.name confidence.name = .ok passed :=
    fun x listed => (ranked x listed).exists_reaches severity confidence
  refine ⟨?_, Session.exists_findings_iff, fun ranked => ⟨_, Session.findings_eq (judged ranked)⟩, ?_⟩
  · intro moved
    have ranked : ∀ x ∈ s.results, x.Ranked := by
      intro x listed
      obtain ⟨i, there, agree⟩ := moved x listed
      obtain ⟨writable, -⟩ := (exists_json_iff lowest alone).mp ⟨report, made⟩
      exact ranked_of_agrees agree (writable i there).ranked
    refine ⟨_, Session.findings_eq (judged ranked), ?_⟩
    apply eq_nil_iff_forall_not_mem.mpr
    intro x shown
    obtain ⟨reaches, apart⟩ := Baseline.mem_issues_compare.mp shown
    obtain ⟨b, loaded, agree⟩ := exists_loaded_iff.mpr (moved x (Session.mem_reaching.mp reaches).1)
    exact apart b (baseline ▸ loaded) agree
  · intro found told
    have same := Session.findings_eq (Session.exists_findings_iff.mp ⟨found, told⟩)
    obtain rfl := Except.ok.inj (told.symm.trans same)
    refine ⟨fun none => ?_, fun x listed passed apart => ?_⟩
    · rw [baseline, empty.mpr none]
      rfl
    have reaches : x ∈ s.reaching severity.name confidence.name := Session.mem_reaching.mpr ⟨listed, passed⟩
    have unmatched : ∀ b ∈ s.baseline, ¬ x.Agrees b := by
      intro b loaded agree
      obtain ⟨i, there, same⟩ := exists_loaded_iff.mp ⟨b, baseline ▸ loaded, agree⟩
      exact apart i there same
    have shown := Baseline.mem_issues_compare.mpr ⟨reaches, unmatched⟩
    refine ⟨shown, fun given => Baseline.exists_candidates ?_ shown⟩
    rw [baseline]
    exact mt empty.mp given

def lowestOn (results : List Issue) : Report where
  session := { settings := .standard, rules := [], results }
  files := fun _ => []
  severity := "UNDEFINED"
  confidence := "UNDEFINED"
  lines := 3
  now := { year := 2000, month := 1, day := 1 }
  home := "/work"

theorem writable_asserted : (Session.asserted 1).Writable (fun _ => []) 3 := by
  refine ⟨?_, by decide, Issue.exists_code rfl (by decide) _ _ _⟩
  intro scale
  cases scale <;> decide

theorem json_asserted_is_baseline : ∃ report loaded, (lowestOn [Session.asserted 1]).json = .ok report ∧
    Baseline.read report = (loaded, []) ∧
    (∃ found, Session.findings "LOW" "LOW"
      { settings := .standard, rules := [], results := [Session.asserted 7], baseline := loaded } = .ok found ∧
        found.issues = []) ∧
    ∃ found, Session.findings "LOW" "LOW"
      { settings := .standard, rules := [], results := [{ Session.asserted 1 with weakness := {} }],
        baseline := loaded } = .ok found ∧ { Session.asserted 1 with weakness := {} } ∈ found.issues := by
  obtain ⟨exists_iff, loads⟩ := json_is_baseline (r := lowestOn [Session.asserted 1]) ⟨rfl, rfl⟩ rfl
  obtain ⟨report, made⟩ := exists_iff.mpr ⟨forall_mem_singleton.mpr writable_asserted, [], rfl⟩
  obtain ⟨loaded, read, -, shows⟩ := loads report made
  refine ⟨report, loaded, made, read, ?_, ?_⟩
  · refine (shows { settings := .standard, rules := [], results := [_], baseline := loaded } .low .low rfl).1 ?_
    exact forall_mem_singleton.mpr ⟨_, mem_singleton_self _, rfl, rfl, rfl, rfl, rfl, rfl, rfl⟩
  · have ranked : Issue.Ranked { Session.asserted 1 with weakness := {} } := by
      intro scale
      cases scale <;> decide
    obtain ⟨-, -, judged, shown⟩ := shows { settings := .standard, rules := [], results := [_], baseline := loaded }
      .low .low rfl
    obtain ⟨found, ended⟩ := judged (forall_mem_singleton.mpr ranked)
    refine ⟨found, ended, ((shown found ended).2 _ (mem_singleton_self _) rfl ?_).1⟩
    refine forall_mem_singleton.mpr ?_
    intro agree
    exact absurd agree.weakness (by decide)

/-- Against the report on no results a result is shown without those that it may be. -/
theorem asserted_shown_plainly : ∃ report loaded, (lowestOn []).json = .ok report ∧
    Baseline.read report = (loaded, []) ∧ (Session.asserted 1).reaches "LOW" "LOW" = .ok true ∧
    (∀ i ∈ (lowestOn []).session.results, ¬ (Session.asserted 1).Agrees i) ∧
    ∃ found, Session.findings "LOW" "LOW"
      { settings := .standard, rules := [], results := [Session.asserted 1], baseline := loaded } = .ok found ∧
        ¬ ∃ shown others, found = .compared shown ∧ (Session.asserted 1, others) ∈ shown ∧
          Session.asserted 1 ∈ others := by
  obtain ⟨report, made⟩ := (exists_json_iff (r := lowestOn []) ⟨rfl, rfl⟩ rfl).mpr ⟨by simp [lowestOn], [], rfl⟩
  have read := read_json (r := lowestOn []) ⟨rfl, rfl⟩ rfl made
  have empty : ((lowestOn []).ordered id (lowestOn []).session.results).map recorded = [] := by
    simp [lowestOn, ordered, sortedBy]
  rw [empty] at read
  exact ⟨report, [], made, read, rfl, by simp [lowestOn], .plain [Session.asserted 1], rfl, by simp⟩

end Report

end SourceAudit
