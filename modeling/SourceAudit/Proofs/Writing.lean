import SourceAudit.Proofs.Encoding

/-! When reports at the lowest ranks are written, by format. -/

namespace SourceAudit

open List

/-- Results that agree with none of the baseline. -/
def Session.New (s : Session) (i : Issue) : Prop := i ∈ s.results ∧ ∀ b ∈ s.baseline, ¬ i.Agrees b

namespace Report

variable {r : Report} {f : Format}

/-- An issue has what the format shows: tables the link of its weakness, colours its severity, all but tables and suites
the lines around it. -/
def Takes (r : Report) : Format → Issue → Prop
  | .csv, i => i.weakness.id ≠ 0
  | .xml, _ => True
  | .screen, i => i.severity ≠ Rank.undefined.name ∧ i.Visible r.lines
  | _, i => i.Visible r.lines

/-- The format names the files that have been skipped. Listings do unless they are empty. -/
def NamesSkipped (r : Report) : Format → Prop
  | .csv | .xml => False
  | .txt | .screen => r.session.quiet = true → ∃ i, r.session.New i
  | _ => True

theorem encodable_of_proper {t : Text} (proper : Text.Proper t) : encodable t = .ok t := by
  rw [encodable, if_neg]
  intro stray
  obtain ⟨p, there, lone⟩ := any_eq_true.mp stray
  rw [proper p there] at lone
  cases lone

variable {made : Answer Text} {goes : Text → ReportText}

theorem exists_deliver_iff (proper : ∀ t, made = .ok t → Text.Proper t) :
    (∃ text, deliver f goes made = .ok text) ↔ ∃ t, made = .ok t := by
  cases made with
  | error fault => simp [deliver, bind, Except.bind]
  | ok t => simp [deliver, bind, Except.bind, encodable_of_proper (proper t rfl)]

theorem error_of_deliver {e : ReportError} (failed : deliver f goes made = .error e) : e = .failed f := by
  unfold deliver at failed
  split at failed
  · cases failed
  · cases failed
    rfl

theorem starts_undecorated (i : Issue) : undecorated.Starts i := ⟨[], rfl⟩

theorem starts_coloured_iff {i : Issue} (ranked : i.Ranked) : coloured.Starts i ↔ i.severity ≠ Rank.undefined.name := by
  obtain ⟨severe, severity⟩ := ranked.exists_rank .severity
  rw [Decoration.Starts, show i.severity = severe.name from severity]
  have failed : coloured.issueStart Rank.undefined.name = .error .missingKey := rfl
  cases severe with
  | undefined => simp [failed]
  | low => exact iff_of_true ⟨_, rfl⟩ (by decide)
  | medium => exact iff_of_true ⟨_, rfl⟩ (by decide)
  | high => exact iff_of_true ⟨_, rfl⟩ (by decide)

section

variable {found : Findings} (judged : r.findings = .ok found) (settled : found.Settled)
  (legible : r.Legible) (printable : ∀ i ∈ found.issues, i.Printable) (counted : r.session.metrics.Counted)

include judged settled legible printable counted in
theorem exists_deliver_listing_iff {d : Decoration} (plain : d.Proper) (goes : Text → ReportText) :
    (∃ text, deliver f goes ((·.getD []) <$> listing d r) = .ok text) ↔
      (∀ i ∈ found.issues, d.Starts i ∧ i.Visible r.lines) ∧
        ((r.session.quiet = true → found.issues ≠ []) → r.NamesRead) := by
  rw [exists_deliver_iff, Answers.exists_map_iff, exists_listing_iff judged settled counted d]
  · refine and_congr_right fun _ => ?_
    by_cases quiet : r.session.quiet = true <;> by_cases none : found.issues = [] <;> simp [quiet, none]
  · intro t made
    obtain ⟨shown, told, rfl⟩ := Answers.map_eq_ok.mp made
    cases shown with
    | none => exact Text.proper_nil
    | some t => exact proper_listing plain legible judged settled printable told

def NamesSkippedWith (r : Report) (found : Findings) : Format → Prop
  | .csv | .xml => False
  | .txt | .screen => r.session.quiet = true → found.issues ≠ []
  | _ => True

include judged settled legible printable counted in
theorem exists_write_with_iff (plain : f ≠ .custom) (template : Option Text) :
    (∃ text, (r.write f template).1 = .ok text) ↔
      (∀ i ∈ found.issues, r.Takes f i) ∧ (r.NamesSkippedWith found f → r.NamesRead) := by
  have texts : ∀ i ∈ found.issues, Text.Proper i.text := fun i mem => (printable i mem).text
  cases f with
  | custom => exact absurd rfl plain
  | csv =>
    rw [write, exists_deliver_iff fun t made => proper_table judged texts made, exists_table_iff judged texts]
    simp [Takes, NamesSkippedWith]
  | html =>
    rw [write, exists_deliver_iff fun t made => proper_page legible judged texts made,
      exists_page_findings_iff judged settled counted]
    simp [Takes, NamesSkippedWith]
  | json =>
    rw [write, exists_deliver_iff fun t made => proper_json made, exists_json_findings_iff judged settled texts]
    simp [Takes, NamesSkippedWith]
  | yaml =>
    rw [write, exists_deliver_iff fun t made => proper_yaml made, exists_yaml_iff judged texts]
    simp [Takes, NamesSkippedWith]
  | xml =>
    rw [write, exists_deliver_iff fun t made => proper_suite made]
    simp [Takes, NamesSkippedWith, exists_suite judged]
  | txt =>
    rw [write, exists_deliver_listing_iff judged settled legible printable counted proper_undecorated]
    simp [Takes, NamesSkippedWith, starts_undecorated]
  | screen =>
    rw [write, exists_deliver_listing_iff judged settled legible printable counted proper_coloured, NamesSkippedWith]
    refine and_congr_left' (forall₂_congr ?_)
    intro i mem
    rw [starts_coloured_iff (printable i mem).ranked, Takes]

include judged settled legible printable counted in
theorem exists_write_findings_iff (new : ∀ i, r.session.New i ↔ i ∈ found.issues) (plain : f ≠ .custom)
    (template : Option Text) : (∃ text, (r.write f template).1 = .ok text) ↔
      (∀ i ∈ found.issues, r.Takes f i) ∧ (r.NamesSkipped f → r.NamesRead) := by
  have any : (∃ i, r.session.New i) ↔ found.issues ≠ [] := by
    simp only [new]
    exact ⟨fun ⟨_, mem⟩ => ne_nil_of_mem mem, exists_mem_of_ne_nil _⟩
  have same : r.NamesSkipped f ↔ r.NamesSkippedWith found f := by cases f <;> simp [NamesSkipped, NamesSkippedWith, any]
  rw [exists_write_with_iff judged settled legible printable counted plain template, same]

end

/-- At the lowest ranks a report is written exactly if the format takes all new results and can name the skipped files;
otherwise it says in which format it has failed. -/
theorem exists_write_iff {start : Session} (fresh : start.Fresh) (unsearched : start.targets.files = [])
    {steps : List Session.Step} (lived : r.session.metrics = (start.life steps).metrics)
    {files : FileTree} (read : r.files = Session.lineSource files)
    (lowest : r.severity = "UNDEFINED" ∧ r.confidence = "UNDEFINED")
    (ranked : ∀ i ∈ r.session.results, i.Ranked) (proper : ∀ i ∈ r.session.results, Text.Proper i.text)
    (plain : f ≠ .custom) (template : Option Text) :
    ((∃ text, (r.write f template).1 = .ok text) ↔
      (∀ i, r.session.New i → r.Takes f i) ∧ (r.NamesSkipped f → r.NamesRead)) ∧
    ∀ e, (r.write f template).1 = .error e → e = .failed f := by
  have judged := findings_lowest lowest ranked
  have settled := Findings.settled_compare r.session.baseline r.session.results
  have new {i : Issue} : r.session.New i ↔ i ∈ (Baseline.compare r.session.baseline r.session.results).issues :=
    Baseline.mem_issues_compare.symm
  generalize Baseline.compare r.session.baseline r.session.results = found at judged settled new
  have counted : r.session.metrics.Counted := by
    rw [lived]
    refine Session.counted_life (Session.orderly_of_fresh fresh unsearched) ?_ steps
    rw [fresh.metrics]
    exact Metrics.counted_empty
  have legible : r.Legible := by
    intro name l there
    rw [read] at there
    exact Session.proper_of_mem_lineSource there
  have printable : ∀ i ∈ found.issues, i.Printable := by
    intro i listed
    have result : i ∈ r.session.results := (new.mpr listed).1
    exact ⟨ranked i result, proper i result⟩
  constructor
  · rw [exists_write_findings_iff judged settled legible printable counted (fun i => new) plain template]
    simp only [new]
  · intro e failed
    cases f with
    | custom => exact absurd rfl plain
    | csv | html | json | screen | txt | xml | yaml => exact error_of_deliver failed

def unweighed : Issue := { Session.asserted 2 with severity := "UNDEFINED", weakness := {} }

def onUnweighed : Report :=
  let start : Session := { settings := .standard, rules := [] }
  { lowestOn [unweighed] with
    session := { start with
      results := [unweighed]
      skipped := [(.raw (Utf8.encode "./b.py".toList), "syntax error while parsing AST from file")]
      metrics := (start.life Session.mixedSteps).metrics }
    files := Session.lineSource Session.mixedTree }

theorem exists_write_onUnweighed :
    (∀ f ∈ [Format.html, .json, .txt, .xml, .yaml], ∃ text, (onUnweighed.write f none).1 = .ok text) ∧
      ∀ f ∈ [Format.csv, .screen], (onUnweighed.write f none).1 = .error (.failed f) := by
  have printable : unweighed.Printable := by
    refine ⟨?_, Text.proper_ofString _⟩
    intro scale
    cases scale <;> decide
  have shown : unweighed.Visible 3 := ⟨2, rfl, by decide⟩
  have names : onUnweighed.NamesRead := by
    intro b reason listed
    cases mem_singleton.mp listed
    decide +kernel
  have lived : onUnweighed.session.metrics =
      (Session.life { settings := .standard, rules := [] } Session.mixedSteps).metrics := by
    simp only [onUnweighed]
  have written {f : Format} (plain : f ≠ .custom) :
      ((∃ text, (onUnweighed.write f none).1 = .ok text) ↔ (∀ i, onUnweighed.session.New i → onUnweighed.Takes f i) ∧
        (onUnweighed.NamesSkipped f → onUnweighed.NamesRead)) ∧
      ∀ e, (onUnweighed.write f none).1 = .error e → e = .failed f :=
    exists_write_iff ⟨rfl, rfl, rfl, rfl⟩ rfl lived rfl ⟨rfl, rfl⟩
      (forall_mem_singleton.mpr printable.ranked) (forall_mem_singleton.mpr printable.text) plain none
  have new (i : Issue) : onUnweighed.session.New i ↔ i = unweighed := by simp [Session.New, onUnweighed]
  simp only [new, forall_eq] at written
  simp only [mem_cons, not_mem_nil, or_false, forall_eq_or_imp, forall_eq]
  have made {f : Format} (plain : f ≠ .custom) (takes : onUnweighed.Takes f unweighed) :
      ∃ text, (onUnweighed.write f none).1 = .ok text := (written plain).1.mpr ⟨takes, fun _ => names⟩
  have refused {f : Format} (plain : f ≠ .custom) (refuses : ¬ onUnweighed.Takes f unweighed) :
      (onUnweighed.write f none).1 = .error (.failed f) := by
    cases result : (onUnweighed.write f none).1 with
    | ok text => exact absurd ((written plain).1.mp ⟨text, result⟩).1 refuses
    | error e => rw [(written plain).2 e result]
  constructor
  · exact ⟨made (by decide) shown, made (by decide) shown, made (by decide) shown, made (by decide) trivial,
      made (by decide) shown⟩
  · exact ⟨refused (by decide) fun known => known rfl, refused (by decide) fun graded => graded.1 rfl⟩

/-- An assertion that stands for no known weakness cannot be written as a table. -/
theorem table_without_weakness : Issue.Printable { Session.asserted 1 with weakness := {} } ∧
    (lowestOn [{ Session.asserted 1 with weakness := {} }]).write .csv none = (.error (.failed .csv), []) := by
  constructor
  · refine ⟨?_, Text.proper_ofString _⟩
    intro scale
    cases scale <;> decide
  · have failed : (lowestOn [{ Session.asserted 1 with weakness := {} }]).table = .error .missingKey := by
      decide +kernel
    rw [write, failed]
    rfl

end Report

end SourceAudit
