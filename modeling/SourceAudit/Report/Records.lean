import SourceAudit.Report.Basic
import SourceAudit.Yaml.Render

/-! Reports for programs: as tables with a line for each issue, and as nested data in two notations. -/

namespace SourceAudit.Report

/-- Cells with commas, quotes or line breaks stand between quotes, and quotes within are doubled. -/
def tableCell (t : Text) : Text :=
  if t.any fun p => p == 44 || p == 34 || p == 13 || p == 10 then
    [34] ++ t.flatMap (fun p => if p == 34 then [34, 34] else [p]) ++ [34]
  else t

def tableRow (cells : List Text) : Text := Segments.join [44] (cells.map tableCell) ++ [13, 10]

def tableColumns : List Text := [
  "filename", "test_name", "test_id", "issue_severity", "issue_confidence", "issue_cwe", "issue_text",
  "line_number", "col_offset", "end_col_offset", "line_range", "more_info"]

def shownNumber (n : Int) : Text := Text.ofString (toString n)

def tableCells (i : Issue) : Answer (List Text) := do
  let _ ← i.entries
  if i.weakness.id == 0 then throw .missingKey
  return [i.filename, i.testName, i.testId, i.severity, i.confidence, i.weakness.link, i.text,
    i.line.elim [] shownNumber, shownNumber i.column, shownNumber i.endColumn,
    (Value.list (i.lineRange.map .int)).render, Catalogue.link i.testId]

def table (r : Report) : Answer Text := do
  let rows ← (← r.findings).issues.mapM tableCells
  return tableRow tableColumns ++ (rows.map tableRow).flatten

def issueRecord (r : Report) (i : Issue) : Answer Fields := do
  let record ← i.recordEntries r.files r.lines
  return record ++ [(.str "more_info", .str (Catalogue.link i.testId))]

def skippedRecords (r : Report) : Answer (List Value) := do
  return (← r.session.skippedNames).map fun (name, reason) =>
    .dict [(.str "filename", .str name), (.str "reason", .str reason)]

def countsRecord (cs : Counts) : Value := .dict (cs.map fun (label, n) => (.str label, .int n))

def metricsRecord (m : Metrics) : Value := .dict (m.blocks.map fun (name, cs) => (.str name, countsRecord cs))

/-- The record of a finding; the results that it may be are added when there is more than one. -/
def comparedRecord (r : Report) (i : Issue) (candidates : List Issue) : Answer Value := do
  let record ← issueRecord r i
  if candidates.length ≤ 1 then return .dict record
  let others ← candidates.mapM fun c => Value.dict <$> c.recordEntries r.files r.lines
  return .dict (record ++ [(.str "candidates", .list others)])

def findingRecords (r : Report) : Findings → Answer (List Value)
  | .plain is => (r.ordered id is).mapM fun i => Value.dict <$> issueRecord r i
  | .compared is => (r.ordered Prod.fst is).mapM fun f => r.comparedRecord f.1 f.2

def json (r : Report) : Answer Text := do
  let errors ← r.skippedRecords
  let results ← r.findingRecords (← r.findings)
  return Text.ofString (Json.write { indent := some 2, separator := ",", sorted := true }
    (.dict [(.str "results", .list results), (.str "errors", .list errors),
      (.str "metrics", metricsRecord r.session.metrics), (.str "generated_at", .str r.now.stamp)]))

/-! ### The notation of indented entries -/

def sortedEntries (es : List (Text × Yaml.Tree)) : List (Text × Yaml.Tree) := es.mergeSort fun a b => !(b.1 < a.1)

def spelledBreaks (code : Text) : Text := code.flatMap fun p => if p == 10 then [92, 110] else [p]

/-- How often issues share their list of lines, as those of one visit do; numbered as the lists come up again. -/
def sharedOrigins (origins : List (Option Origin)) : List Origin :=
  (origins.foldl (fun (seen, shared) o =>
    match o with
    | none => (seen, shared)
    | some o =>
      if seen.contains o then (seen, if shared.contains o then shared else shared ++ [o])
      else (seen ++ [o], shared)) (([], []) : List Origin × List Origin)).2

def lineTree (shared seen : List Origin) (i : Issue) : Yaml.Tree :=
  let lines := i.lineRange.map fun n => Yaml.Tree.word (toString n)
  match i.origin with
  | none => .list none lines
  | some o =>
    match shared.idxOf? o with
    | none => .list none lines
    | some n => if seen.contains o then .reference (n + 1) else .list (some (n + 1)) lines

def weaknessTree (w : Weakness) : Yaml.Tree :=
  if w.id == 0 then .dict []
  else .dict [("id", .word (toString w.id)), ("link", .text w.link)]

def issueTree (r : Report) (lines : Yaml.Tree) (i : Issue) : Answer Yaml.Tree := do
  let _ ← i.entries
  let code ← i.code r.files r.lines false
  let number (n : Int) : Yaml.Tree := .word (toString n)
  return .dict (sortedEntries [
    ("filename", .text i.filename), ("test_name", .text i.testName), ("test_id", .text i.testId),
    ("issue_severity", .text i.severity), ("issue_cwe", weaknessTree i.weakness),
    ("issue_confidence", .text i.confidence), ("issue_text", .text i.text),
    ("line_number", i.line.elim (.word "null") number), ("line_range", lines),
    ("col_offset", number i.column), ("end_col_offset", number i.endColumn),
    ("code", .text (spelledBreaks code)), ("more_info", .text (Catalogue.link i.testId))])

def issueTrees (r : Report) (shared : List Origin) : List Origin → List Issue → Answer (List Yaml.Tree)
  | _, [] => .ok []
  | seen, i :: is => do
    let tree ← issueTree r (lineTree shared seen i) i
    return tree :: (← issueTrees r shared (seen ++ i.origin.toList) is)

def countsTree (cs : Counts) : Yaml.Tree :=
  .dict (sortedEntries (cs.map fun (label, n) => (Text.ofString label, Yaml.Tree.word (toString n))))

def yaml (r : Report) : Answer Text := do
  let errors := (← r.session.skippedNames).map fun (name, reason) =>
    Yaml.Tree.dict [("filename", .text name), ("reason", .text reason)]
  let issues := r.ordered id (← r.findings).issues
  let results ← r.issueTrees (sharedOrigins (issues.map Issue.origin)) [] issues
  let metrics := r.session.metrics.blocks.map fun (name, cs) => (Text.ofString name, countsTree cs)
  return Yaml.render (.dict [
    ("errors", .list none errors), ("generated_at", .text r.now.stamp),
    ("metrics", .dict (sortedEntries metrics)), ("results", .list none results)])

end SourceAudit.Report
