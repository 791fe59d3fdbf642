import SourceAudit.Report.Basic

/-! Reports to be read: a listing of issues and numbers, plain or in colours. -/

namespace SourceAudit.Report

structure Decoration where
  heading : Text → Text
  issueStart : String → Answer Text
  issueEnd : Text
  /-- Whether findings that comments suppress by name are counted. -/
  countsNamed : Bool

def undecorated : Decoration := ⟨id, fun _ => .ok [], [], true⟩

def colour (code : String) : Text := [27] ++ Text.ofString ("[" ++ code ++ "m")

def severityColour (severity : String) : Answer Text :=
  match severity with
  | "LOW" => .ok (colour "94")
  | "MEDIUM" => .ok (colour "93")
  | "HIGH" => .ok (colour "91")
  | _ => .error .missingKey

def coloured : Decoration := ⟨fun t => colour "95" ++ t ++ colour "0", severityColour, colour "0", false⟩

def capitalized (name : String) : Text :=
  match Text.ofString name with
  | [] => []
  | p :: rest => p :: Text.lower rest

def joinLines (ts : List Text) : Text := Segments.join [10] ts

def showInt (n : Int) : Text := Text.ofString (toString n)

def fileDetails (d : Decoration) (s : Session) : Text :=
  let total (weights : List Int) : Int := weights.foldl (· + ·) 0
  let score (file : String) (score : Score) : Text :=
    "\t" ++ file ++ " (score: \x7bSEVERITY: " ++ showInt (total score.severity) ++ ", CONFIDENCE: " ++
      showInt (total score.confidence) ++ "\x7d)"
  joinLines ([d.heading ("Files in scope (" ++ showInt s.targets.files.length ++ "):")] ++
    (s.targets.files.zip s.scores).map (fun (f, sc) => score f sc) ++
    [d.heading ("Files excluded (" ++ showInt s.targets.excluded.length ++ "):")] ++
    s.targets.excluded.map fun (f : String) => Text.ofString ("\t" ++ f))

def rankLines (r : Report) (criterion : String) (label : Rank → String) : Answer (List Text) := do
  let counts ← Rank.all.mapM fun rank => do
    return "\t\t" ++ capitalized rank.name ++ ": " ++ showInt (← r.total (label rank))
  return ("\tTotal issues (by " ++ criterion ++ "):") :: counts

def rankDetails (d : Decoration) (r : Report) : Answer Text := do
  let severities ← rankLines r "severity" Metrics.severityLabel
  let confidences ← rankLines r "confidence" Metrics.confidenceLabel
  return joinLines (d.heading "\nRun metrics:" :: severities ++ confidences)

def issueHead (d : Decoration) (margin start line column : Text) (i : Issue) : List Text := [
  margin ++ start ++ ">> Issue: [" ++ i.testId ++ ":" ++ i.testName ++ "] " ++ i.text,
  margin ++ "   Severity: " ++ capitalized i.severity ++ "   Confidence: " ++ capitalized i.confidence,
  margin ++ "   CWE: " ++ i.weakness.describe,
  margin ++ "   More Info: " ++ Catalogue.link i.testId,
  margin ++ "   Location: " ++ i.filename ++ ":" ++ line ++ ":" ++ column ++ d.issueEnd]

/-- The lines on one issue. Place and code are left out when it is not known which result it is. -/
def issueLines (d : Decoration) (r : Report) (margin : Text) (located : Bool) (i : Issue) : Answer Text := do
  let start ← d.issueStart i.severity
  if located then
    let code ← i.code r.files r.lines true
    return joinLines (issueHead d margin start (i.line.elim "None" showInt) (showInt i.column) i ++
      (Segments.splitOn 10 code).map (margin ++ ·))
  else return joinLines (issueHead d margin start [] [] i)

def separatorLine : Text := List.replicate 50 45

def findingLines (d : Decoration) (r : Report) (i : Issue) (candidates : List Issue) : Answer (List Text) := do
  if candidates.length == 1 then return [← issueLines d r [] true i, separatorLine]
  let shown ← candidates.mapM fun c => do
    return [← issueLines d r (List.replicate 10 32) true c, [10]]
  return [← issueLines d r [] false i, "\n-- Candidate Issues --"] ++ shown.flatten ++ [separatorLine]

def findingsText (d : Decoration) (r : Report) : Answer Text := do
  let found ← r.findings
  if found.count == 0 then return "\tNo issues identified."
  let parts ← (withCandidates found).mapM fun f => findingLines d r f.1 f.2
  return joinLines parts.flatten

def listingText (d : Decoration) (r : Report) (found ranks : Text) (loc nosec named : Int)
    (skipped : List (String × String)) : Text :=
  let details := if r.session.verbose then [fileDetails d r.session] else []
  let counted : List Text := if d.countsNamed then
      ["\tTotal potential issues skipped due to specifically being disabled (e.g., #nosec BXXX): " ++ showInt named]
    else []
  joinLines ([d.heading ("Run started:" ++ r.now.dateTime)] ++ details ++ [d.heading "\nTest results:", found,
    d.heading "\nCode scanned:",
    "\tTotal lines of code: " ++ showInt loc,
    "\tTotal lines skipped (#nosec): " ++ showInt nosec] ++ counted ++ [ranks,
    d.heading ("Files skipped (" ++ showInt skipped.length ++ "):")] ++
    skipped.map fun (name, reason) => Text.ofString ("\t" ++ name ++ " (" ++ reason ++ ")")) ++ [10]

/-- The whole listing; a quiet session without findings has none. -/
def listing (d : Decoration) (r : Report) : Answer (Option Text) := do
  if r.session.quiet && (← r.findings).count == 0 then return none
  let found ← findingsText d r
  let named ← r.total "skipped_tests"
  let skipped ← r.session.skippedNames
  let loc ← r.total "loc"
  let nosec ← r.total "nosec"
  return some (listingText d r found (← rankDetails d r) loc nosec named skipped)

end SourceAudit.Report
