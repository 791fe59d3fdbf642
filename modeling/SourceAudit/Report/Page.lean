import SourceAudit.Report.Basic

/-! Reports in elements with attributes: as the results of a test suite, and as pages for a browser. -/

namespace SourceAudit.Report

def escapeContent (t : Text) : Text := t.flatMap fun p =>
  if p == 38 then "&amp;" else if p == 60 then "&lt;" else if p == 62 then "&gt;" else [p]

def escapeAttribute (t : Text) : Text := (escapeContent t).flatMap fun p =>
  if p == 34 then "&quot;" else if p == 13 then "&#13;" else if p == 10 then "&#10;"
  else if p == 9 then "&#09;" else [p]

def referStrays (t : Text) : Text := t.flatMap fun p =>
  if p.isSurrogate then Text.ofString ("&#" ++ toString p.val ++ ";") else [p]

def attributes (as : List (String × Text)) : Text :=
  as.flatMap fun (name, v) => " " ++ name ++ "=\"" ++ escapeAttribute v ++ "\""

def element (name : String) (as : List (String × Text)) (content : Text) : Text :=
  if content.isEmpty then "<" ++ name ++ attributes as ++ " />"
  else "<" ++ name ++ attributes as ++ ">" ++ content ++ "</" ++ name ++ ">"

def failedCase (i : Issue) : Text :=
  let line : Text := i.line.elim "None" fun n => Text.ofString (toString n)
  let text := "Test ID: " ++ i.testId ++ " Severity: " ++ i.severity ++ " Confidence: " ++ i.confidence ++
    "\nCWE: " ++ i.weakness.describe ++ "\n" ++ i.text ++ "\nLocation " ++ i.filename ++ ":" ++ line
  element "testcase" [("classname", i.filename), ("name", i.testName)]
    (element "error" [("more_info", Catalogue.link i.testId), ("type", i.severity), ("message", i.text)]
      (escapeContent text))

def suite (r : Report) : Answer Text := do
  let issues := (← r.findings).issues
  return "<?xml version='1.0' encoding='utf-8'?>\n" ++ referStrays
    (element "testsuite" [("name", "bandit"), ("tests", Text.ofString (toString issues.length))]
      (issues.flatMap failedCase))

def pageHead : Text := "
<!DOCTYPE html>
<html>
<head>

<meta charset=\"UTF-8\">

<title>
    Bandit Report
</title>

<style>

html * \x7b
    font-family: \"Arial\", sans-serif;
\x7d

pre \x7b
    font-family: \"Monaco\", monospace;
\x7d

.bordered-box \x7b
    border: 1px solid black;
    padding-top:.5em;
    padding-bottom:.5em;
    padding-left:1em;
\x7d

.metrics-box \x7b
    font-size: 1.1em;
    line-height: 130%;
\x7d

.metrics-title \x7b
    font-size: 1.5em;
    font-weight: 500;
    margin-bottom: .25em;
\x7d

.issue-description \x7b
    font-size: 1.3em;
    font-weight: 500;
\x7d

.candidate-issues \x7b
    margin-left: 2em;
    border-left: solid 1px; LightGray;
    padding-left: 5%;
    margin-top: .2em;
    margin-bottom: .2em;
\x7d

.issue-block \x7b
    border: 1px solid LightGray;
    padding-left: .5em;
    padding-top: .5em;
    padding-bottom: .5em;
    margin-bottom: .5em;
\x7d

.issue-sev-high \x7b
    background-color: Pink;
\x7d

.issue-sev-medium \x7b
    background-color: NavajoWhite;
\x7d

.issue-sev-low \x7b
    background-color: LightCyan;
\x7d

</style>
</head>
"

def escapeMarkup (t : Text) : Text := t.flatMap fun p =>
  if p == 38 then "&amp;" else if p == 60 then "&lt;" else if p == 62 then "&gt;"
  else if p == 34 then "&quot;" else if p == 39 then "&#x27;" else [p]

def pageCode (r : Report) (i : Issue) : Answer Text := do
  let code ← i.code r.files r.lines true
  return Segments.trimStart (· == 32) (Segments.trim (· == 10) code)

def showNumber (n : Int) : Text := Text.ofString (toString n)

def codeBlock (code : Text) : Text :=
  "
<div class=\"code\">
<pre>
" ++ escapeMarkup code ++ "
</pre>
</div>
"

def candidateBlock (candidates : List Text) : Text :=
  let one (code : Text) : Text := "
<div class=\"candidate\">
<div class=\"candidate-issues\">
<pre>" ++ escapeMarkup code ++ "</pre>
</div>
</div>
"
  "
<div class=\"candidates\">
<br>
<b>Candidates: </b>
" ++ candidates.flatMap one ++ "
</div>
"

def issueText (number : Nat) (i : Issue) (code others : Text) : Text :=
  let link : Text := i.weakness.link
  let url : Text := Catalogue.link i.testId
  let line : Text := i.line.elim "None" showNumber
  "
<div id=\"issue-" ++ showNumber number ++ "\">
<div class=\"issue-block " ++ "issue-sev-" ++ lowerString i.severity ++ "\">
    <b>" ++ i.testName ++ ": </b> " ++ i.text ++ "<br>
    <b>Test ID:</b> " ++ i.testId ++ "<br>
    <b>Severity: </b>" ++ i.severity ++ "<br>
    <b>Confidence: </b>" ++ i.confidence ++ "<br>
    <b>CWE: </b><a href=\"" ++ link ++ "\" target=\"_blank\">CWE-" ++ showNumber i.weakness.id ++ "</a><br>
    <b>File: </b><a href=\"" ++ i.filename ++ "\" target=\"_blank\">" ++ i.filename ++ "</a><br>
    <b>Line number: </b>" ++ line ++ "<br>
    <b>More info: </b><a href=\"" ++ url ++ "\" target=\"_blank\">" ++ url ++ "</a><br>
" ++ code ++ "
" ++ others ++ "
</div>
</div>
"

def issueBlock (r : Report) (number : Nat) (i : Issue) (candidates : List Issue) : Answer Text := do
  if candidates.length == 1 then return issueText number i (codeBlock (← pageCode r i)) []
  else return issueText number i [] (candidateBlock (← candidates.mapM (pageCode r)))

def skippedBlock (skipped : List (String × String)) : Text :=
  let one (name reason : String) : Text := name ++ " <b>reason:</b> " ++ reason ++ "<br>"
  if skipped.isEmpty then []
  else "
<br>
<div id=\"skipped\">
<div class=\"bordered-box\">
<b>Skipped files:</b><br><br>
" ++ (skipped.flatMap fun (n, why) => one n why) ++ "
</div>
</div>
"

def metricsBlock (loc nosec : Int) : Text :=
  "
<div id=\"metrics\">
    <div class=\"metrics-box bordered-box\">
        <div class=\"metrics-title\">
            Metrics:<br>
        </div>
        Total lines of code: <span id=\"loc\">" ++ showNumber loc ++ "</span><br>
        Total lines skipped (#nosec): <span id=\"nosec\">" ++ showNumber nosec ++ "</span>
    </div>
</div>

"

def page (r : Report) : Answer Text := do
  let found := withCandidates (← r.findings)
  let skipped := skippedBlock (← r.session.skippedNames)
  let results ← found.zipIdx.mapM fun ((i, cs), n) => issueBlock r n i cs
  let metrics := metricsBlock (← r.total "loc") (← r.total "nosec")
  return pageHead ++ "
<body>
" ++ metrics ++ "
" ++ skipped ++ "

<br>
<div id=\"results\">
    " ++ results.flatten ++ "
</div>

</body>
</html>
"

end SourceAudit.Report
