import SourceAudit.Data.Moment
import SourceAudit.Scan.Session

/-! The formats of reports, and what a report is made from. -/

namespace SourceAudit

inductive Format where
  | csv
  | custom
  | html
  | json
  | screen
  | txt
  | xml
  | yaml
  deriving DecidableEq, Repr

namespace Format

def all : List Format := [csv, custom, html, json, screen, txt, xml, yaml]

def name : Format → String
  | csv => "csv"
  | custom => "custom"
  | html => "html"
  | json => "json"
  | screen => "screen"
  | txt => "txt"
  | xml => "xml"
  | yaml => "yaml"

def ofName? (name : String) : Option Format := all.find? fun f => f.name == name

/-- Whether a report in this format can show how results compare with those of an earlier run. -/
def takesBaseline : Format → Bool
  | custom | html | json | screen | txt => true
  | csv | xml | yaml => false

end Format

structure Report where
  session : Session
  files : LineSource
  severity : String
  confidence : String
  lines : Int
  now : Moment
  /-- The folder from which relative paths start. -/
  home : String

namespace Report

def findings (r : Report) : Answer Findings := r.session.findings r.severity r.confidence

def withCandidates : Findings → List (Issue × List Issue)
  | .plain is => is.map fun i => (i, [i])
  | .compared is => is

def total (r : Report) (label : String) : Answer Int :=
  match r.session.metrics.total.lookup label with
  | some n => .ok n
  | none => .error .missingKey

def sortedBy {α : Type} (key : α → String) (as : List α) : List α := as.mergeSort fun a b => key a ≤ key b

def ordered {α : Type} (r : Report) (issue : α → Issue) (as : List α) : List α :=
  sortedBy (fun a => if r.session.aggregation == "vuln" then (issue a).testName else (issue a).filename) as

end Report

end SourceAudit
