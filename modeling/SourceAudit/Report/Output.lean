import SourceAudit.Report.Listing
import SourceAudit.Report.Messages
import SourceAudit.Report.Page
import SourceAudit.Report.Records

/-! Writing a report in one of the formats. -/

namespace SourceAudit

inductive ReportError where
  | failed (format : Format)
  | refused
  deriving DecidableEq, Repr

def ReportError.message : ReportError → String
  | .failed f => "Unable to output report using '" ++ f.name ++ "' formatter"
  | .refused => ""

structure ReportText where
  shown : Text := []
  written : Text := []

namespace Report

def formatOf (name : String) : Format := (Format.ofName? name).getD .txt

def encodable (t : Text) : Answer Text :=
  if t.any CodePoint.isSurrogate then .error .unencodable else .ok t

def deliver (format : Format) (goes : Text → ReportText) (made : Answer Text) : Except ReportError ReportText :=
  match made >>= encodable with
  | .ok t => .ok (goes t)
  | .error _ => .error (.failed format)

def write (format : Format) (template : Option Text) (r : Report) : Except ReportError ReportText × Log :=
  let written (made : Answer Text) := deliver format (fun t => { written := t }) made
  match format with
  | .csv => (written r.table, [])
  | .html => (written r.page, [])
  | .json => (written r.json, [])
  | .txt => (written ((·.getD []) <$> listing undecorated r), [])
  | .xml => (written r.suite, [])
  | .yaml => (written r.yaml, [])
  | .screen => (deliver format (fun t => { shown := t }) ((·.getD []) <$> listing coloured r), [])
  | .custom =>
    let (made, log) := messages template r
    match made with
    | .ok t => (written (.ok t), log)
    | .error (.refused _) => (.error .refused, log)
    | .error (.fault _) => (.error (.failed format), log)

end Report

end SourceAudit
