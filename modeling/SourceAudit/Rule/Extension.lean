import SourceAudit.Report.Basic

/-! What is known under a name in groups: rules, formats of reports and lists of banned names. -/

namespace SourceAudit

/-- Something known by name; only what has an id can be run as a test. -/
structure Extension where
  name : String
  id : Option String := none

namespace Extension

def group : String → List Extension
  | "bandit.plugins" => Catalogue.rules.map fun r => ⟨r.name, some r.id⟩
  | "bandit.formatters" => Format.all.map fun f => ⟨f.name, none⟩
  | "bandit.blacklists" => [⟨"calls", none⟩, ⟨"imports", none⟩]
  | _ => []

def tests (es : List Extension) : List String := (es.filter fun e => e.id.isSome).map Extension.name

def complaints (es : List Extension) : String :=
  joinStrings "" ((es.filter fun e => e.id.isNone).map fun e =>
    "WARNING: Test '" ++ e.name ++ "' has no ID, skipping.\n")

end Extension

end SourceAudit
