import SourceAudit.Issue.Basic

/-! The scores of files, for each rank the weights of its issues, and numbers about the files, one by one and in total. -/

namespace SourceAudit

structure Score where
  severity : List Int := [0, 0, 0, 0]
  confidence : List Int := [0, 0, 0, 0]
  deriving DecidableEq, Repr, Inhabited

namespace Score

def addWeight (r : Rank) (weights : List Int) : List Int := weights.modify r.index (· + r.weight)

def addSeverity (r : Rank) (s : Score) : Score := { s with severity := addWeight r s.severity }

def addConfidence (r : Rank) (s : Score) : Score := { s with confidence := addWeight r s.confidence }

end Score

abbrev Counts := List (String × Int)

namespace Counts

def add (label : String) (n : Int) (cs : Counts) : Counts := Entries.put label (· + n) n cs

def set (label : String) (n : Int) (cs : Counts) : Counts := Entries.put label (fun _ => n) n cs

def get (label : String) (cs : Counts) : Int := (cs.lookup label).getD 0

def zero : Counts := [("loc", 0), ("nosec", 0), ("skipped_tests", 0)]

def sum (a b : Counts) : Counts := b.foldl (fun acc (label, n) => acc.add label n) a

end Counts

inductive Metrics.Current where
  | none
  | block (name : String)
  /-- A block that has been replaced; what is counted into it is never seen. -/
  | replaced
  deriving DecidableEq, Repr

structure Metrics where
  blocks : List (String × Counts)
  current : Metrics.Current := .none

namespace Metrics

def totalName : String := "_totals"

def severityLabel (r : Rank) : String := "SEVERITY." ++ r.name

def confidenceLabel (r : Rank) : String := "CONFIDENCE." ++ r.name

end Metrics

inductive Scale where
  | severity
  | confidence
  deriving DecidableEq, Repr

namespace Scale

def all : List Scale := [severity, confidence]

def label : Scale → Rank → String
  | severity => Metrics.severityLabel
  | confidence => Metrics.confidenceLabel

def weights : Scale → Score → List Int
  | severity => Score.severity
  | confidence => Score.confidence

end Scale

namespace Metrics

def empty : Metrics :=
  { blocks := [(totalName, Counts.zero ++ Rank.all.flatMap fun r => [(severityLabel r, 0), (confidenceLabel r, 0)])] }

def putBlock (name : String) (cs : Counts) (blocks : List (String × Counts)) : List (String × Counts) :=
  Entries.put name (fun _ => cs) cs blocks

def begin (name : String) (m : Metrics) : Metrics :=
  { blocks := putBlock name Counts.zero m.blocks, current := .block name }

def modify (f : Counts → Counts) (m : Metrics) : Answer Metrics :=
  match m.current with
  | .none => .error .missingAttribute
  | .replaced => .ok m
  | .block name => .ok { m with blocks := Entries.update name f m.blocks }

def addNosec (n : Int) (m : Metrics) : Answer Metrics := m.modify (Counts.add "nosec" n)

def addSkipped (n : Int) (m : Metrics) : Answer Metrics := m.modify (Counts.add "skipped_tests" n)

def isSpaceByte (b : UInt8) : Bool := b == 32 || (9 ≤ b && b ≤ 13)

def isCodeLine (line : Bytes) : Bool :=
  match line.dropWhile isSpaceByte with
  | [] => false
  | b :: _ => b != 35

def addLines (lines : List Bytes) (m : Metrics) : Answer Metrics :=
  m.modify (Counts.add "loc" (lines.countP isCodeLine))

def issueCount (weights : List Int) (r : Rank) : Answer Int :=
  match weights[r.index]? with
  | some w => .ok (w.fdiv r.weight)
  | none => .error .outOfRange

/-- Counts the issues of one rank into a label of its own, unless there is a number for the label already. -/
def countRank (s : Score) (scale : Scale) (counts : Counts) (r : Rank) : Answer Counts := do
  let label := scale.label r
  if counts.any (·.1 == label) then return counts
  return (counts.set label 0).add label (← issueCount (scale.weights s) r)

def countScore (counts : Counts) (s : Score) : Answer Counts :=
  Scale.all.foldlM (fun counts scale => Rank.all.foldlM (countRank s scale) counts) counts

def issueCounts (scores : List Score) : Answer Counts := scores.foldlM countScore []

/-- Sets the numbers of issues in the current block. -/
def setIssues (scores : List Score) (m : Metrics) : Answer Metrics := do
  let _ ← m.modify id
  let counts ← issueCounts scores
  m.modify fun cs => counts.foldl (fun acc (label, n) => acc.set label n) cs

def aggregate (m : Metrics) : Metrics :=
  { blocks := putBlock totalName (m.blocks.foldl (fun acc b => acc.sum b.2) []) m.blocks
    current := if m.current == .block totalName then .replaced else m.current }

def total (m : Metrics) : Counts := (m.blocks.lookup totalName).getD []

end Metrics

end SourceAudit
