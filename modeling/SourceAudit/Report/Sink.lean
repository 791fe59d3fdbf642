import SourceAudit.Text.Basic

/-! What a report is written to: text, or bytes behind an encoding. -/

namespace SourceAudit

inductive Sink where
  | text (written : Text)
  | bytes (written : Bytes)
  deriving DecidableEq, Repr

namespace Sink

def isWrapped : Sink → Bool
  | text _ => false
  | bytes _ => true

def write (t : Text) : Sink → Option Sink
  | text written => some (text (written ++ t))
  | bytes written => (Utf8.encodeText? t).map fun b => bytes (written ++ b)

end Sink

end SourceAudit
