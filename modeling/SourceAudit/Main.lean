import SourceAudit.CommandLine.Comparison
import SourceAudit.CommandLine.Scan
import Std.Time.DateTime.Timestamp

/-! The program. The name under which it is called chooses the command. -/

namespace SourceAudit.Main

/-- Names of files that a word may stand for: the word, or the argument of an option in it. -/
def namesIn (word : String) : List String :=
  word :: (CommandLine.Word.atEquals word).2.toList ++
    (if word.startsWith "-" then [String.ofList (word.toList.drop 2)] else [])

def readFile? (name : String) : IO (Option Bytes) :=
  try return some (← IO.FS.readBinFile name).toList catch _ => return none

def loadFiles (home : Place) (names : List String) : IO FileTree := do
  let mut tree := FileTree.addFolder home { home }
  for name in names do
    if let some bytes ← readFile? name then
      tree := tree.addFile (tree.placeFor name) bytes
  return tree

partial def readAll (stream : IO.FS.Stream) (read : ByteArray) : IO Bytes := do
  let chunk ← stream.read 65536
  if chunk.isEmpty then return read.toList else readAll stream (read ++ chunk)

def storeFiles (before after : FileTree) : IO Unit :=
  after.files.forM fun (place, bytes) => do
    if before.contentAt? place != some bytes then
      IO.FS.writeBinFile ("/" ++ "/".intercalate place) ⟨bytes.toArray⟩

def commandFor (program : String) : List String → Command Unit :=
  match (Path.split program).2 with
  | "bandit-config-generator" => CommandLine.starter
  | "bandit-baseline" => CommandLine.comparison
  | _ => CommandLine.scan

def codeOf : Ending → UInt32 × String
  | .exit code => (code.toUInt32, "")
  | .fault _ => (1, "the run broke off\n")
  | .unreported e => (1, e.message ++ "\n")
  | .endless => (1, "the run does not end\n")

def now : IO Moment := do
  return Moment.ofSeconds (← Std.Time.Timestamp.now).toSecondsSinceUnixEpoch.val.toNat

def run (program : String) (args : List String) : IO UInt32 := do
  let home := Path.steps (toString (← IO.currentDir))
  let files ← loadFiles home (args.flatMap namesIn)
  let input ← if args.contains "-" then readAll (← IO.getStdin) .empty else pure []
  let (ending, console) := (commandFor program args).run { files, input, now := ← now }
  storeFiles files console.files
  IO.print console.shown.toStringLossy
  console.log.forM fun m => IO.eprintln (m.level.name ++ "\t" ++ m.text.toStringLossy)
  let (code, note) := codeOf ending
  IO.eprint note
  return code

end SourceAudit.Main

def main (args : List String) : IO UInt32 := do
  SourceAudit.Main.run (toString (← IO.appPath)) args
