import MutationTesting.CommandLine.Command
import MutationTesting.Ledger.Notation
import Std.Time

/-!
The program. It takes its command from the arguments and sees the files whose paths are on standard
input, one a line; it prints what the command prints, writes the files that the command has changed,
and ends with the command's exit code.
-/

namespace MutationTesting.Main

/-- What a node is as a file. -/
def bytes : Node → ByteArray
  | .file content => content
  | .database content => content.text.toUTF8
  | .directory _ => .empty

/-- A file as a node: a database if it is the text of one. -/
def node (content : ByteArray) : Node :=
  match (String.fromUTF8? content).bind Database.ofText? with
  | some database => .database database
  | none => .file content

/-- Reads the files named on the lines of a stream. -/
partial def read (input : IO.FS.Stream) (files : Files) : IO Files := do
  let line ← input.getLine
  if line.isEmpty then return files
  let path := if line.endsWith "\n" then (line.dropEnd 1).toString else line
  let content ← IO.FS.readBinFile path
  read input (files.place ⟨path⟩ (node content))

/-- Writes the files that differ from those of before. -/
def write (before after : Files) : IO Unit :=
  for names in after.root.files do
    let content := (after.root.at? names).map bytes
    unless content == (before.root.at? names).map bytes do
      if let outer@(_ :: _) := names.dropLast then IO.FS.createDirAll ("/".intercalate outer)
      IO.FS.writeBinFile ("/".intercalate names) (content.getD .empty)

def date : IO String := do return (← Std.Time.PlainDateTime.now).format "dd/MM/uuuu HH:mm:ss"

end MutationTesting.Main

open MutationTesting in
def main (words : List String) : IO UInt32 := do
  let before ← Main.read (← IO.getStdin) .empty
  let outcome := CommandLine.invoke words (← Main.date) before
  IO.print outcome.console.printed
  Main.write before outcome.console.files
  if let some failure := outcome.failure then IO.eprintln s!"Error: {failure.message}"
  return outcome.exitCode.toUInt32
