import BinaryCoverage.CommandLine.Response
import Std.Time.Format

/-!
# The program

Reads the working folder, carries out the command line on it and writes back what has changed.
-/

namespace BinaryCoverage

open BinaryCoverage.Path (Location)

/-- Whether a file can be run, which its first two bytes tell. -/
def isScript (bytes : ByteArray) : Bool := bytes.toList.take 2 == "#!".toUTF8.toList

/-- Adds an entry of a folder, with everything in it. -/
partial def addEntry (l : Location) (t : FileTree) (e : IO.FS.DirEntry) : IO FileTree := do
  let here := l ++ [e.fileName]
  if ← e.path.isDir then
    let t := { t with entries := t.entries.insert here .folder }
    (← e.path.readDir).foldlM (addEntry here) t
  else
    let bytes ← IO.FS.readBinFile e.path
    return { t with entries := t.entries.insert here (.file bytes (isScript bytes)) }

/-- The working folder with everything in it. -/
def readWorkingFolder : IO FileTree := do
  let folder ← IO.currentDir
  let home := (Path.mk folder.toString).components.filterMap fun
    | .name text => some text
    | _ => none
  let above := (List.range home.length).map fun n => home.take (n + 1)
  let t : FileTree := { entries := .ofList (above.map fun l => (l, FileEntry.folder)), home }
  (← folder.readDir).foldlM (addEntry home) t

/-- Writes the entries that are new or different. -/
def writeChanges (before after : FileTree) : IO Unit := do
  for (l, entry) in after.entries.toList do
    if before.entries[l]? ≠ some entry then
      let path := (Path.ofLocation l).text
      match entry with
      | .folder => IO.FS.createDirAll path
      | .file bytes _ => IO.FS.writeBinFile path bytes
      | .link _ => pure ()

/-- The time, in the format of logs. -/
def timestamp : IO String := do
  return (← Std.Time.DateTime.now).format "uuuu-MM-dd'T'HH:mm:ss.SSSSSSSSSxxx"

/-- A duration in seconds, with two places. -/
def seconds (milliseconds : Nat) : String :=
  let hundredths := (milliseconds + 5) / 10
  let places := hundredths % 100
  s!"{hundredths / 100}.{places / 10}{places % 10}"

def Severity.label : Severity → String
  | .warning => "WARN "
  | .error => "ERROR"

end BinaryCoverage

open BinaryCoverage in
def main (arguments : List String) : IO UInt32 := do
  let start ← IO.monoMsNow
  let before ← readWorkingFolder
  let r := respond before (← timestamp) arguments
  for n in r.notices do IO.eprintln s!"[{n.severity.label}] {n.text}"
  writeChanges before r.files
  IO.print (r.outputText (seconds ((← IO.monoMsNow) - start)))
  if let some c := r.complaint then IO.eprintln c.text
  if r.code = 2 then helpLines.forM IO.eprintln
  return r.code.toUInt32
