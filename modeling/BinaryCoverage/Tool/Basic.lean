import BinaryCoverage.Failure
import BinaryCoverage.Shell.Run

/-!
# Tools

A tool is a script in the file tree, or the shell itself.  A name without a slash is looked for in
the search path, where only the shell stands.  This file defines:

* `Tool.start` — what a tool leaves behind, unless it cannot be started;
* `Tool.run` — what a tool writes, unless it fails.
-/

namespace BinaryCoverage.Tool

/-! ## Starting -/

/-- The paths at which the shell stands. -/
def shellPaths : List Path := [⟨"/bin/sh"⟩, ⟨"/usr/bin/sh"⟩, ⟨"/bin/dash"⟩, ⟨"/usr/bin/dash"⟩]

/-- Whether a path names the shell. -/
def isShell (p : Path) : Bool :=
  p.text = "sh" || p.text = "dash" || shellPaths.any (·.components == p.components)

/-- Runs the shell with arguments: a text after `-c` with its name and arguments, or a file. -/
def startShell (t : FileTree) (name : String) : List String → Completion
  | [] => Shell.execute t "" name []
  | ["-c"] => ⟨.code 2, .empty, s!"{name}: 0: -c requires an argument\n".toUTF8⟩
  | ["-c", text] => Shell.execute t text name []
  | "-c" :: text :: name :: arguments => Shell.execute t text name arguments
  | file :: arguments =>
      match t.read ⟨file⟩ with
      | .ok bytes => Shell.execute t (Text.ofBytes bytes) file arguments
      | .error _ => ⟨.code 2, .empty, s!"{name}: 0: cannot open {file}: No such file\n".toUTF8⟩

/-- The program that the first line of a script names, and the argument in that line. -/
def interpreter? (text : String) : Option (Path × Option String) :=
  match text.toList with
  | '#' :: '!' :: rest =>
      let line := Text.trim (rest.takeWhile (· != '\n'))
      let program := line.takeWhile fun c => c != ' ' && c != '\t'
      let argument := Text.trim (line.drop program.length)
      if program.isEmpty then none
      else
        some (Path.ofChars program,
          if argument.isEmpty then none else some (String.ofList argument))
  | _ => none

/-- Runs a script by what its first line names. -/
def startScript (t : FileTree) (tool : Path) (text : String) (arguments : List String) :
    Except AccessError Completion :=
  match interpreter? text with
  | none => .error .execFormat
  | some (program, argument) =>
      if isShell program || (program.text = "/usr/bin/env" && argument == some "sh") then
        .ok (Shell.execute t text tool.text arguments)
      -- No other program of the file tree can be run.
      else if t.holds program then .error .permissionDenied
      else .error .notFound

/-- What a tool leaves behind, unless it cannot be started. -/
def start (t : FileTree) (tool : Path) (arguments : List String) :
    Except AccessError Completion :=
  if (tool.text :: arguments).any (·.toList.contains '\x00') then .error .zeroInArgument
  else if isShell tool then .ok (startShell t tool.text arguments)
  -- No other tool stands in the search path.
  else if !tool.chars.contains '/' then .error .notFound
  else
    match t.find tool with
    | .error e => .error e
    | .ok (_, .file bytes true) => startScript t tool (Text.ofBytes bytes) arguments
    | .ok _ => .error .permissionDenied

/-! ## Running -/

/-- What a tool is called in a failure. -/
def name (tool : Path) : String := tool.fileName?.getD "tool"

def failure (tool : Path) (message : String) : Failure := .toolchain (name tool) message

/-- The output of a finished tool, which has to be successful. -/
def outputOf (tool : Path) (c : Completion) : Except Failure String :=
  if c.status.isSuccess then .ok (Text.ofBytes c.output)
  else
    let complaint := String.ofList (Text.trim (Text.ofBytes c.errors).toList)
    .error (failure tool s!"{tool.text} exited with {c.status.message}: {complaint}")

/-- What a tool writes, unless it fails. -/
def run (t : FileTree) (tool : Path) (arguments : List String) : Except Failure String :=
  match start t tool arguments with
  | .error e => .error (failure tool s!"failed to spawn {tool.text}: {e.message}")
  | .ok c => outputOf tool c

end BinaryCoverage.Tool
