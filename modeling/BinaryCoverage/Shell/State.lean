import BinaryCoverage.Shell.Basic
import BinaryCoverage.Table
import BinaryCoverage.Tool.Status

/-!
# The state of a running script

A running script has arguments, variables, the status of its latest command and what it has written
so far.  This file defines:

* `Shell.State.fields` — the fields that words become;
* `Shell.State.value` — the text that one word becomes;
* `Shell.Wiring` — where the streams of a command lead.
-/

namespace BinaryCoverage.Shell

structure State where
  /-- What the script was started as. -/
  script : String
  arguments : List String
  bindings : Table String String := ∅
  status : Nat := 0
  output : ByteArray := .empty
  errors : ByteArray := .empty
  /-- How the script has ended, once it has. -/
  ended : Option ExitStatus := none

/-! ## Parameters -/

/-- What stands for the number of the running process. -/
def processNumber : Nat := 2

namespace State

/-- The value of a parameter that is one text. -/
def parameter (s : State) : Parameter → String
  | .variable name => (s.bindings[name]?).getD ""
  | .argument 0 => s.script
  | .argument (n + 1) => (s.arguments[n]?).getD ""
  | .arguments => String.intercalate " " s.arguments
  | .joinedArguments => String.intercalate " " s.arguments
  | .argumentCount => toString s.arguments.length
  | .status => toString s.status
  | .process => toString processNumber

end State

/-! ## Fields -/

/-- Fields under construction: those that are done, the latest first, and the one that is open. -/
structure Fields where
  done : List String := []
  current : Option (List Char) := none

namespace Fields

def add (f : Fields) (cs : List Char) : Fields :=
  { f with current := some (f.current.getD [] ++ cs) }

def close (f : Fields) : Fields :=
  match f.current with
  | none => f
  | some cs => ⟨String.ofList cs :: f.done, none⟩

def isSeparator (c : Char) : Bool := c == ' ' || c == '\t' || c == '\n'

/-- Adds a value that blanks split. -/
def split (f : Fields) (value : String) : Fields :=
  value.toList.foldl (fun f c => if isSeparator c then f.close else f.add [c]) f

/-- Adds values of which each begins a field, except that the first one goes on with the open
field. -/
def addEach (f : Fields) : List String → Fields
  | [] => f
  | a :: rest => rest.foldl (fun f b => f.close.add b.toList) (f.add a.toList)

def toList (f : Fields) : List String := f.close.done.reverse

end Fields

namespace State

def addPart (s : State) (f : Fields) : Part → Fields
  | .text cs quoted => if quoted || !cs.isEmpty then f.add cs else f
  | .parameter .arguments true => f.addEach s.arguments
  | .parameter p true => f.add (s.parameter p).toList
  | .parameter .arguments false => s.arguments.foldl (fun f a => (f.split a).close) f
  | .parameter .joinedArguments false => s.arguments.foldl (fun f a => (f.split a).close) f
  | .parameter p false => f.split (s.parameter p)

/-- The fields that words become. -/
def fields (s : State) (ws : List Word) : List String :=
  ws.flatMap fun w => (w.foldl s.addPart {}).toList

/-- The text of a part. -/
def partText (s : State) : Part → List Char
  | .text cs _ => cs
  | .parameter p _ => (s.parameter p).toList

/-- The text that a word becomes where it is not split. -/
def value (s : State) (w : Word) : String := String.ofList (w.flatMap s.partText)

def assign (s : State) (name value : String) : State :=
  { s with bindings := s.bindings.insert name value }

def assignAll (s : State) (assignments : List (String × Word)) : State :=
  assignments.foldl (fun s (name, w) => s.assign name (s.value w)) s

end State

/-! ## Streams -/

/-- Where the streams of a command lead, if anywhere. -/
structure Wiring where
  output : Option Stream := some .output
  errors : Option Stream := some .errors

namespace Wiring

def of (w : Wiring) : Stream → Option Stream
  | .output => w.output
  | .errors => w.errors

/-- Where a target leads; what goes to a file is dropped. -/
def destination (w : Wiring) (s : State) : Target → Option Stream
  | .stream stream => w.of stream
  | .file word =>
      let name := s.value word
      if name = "/dev/stdout" then w.output
      else if name = "/dev/stderr" then w.errors
      else none

def redirect (s : State) (w : Wiring) (r : Redirect) : Wiring :=
  match r.stream with
  | .output => { w with output := w.destination s r.target }
  | .errors => { w with errors := w.destination s r.target }

end Wiring

namespace State

/-- Writes to where a stream leads. -/
def write (s : State) (w : Wiring) (stream : Stream) (bytes : ByteArray) : State :=
  match w.of stream with
  | some .output => { s with output := s.output ++ bytes }
  | some .errors => { s with errors := s.errors ++ bytes }
  | none => s

def writeText (s : State) (w : Wiring) (stream : Stream) (text : String) : State :=
  s.write w stream text.toUTF8

end State

end BinaryCoverage.Shell
