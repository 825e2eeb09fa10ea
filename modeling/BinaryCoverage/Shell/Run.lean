import BinaryCoverage.Files.Tree
import BinaryCoverage.Shell.Choice
import BinaryCoverage.Shell.Reader
import BinaryCoverage.Shell.Written
import BinaryCoverage.Text.Utf8

/-!
# Running scripts

A script reads files of a file tree and changes none.  Its commands are built in; any other one is
not found.  This file defines:

* `Shell.test?` — the verdict of a test;
* `Shell.builtin` — the effect of one command on its fields;
* `Shell.Command.run` — the effect of commands, which is none once the script has ended;
* `Shell.execute` — what a whole script leaves behind.
-/

namespace BinaryCoverage.Shell

/-! ## Tests -/

/-- A test of one value. -/
def unaryTest? (t : FileTree) (operator value : String) : Option Bool :=
  let path : Path := ⟨value⟩
  match operator with
  | "-n" => some (value ≠ "")
  | "-z" => some (value = "")
  | "-e" => some (t.holds path)
  | "-f" => some (t.isFile path)
  | "-d" => some (t.isFolder path)
  | "-r" => some (t.holds path)
  | "-s" => some ((t.read path).toOption.any fun bytes => bytes.size ≠ 0)
  | _ => none

/-- A test of two values. -/
def binaryTest? (operator a b : String) : Option Bool :=
  let numbers := (Written.number a, Written.number b)
  match operator with
  | "=" => some (a = b)
  | "!=" => some (a ≠ b)
  | "-eq" => some (numbers.1 = numbers.2)
  | "-ne" => some (numbers.1 ≠ numbers.2)
  | "-lt" => some (numbers.1 < numbers.2)
  | "-le" => some (numbers.1 ≤ numbers.2)
  | "-gt" => some (numbers.1 > numbers.2)
  | "-ge" => some (numbers.1 ≥ numbers.2)
  | _ => none

/-- The verdict of a test; how it is read depends on how many values there are. -/
def test? (t : FileTree) : List String → Option Bool
  | [] => some false
  | [a] => some (a ≠ "")
  | [op, a] => if op = "!" then some (a = "") else unaryTest? t op a
  | [a, op, b] =>
      (binaryTest? op a b).or (if a = "!" then (unaryTest? t op b).map (!·) else none)
  | ["!", a, op, b] => (binaryTest? op a b).map (!·)
  | _ => none

/-! ## Commands that are built in -/

def done (s : State) (status : Nat) : State := { s with status }

/-- Complains and fails. -/
def complain (w : Wiring) (s : State) (status : Nat) (text : String) : State :=
  done (s.writeText w .errors (text ++ "\n")) status

def runTest (t : FileTree) (w : Wiring) (line : Nat) (s : State) (values : List String) : State :=
  match test? t values with
  | some verdict => done s (if verdict then 0 else 1)
  | none => complain w s 2 s!"{s.script}: {line}: [: unexpected operator"

/-- Writes a file after what has been written. -/
def runCat (t : FileTree) (w : Wiring) (s : State) (name : String) : State :=
  if name = "-" then s
  else
    match t.read ⟨name⟩ with
    | .ok bytes => s.write w .output bytes
    | .error e =>
        let reason := (Text.splitOnce? " (os error".toList e.message.toList).elim e.message
          fun (a, _) => String.ofList a
        complain w s 1 s!"cat: {name}: {reason}"

/-- The number of a signal, given by number or by name. -/
def signal? (name : String) : Option Nat :=
  match Text.digits? 10 name.toList with
  | some n => some n
  | none =>
      let isNamed (found : String) : Bool := found = name || "SIG" ++ found = name
      (ExitStatus.signalNames.find? fun (_, found) => isNamed found).map (·.1)

/-- Sends a signal to a process, which can only be the script itself. -/
def runKill (w : Wiring) (line : Nat) (s : State) (signal process : String) : State :=
  match signal? signal with
  | some n =>
      if process ≠ toString processNumber then
        complain w s 1 s!"{s.script}: {line}: kill: No such process"
      else if n = 0 then done s 0
      else { s with ended := some (.signal n) }
  | none => complain w s 1 s!"{s.script}: {line}: kill: invalid signal number or name: {signal}"

/-- Ends the script with a status, that of the latest command if none is given. -/
def runExit (w : Wiring) (line : Nat) (s : State) (values : List String) : State :=
  let leave (s : State) (n : Nat) : State := { s with status := n, ended := some (.code n) }
  match values with
  | [] => leave s s.status
  | a :: _ =>
      match Text.digits? 10 a.toList with
      | some n => leave s (n % 256)
      | none =>
          leave (s.writeText w .errors s!"{s.script}: {line}: exit: Illegal number: {a}\n") 2

/-- The effect of a command with its fields. -/
def builtin (t : FileTree) (w : Wiring) (line : Nat) (s : State) (name : String)
    (values : List String) : State :=
  match name with
  | ":" => done s 0
  | "true" => done s 0
  | "false" => done s 1
  | "set" => done s 0
  | "echo" => done (s.write w .output ⟨(Written.echo values).toArray⟩) 0
  | "printf" =>
      match values with
      | [] => complain w s 2 s!"{s.script}: {line}: printf: usage: printf format [arg ...]"
      | format :: values =>
          let (bytes, isKnown) := Written.formatted format values
          let s := s.write w .output ⟨bytes.toArray⟩
          if isKnown then done s 0
          else complain w s 2 s!"{s.script}: {line}: printf: {format}: invalid directive"
  | "cat" => values.foldl (runCat t w) (done s 0)
  | "exit" => runExit w line s values
  | "shift" => done { s with arguments := s.arguments.drop 1 } 0
  | "test" => runTest t w line s values
  | "[" =>
      match values.reverse with
      | "]" :: rest => runTest t w line s rest.reverse
      | _ => complain w s 2 s!"{s.script}: {line}: [: missing ]"
  | "kill" =>
      match values with
      | ["-s", signal, process] => runKill w line s signal process
      | [process] => runKill w line s "TERM" process
      | [signal, process] => runKill w line s ((signal.dropPrefix "-").toString) process
      | _ => complain w s 2 s!"{s.script}: {line}: kill: usage"
  | _ => complain w s 127 s!"{s.script}: {line}: {name}: not found"

/-! ## Running -/

/-- The effect of a simple command; without fields it assigns variables. -/
def State.simple (t : FileTree) (w : Wiring) (s : State) (line : Nat)
    (assignments : List (String × Word)) (words : List Word) : State :=
  match s.fields words with
  | [] => done (s.assignAll assignments) 0
  | name :: values => builtin t w line s name values

/-- Goes on unless the script has ended. -/
def State.andThen (s : State) (next : State → State) : State :=
  if s.ended.isSome then s else next s

/-- The effect of a command. -/
def Command.run (t : FileTree) : Wiring → Command → State → State
  | _, .nothing, s => done s 0
  | w, .simple line assignments words, s => s.simple t w line assignments words
  | w, .redirected body rs, s => body.run t (rs.foldl (Wiring.redirect s) w) s
  | w, .sequence a b, s => (a.run t w s).andThen fun s => b.run t w s
  | w, .both a b, s => (a.run t w s).andThen fun s => if s.status = 0 then b.run t w s else s
  | w, .either a b, s => (a.run t w s).andThen fun s => if s.status = 0 then s else b.run t w s
  | w, .negation a, s =>
      (a.run t w s).andThen fun s => done s (if s.status = 0 then 1 else 0)
  | w, .conditional test yes no, s =>
      (test.run t w s).andThen fun s =>
        if s.status = 0 then yes.run t w s else no.run t w s
  | w, .each name words body, s =>
      (s.fields words).foldl
        (fun s v => s.andThen fun s => body.run t w (s.assign name v)) (done s 0)
  | w, .choice word patterns body others, s =>
      if patterns.any fun p => s.hasShape p (s.value word) then body.run t w s
      else others.run t w s

/-- What a finished script leaves behind. -/
def State.completion (s : State) : Completion where
  status := s.ended.getD (.code s.status)
  output := s.output
  errors := s.errors

/-- Runs the text of a script under a name with arguments. -/
def execute (t : FileTree) (text name : String) (arguments : List String) : Completion :=
  let start : State := { script := name, arguments }
  match Command.read? text.toList with
  | some c => (c.run t {} start).completion
  | none => (complain {} start 2 s!"{name}: 1: Syntax error").completion

end BinaryCoverage.Shell
