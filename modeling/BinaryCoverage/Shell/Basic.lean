/-!
# Shell commands

A script is one command made of smaller ones.  This file defines:

* `Shell.Word` — what becomes the fields of a command, part by part;
* `Shell.Redirect` — where a stream of a command goes instead;
* `Shell.Command` — simple commands, their sequences and choices.
-/

namespace BinaryCoverage.Shell

/-! ## Words -/

/-- What a dollar sign asks for. -/
inductive Parameter where
  | variable (name : String)
  /-- The script itself at place 0, then its arguments. -/
  | argument (place : Nat)
  | arguments
  | joinedArguments
  | argumentCount
  | status
  | process
  deriving DecidableEq, Repr

inductive Part where
  | text (chars : List Char) (quoted : Bool)
  | parameter (p : Parameter) (quoted : Bool)
  deriving DecidableEq, Repr

abbrev Word : Type := List Part

/-- The text of a word without quotes and parameters. -/
def Word.plain? : Word → Option (List Char)
  | [] => some []
  | .text cs false :: rest => (Word.plain? rest).map (cs ++ ·)
  | _ => none

def isNameStart (c : Char) : Bool := c == '_' || c.isAlpha

def isNameChar (c : Char) : Bool := isNameStart c || c.isDigit

def isName : List Char → Bool
  | [] => false
  | c :: cs => isNameStart c && cs.all isNameChar

/-- The name and the value of an assignment; the name is plain text. -/
def Word.assignment? (name : List Char) : Word → Option (String × Word)
  | [] => none
  | .text (c :: cs) false :: rest =>
      if c == '=' then
        if isName name then some (String.ofList name, .text cs false :: rest) else none
      else Word.assignment? (name ++ c :: cs) rest
  | _ => none

/-! ## Commands -/

inductive Stream where
  | output
  | errors
  deriving DecidableEq, Repr

/-- Another stream, or a file. -/
inductive Target where
  | stream (s : Stream)
  | file (w : Word)
  deriving DecidableEq, Repr

structure Redirect where
  stream : Stream
  target : Target
  deriving DecidableEq, Repr

inductive Command where
  | nothing
  | simple (line : Nat) (assignments : List (String × Word)) (words : List Word)
  | redirected (body : Command) (redirects : List Redirect)
  | sequence (first second : Command)
  /-- The second command runs if the first one succeeds. -/
  | both (first second : Command)
  /-- The second command runs if the first one fails. -/
  | either (first second : Command)
  | negation (body : Command)
  | conditional (test yes no : Command)
  /-- Runs the body with the name bound to each field in turn. -/
  | each (name : String) (words : List Word) (body : Command)
  /-- Runs the body if a pattern matches the word, and the other choices if none does. -/
  | choice (word : Word) (patterns : List Word) (body others : Command)
  deriving DecidableEq, Repr

end BinaryCoverage.Shell
