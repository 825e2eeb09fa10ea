import BinaryCoverage.Shell.Basic
import BinaryCoverage.Text.Number

/-!
# Tokens of a script

A script is read as words, redirections and the marks between them.  Comments and blanks separate
tokens and are dropped.  This file defines:

* `Shell.readWord?` — a word with its quotes and parameters;
* `Shell.tokens?` — the tokens of a script, unless a quote is left open.
-/

namespace BinaryCoverage.Shell

inductive Mark where
  | newline
  | semicolon
  | doubleSemicolon
  | both
  | either
  | bar
  | opening
  | closing
  deriving DecidableEq, Repr

inductive Token where
  | word (line : Nat) (w : Word)
  /-- A stream that goes to the file named by the next word. -/
  | redirect (s : Stream)
  | duplicate (s target : Stream)
  | mark (m : Mark)
  deriving DecidableEq, Repr

/-! ## Parameters -/

/-- The parameter of one character. -/
def specialParameter? : Char → Option Parameter
  | '@' => some .arguments
  | '*' => some .joinedArguments
  | '#' => some .argumentCount
  | '?' => some .status
  | '$' => some .process
  | c => if c.isDigit then some (.argument (c.toNat - '0'.toNat)) else none

/-- The parameter with a given name in braces. -/
def bracedParameter? (name : List Char) : Option Parameter :=
  match name with
  | [c] => if isName [c] then some (.variable (String.ofList name)) else specialParameter? c
  | _ =>
      if isName name then some (.variable (String.ofList name))
      else (Text.digits? 10 name).map .argument

/-- The parameter after a dollar sign and what follows it; without one the sign stands for
itself. -/
def readParameter (quoted : Bool) (cs : List Char) : Part × List Char :=
  let sign : Part × List Char := (.text ['$'] quoted, cs)
  match cs with
  | '\x7b' :: rest =>
      match bracedParameter? (rest.takeWhile (· != '\x7d')), rest.dropWhile (· != '\x7d') with
      | some p, _ :: rest => (.parameter p quoted, rest)
      | _, _ => sign
  | c :: rest =>
      if isNameStart c then
        (.parameter (.variable (String.ofList (cs.takeWhile isNameChar))) quoted,
          cs.dropWhile isNameChar)
      else
        match specialParameter? c with
        | some p => (.parameter p quoted, rest)
        | none => sign
  | [] => sign

/-! ## Words -/

/-- The characters that a backslash quotes between double quotes. -/
def isEscapable (c : Char) : Bool := c == '$' || c == '\x60' || c == '"' || c == '\\'

/-- The parts up to the closing double quote, and what follows it; the number bounds how many
parts there are. -/
def readQuoted? : Nat → List Char → Option (Word × List Char)
  | _ + 1, '"' :: rest => some ([], rest)
  | n + 1, '\\' :: '\n' :: rest => readQuoted? n rest
  | n + 1, '\\' :: c :: rest =>
      (readQuoted? n rest).map fun (w, rest) =>
        (.text (if isEscapable c then [c] else ['\\', c]) true :: w, rest)
  | n + 1, '$' :: rest =>
      let (p, rest) := readParameter true rest
      (readQuoted? n rest).map fun (w, rest) => (p :: w, rest)
  | n + 1, c :: rest => (readQuoted? n rest).map fun (w, rest) => (.text [c] true :: w, rest)
  | _, _ => none

/-- Whether a character outside quotes ends a word. -/
def endsWord (c : Char) : Bool :=
  c == ' ' || c == '\t' || c == '\n' || c == ';' || c == '&' || c == '|' || c == '<' || c == '>' ||
    c == '(' || c == ')'

/-- A word and what follows it; the number bounds how many parts it has. -/
def readWord? : Nat → List Char → Option (Word × List Char)
  | n + 1, '\'' :: rest =>
      match rest.dropWhile (· != '\'') with
      | _ :: after =>
          (readWord? n after).map fun (w, rest') =>
            (.text (rest.takeWhile (· != '\'')) true :: w, rest')
      | [] => none
  | n + 1, '"' :: rest =>
      match readQuoted? (rest.length + 1) rest with
      | some (parts, rest) =>
          let parts := if parts.isEmpty then [.text [] true] else parts
          (readWord? n rest).map fun (w, rest) => (parts ++ w, rest)
      | none => none
  | n + 1, '\\' :: '\n' :: rest => readWord? n rest
  | n + 1, '\\' :: c :: rest =>
      (readWord? n rest).map fun (w, rest) => (.text [c] true :: w, rest)
  | n + 1, '$' :: rest =>
      let (p, rest) := readParameter false rest
      (readWord? n rest).map fun (w, rest) => (p :: w, rest)
  | n + 1, c :: rest =>
      if endsWord c then some ([], c :: rest)
      else (readWord? n rest).map fun (w, rest) => (.text [c] false :: w, rest)
  | _, cs => some ([], cs)

/-! ## Tokens -/

/-- The redirection or mark at the beginning, and what follows it. -/
def readMark? : List Char → Option (Token × List Char)
  | '2' :: '>' :: '&' :: '1' :: rest => some (.duplicate .errors .output, rest)
  | '1' :: '>' :: '&' :: '2' :: rest => some (.duplicate .output .errors, rest)
  | '>' :: '&' :: '2' :: rest => some (.duplicate .output .errors, rest)
  | '>' :: '&' :: '1' :: rest => some (.duplicate .output .output, rest)
  | '2' :: '>' :: '>' :: rest => some (.redirect .errors, rest)
  | '2' :: '>' :: rest => some (.redirect .errors, rest)
  | '1' :: '>' :: '>' :: rest => some (.redirect .output, rest)
  | '1' :: '>' :: rest => some (.redirect .output, rest)
  | '>' :: '>' :: rest => some (.redirect .output, rest)
  | '>' :: rest => some (.redirect .output, rest)
  | '\n' :: rest => some (.mark .newline, rest)
  | ';' :: ';' :: rest => some (.mark .doubleSemicolon, rest)
  | ';' :: rest => some (.mark .semicolon, rest)
  | '&' :: '&' :: rest => some (.mark .both, rest)
  | '|' :: '|' :: rest => some (.mark .either, rest)
  | '|' :: rest => some (.mark .bar, rest)
  | '(' :: rest => some (.mark .opening, rest)
  | ')' :: rest => some (.mark .closing, rest)
  | _ => none

/-- The tokens of what is left of a script; the number bounds how many there are. -/
def readTokens? : Nat → Nat → List Char → Option (List Token)
  | 0, _, _ => some []
  | _, _, [] => some []
  | n + 1, line, c :: rest =>
      if c == ' ' || c == '\t' then readTokens? n line rest
      else if c == '#' then readTokens? n line (rest.dropWhile (· != '\n'))
      else if c == '\\' && rest.head? == some '\n' then readTokens? n (line + 1) (rest.drop 1)
      else
        match readMark? (c :: rest) with
        | some (token, rest) =>
            (readTokens? n (if c == '\n' then line + 1 else line) rest).map (token :: ·)
        | none =>
            match readWord? (rest.length + 2) (c :: rest) with
            | none => none
            | some (w, after) =>
                if after.length ≤ rest.length then
                  let lines := (c :: rest).count '\n' - after.count '\n'
                  (readTokens? n (line + lines) after).map (.word line w :: ·)
                else none

def tokens? (script : List Char) : Option (List Token) := readTokens? (script.length + 1) 1 script

end BinaryCoverage.Shell
