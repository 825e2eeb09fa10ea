import BinaryCoverage.Shell.Token

/-!
# Reading scripts

The commands of a script are read from its tokens by recursive descent.  This file defines:

* `Shell.readList?` — commands up to a word that ends them;
* `Shell.Command.read?` — the command that makes up a whole script.
-/

namespace BinaryCoverage.Shell

/-- The word at the beginning, if it is plain text. -/
def keyword? : List Token → Option (String × List Token)
  | .word _ w :: rest => w.plain?.map fun cs => (String.ofList cs, rest)
  | _ => none

/-- What follows a given keyword. -/
def expect? (name : String) (ts : List Token) : Option (List Token) :=
  match keyword? ts with
  | some (found, rest) => if found = name then some rest else none
  | none => none

def skipNewlines : List Token → List Token
  | .mark .newline :: rest => skipNewlines rest
  | ts => ts

/-- The words that end a list of commands. -/
def closers : List String := ["then", "elif", "else", "fi", "do", "done", "esac", "\x7d"]

/-- Whether no further command of a list begins here. -/
def endsList (ts : List Token) : Bool :=
  match ts with
  | [] => true
  | .mark .doubleSemicolon :: _ => true
  | .mark .closing :: _ => true
  | _ => (keyword? ts).any fun (name, _) => closers.contains name

/-- The separator of two commands. -/
def separator? : List Token → Option (List Token)
  | .mark .newline :: rest => some rest
  | .mark .semicolon :: rest => some rest
  | _ => none

/-- A redirection and what follows it. -/
def redirect? : List Token → Option (Redirect × List Token)
  | .redirect s :: .word _ w :: rest => some (⟨s, .file w⟩, rest)
  | .duplicate s target :: rest => some (⟨s, .stream target⟩, rest)
  | _ => none

/-- The redirections at the beginning and what follows them. -/
def readRedirects : Nat → List Token → List Redirect × List Token
  | 0, ts => ([], ts)
  | n + 1, ts =>
      match redirect? ts with
      | some (r, rest) =>
          let (rs, rest) := readRedirects n rest
          (r :: rs, rest)
      | none => ([], ts)

/-- The words at the beginning and what follows them. -/
def readWords : List Token → List Word × List Token
  | .word _ w :: rest =>
      let (ws, rest) := readWords rest
      (w :: ws, rest)
  | ts => ([], ts)

/-! ## Simple commands -/

/-- What a simple command is made of. -/
structure SimpleParts where
  assignments : List (String × Word) := []
  words : List Word := []
  redirects : List Redirect := []

/-- Adds a word, which is an assignment as long as there is no other word. -/
def SimpleParts.addWord (p : SimpleParts) (w : Word) : SimpleParts :=
  match p.words, Word.assignment? [] w with
  | [], some a => { p with assignments := p.assignments ++ [a] }
  | _, _ => { p with words := p.words ++ [w] }

/-- The words and redirections up to the next mark. -/
def readSimple : Nat → SimpleParts → List Token → SimpleParts × List Token
  | 0, p, ts => (p, ts)
  | n + 1, p, ts =>
      match ts, redirect? ts with
      | .word _ w :: rest, _ => readSimple n (p.addWord w) rest
      -- Redirections may stand between the words.
      | _, some (r, rest) => readSimple n { p with redirects := p.redirects ++ [r] } rest
      | _, none => (p, ts)

def Command.withRedirects (c : Command) (rs : List Redirect) : Command :=
  if rs.isEmpty then c else .redirected c rs

/-- A simple command, which has at least one token. -/
def simple? (ts : List Token) : Option (Command × List Token) :=
  let line := match ts with
    | .word line _ :: _ => line
    | _ => 1
  let (p, rest) := readSimple ts.length {} ts
  if rest.length < ts.length then
    some (Command.withRedirects (.simple line p.assignments p.words) p.redirects, rest)
  else none

/-! ## Compound commands -/

/-- The patterns of a choice up to the closing bracket. -/
def readPatterns? : List Token → Option (List Word × List Token)
  | .word _ w :: .mark .bar :: rest => (readPatterns? rest).map fun (ws, rest) => (w :: ws, rest)
  | .word _ w :: .mark .closing :: rest => some ([w], rest)
  | _ => none

/-- The fields that a loop goes through: given words, or else the arguments of the script. -/
def readFields? (ts : List Token) : Option (List Word × List Token) :=
  match expect? "in" (skipNewlines ts) with
  | some rest => some (readWords rest)
  | none => some ([[.parameter .arguments true]], ts)

mutual

/-- Commands one after the other.  The number bounds how deep the reading goes. -/
def readList? : Nat → List Token → Option (Command × List Token)
  | 0, _ => none
  | n + 1, ts =>
      let ts := skipNewlines ts
      if endsList ts then some (.nothing, ts)
      else
        match readChain? n ts with
        | none => none
        | some (first, rest) =>
            match separator? rest with
            | none => some (first, rest)
            | some rest =>
                -- A separator at the end of a list ends its last command.
                if endsList (skipNewlines rest) then some (first, skipNewlines rest)
                else (readList? n rest).map fun (second, rest) => (.sequence first second, rest)

/-- Commands of which one decides whether the next one runs. -/
def readChain? : Nat → List Token → Option (Command × List Token)
  | 0, _ => none
  | n + 1, ts =>
      match readCommand? n ts with
      | none => none
      | some (first, rest) => readLinks? n first rest

/-- Adds the links of a chain to what comes before them. -/
def readLinks? : Nat → Command → List Token → Option (Command × List Token)
  | 0, _, _ => none
  | n + 1, first, ts =>
      match ts with
      | .mark .both :: rest =>
          match readCommand? n (skipNewlines rest) with
          | none => none
          | some (second, rest) => readLinks? n (.both first second) rest
      | .mark .either :: rest =>
          match readCommand? n (skipNewlines rest) with
          | none => none
          | some (second, rest) => readLinks? n (.either first second) rest
      | _ => some (first, ts)

/-- One command with its redirections. -/
def readCommand? : Nat → List Token → Option (Command × List Token)
  | 0, _ => none
  | n + 1, ts =>
      match keyword? ts with
      | some ("!", rest) => (readCommand? n rest).map fun (c, rest) => (.negation c, rest)
      | some ("\x7b", rest) => do
          let (body, rest) ← readList? n rest
          finish body (← expect? "\x7d" rest)
      | some ("if", rest) => do
          let (c, rest) ← readBranch? n rest
          finish c rest
      | some ("for", .word _ w :: rest) => do
          let name ← w.plain?
          let (fields, rest) ← readFields? rest
          let rest := skipNewlines ((separator? rest).getD rest)
          let (body, rest) ← readList? n (← expect? "do" rest)
          finish (.each (String.ofList name) fields body) (← expect? "done" rest)
      | some ("case", .word _ w :: rest) => do
          let (c, rest) ← readChoices? n w (← expect? "in" (skipNewlines rest))
          finish c rest
      | some (name, _) => if closers.contains name then none else simple? ts
      | none => simple? ts
where
  finish (c : Command) (ts : List Token) : Option (Command × List Token) :=
    let (rs, rest) := readRedirects ts.length ts
    some (c.withRedirects rs, rest)

/-- A condition and its two branches, after the word that begins it. -/
def readBranch? : Nat → List Token → Option (Command × List Token)
  | 0, _ => none
  | n + 1, ts => do
      let (test, rest) ← readList? n ts
      let (yes, rest) ← readList? n (← expect? "then" rest)
      match keyword? rest with
      | some ("fi", rest) => some (.conditional test yes .nothing, rest)
      | some ("elif", rest) =>
          (readBranch? n rest).map fun (no, rest) => (.conditional test yes no, rest)
      | some ("else", rest) => do
          let (no, rest) ← readList? n rest
          some (.conditional test yes no, ← expect? "fi" rest)
      | _ => none

/-- The choices for a word, up to the word that ends them. -/
def readChoices? : Nat → Word → List Token → Option (Command × List Token)
  | 0, _, _ => none
  | n + 1, w, ts =>
      let ts := skipNewlines ts
      match expect? "esac" ts with
      | some rest => some (.nothing, rest)
      | none => do
          -- An opening bracket in front of the patterns is optional.
          let ts := match ts with
            | .mark .opening :: rest => rest
            | _ => ts
          let (patterns, rest) ← readPatterns? ts
          let (body, rest) ← readList? n rest
          let rest := match rest with
            | .mark .doubleSemicolon :: rest => rest
            | _ => rest
          (readChoices? n w rest).map fun (others, rest) => (.choice w patterns body others, rest)

end

/-- The command that makes up a script. -/
def Command.read? (script : List Char) : Option Command :=
  match tokens? script with
  | none => none
  | some ts =>
      match readList? (4 * ts.length + 4) ts with
      | some (c, []) => some c
      | _ => none

end BinaryCoverage.Shell
