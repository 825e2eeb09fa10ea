import BinaryCoverage.Yaml.Cursor

/-!
# Scalars

A scalar is text: plain, in quotes, or in a block of lines of its own.  In plain and quoted text a
single line end means a blank and further ones are kept.  This file defines:

* `Gap` — the blanks and line ends between two stretches of text;
* `plain?`, `quoted?`, `block?` — the scalar that begins at a cursor.
-/

namespace BinaryCoverage.Yaml

/-! ## Gaps -/

structure Gap where
  spaces : List Char := []
  /-- The first line end, once there is one. -/
  first : List Char := []
  /-- The line ends after the first. -/
  more : List Char := []
  broken : Bool := false

namespace Gap

def isEmpty (g : Gap) : Bool := g.spaces.isEmpty && !g.broken

/-- What a gap means within text. -/
def text (g : Gap) : List Char :=
  if !g.broken then g.spaces
  else if g.first = ['\n'] then (if g.more.isEmpty then [' '] else g.more)
  else g.first ++ g.more

def addBreak (g : Gap) (b : List Char) : Gap :=
  if g.broken then { g with more := g.more ++ b } else { first := b, broken := true }

def addSpace (g : Gap) (c : Char) : Gap :=
  if g.broken then g else { g with spaces := g.spaces ++ [c] }

end Gap

/-- The gap that continues here.  A tab before a given column of a further line is refused. -/
def gap? (tabLimit : Nat) : Nat → Gap → Cursor → Option (Gap × Cursor)
  | 0, g, c => some (g, c)
  | fuel + 1, g, c =>
      match c.lineEnd? with
      | some (b, c) => gap? tabLimit fuel (g.addBreak b) c
      | none =>
          match c.head? with
          | some s =>
              if s == '\t' && g.broken && c.column < tabLimit then none
              else if isSpace s then gap? tabLimit fuel (g.addSpace s) (c.skip 1)
              else some (g, c)
          | none => some (g, c)

/-! ## Plain text -/

/-- The characters that delimit flow collections. -/
def isFlowMark (c : Char) : Bool := c == ',' || c == '[' || c == ']' || c == '{' || c == '}'

/-- The characters up to a blank or to what ends plain text. -/
def plainStretch? (flow : Bool) : List Char → Option (List Char)
  | [] => some []
  | c :: rest =>
      if isSpace c || isBreak c then some []
      else if flow && c == ':' && rest.head?.any (fun d => isFlowMark d || d == '?') then none
      else if c == ':' && endsWord rest then some []
      else if flow && isFlowMark c then some []
      else (plainStretch? flow rest).map (c :: ·)

/-- Plain text after a gap; the flag says whether a line end has come last. -/
def plainFrom? (flow : Bool) (indent : Nat) :
    Nat → Gap → Cursor → Option (List Char × Cursor × Bool)
  | 0, _, _ => none
  | fuel + 1, g, c =>
      if c.atDocument || c.head? == some '#' then some ([], c, g.broken)
      else do
        let w ← plainStretch? flow c.rest
        if w.isEmpty then some ([], c, g.broken)
        else
          let c := c.skip w.length
          let (next, c) ← gap? indent (c.rest.length + 1) {} c
          if next.isEmpty then some (g.text ++ w, c, false)
          else if !flow && c.column < indent then some (g.text ++ w, c, next.broken)
          else
            let (more, c, broken) ← plainFrom? flow indent fuel next c
            some (g.text ++ w ++ more, c, broken)

/-- The plain text that begins here, whose further lines start at least at a given column. -/
def plain? (flow : Bool) (indent : Nat) (c : Cursor) : Option (List Char × Cursor × Bool) :=
  plainFrom? flow indent (c.rest.length + 1) {} c

/-! ## Quoted text -/

/-- The character of a number, if it is one. -/
def charOf? (n : Nat) : Option Char := if h : n.isValidChar then some (Char.ofNatAux n h) else none

/-- The character that a one-letter escape stands for. -/
def escape? (c : Char) : Option Char :=
  match c with
  | '0' => some '\x00'
  | 'a' => some '\x07'
  | 'b' => some '\x08'
  | 't' | '\t' => some '\t'
  | 'n' => some '\n'
  | 'v' => some '\x0b'
  | 'f' => some '\x0c'
  | 'r' => some '\r'
  | 'e' => some '\x1b'
  | ' ' | '"' | '/' | '\\' => some c
  | 'N' => charOf? 0x85
  | '_' => charOf? 0xA0
  | 'L' => charOf? 0x2028
  | 'P' => charOf? 0x2029
  | _ => none

/-- How many hexadecimal digits follow the letter of an escape. -/
def escapeDigits? (c : Char) : Option Nat :=
  if c == 'x' then some 2 else if c == 'u' then some 4 else if c == 'U' then some 8 else none

/-- The character of an escape, after its backslash, and the number of characters that make it. -/
def readEscape? (cs : List Char) : Option (Char × Nat) := do
  let c ← cs.head?
  match escapeDigits? c with
  | none => (escape? c).map (·, 1)
  | some n =>
      let digits := (cs.drop 1).take n
      guard (digits.length = n)
      let code ← Text.digits? 16 digits
      (charOf? code).map (·, n + 1)

/-- The text up to a blank or the closing quote; the flag says whether an escaped line end has
come last. -/
def quotedStretch? (single : Bool) : Nat → Cursor → Option (List Char × Cursor × Bool)
  | 0, _ => none
  | fuel + 1, c =>
      if endsWord c.rest then some ([], c, false)
      else
        match c.rest with
        | '\'' :: '\'' :: _ =>
            if single then
              (quotedStretch? single fuel (c.skip 2)).map fun (w, r) => ('\'' :: w, r)
            else (quotedStretch? single fuel (c.skip 1)).map fun (w, r) => ('\'' :: w, r)
        | d :: rest =>
            if d == (if single then '\'' else '"') then some ([], c, false)
            else if !single && d == '\\' then
              match (c.skip 1).lineEnd? with
              | some (_, c) => some ([], c, true)
              | none => do
                  let (e, n) ← readEscape? rest
                  let (w, r) ← quotedStretch? single fuel (c.skip (n + 1))
                  some (e :: w, r)
            else (quotedStretch? single fuel (c.skip 1)).map fun (w, r) => (d :: w, r)
        | [] => none

/-- Quoted text up to its closing quote, and the cursor after that. -/
def quotedFrom? (single : Bool) : Nat → Cursor → Option (List Char × Cursor)
  | 0, _ => none
  | fuel + 1, c =>
      if c.atDocument || c.rest.isEmpty then none
      else do
        let (w, c, escaped) ← quotedStretch? single (c.rest.length + 1) c
        if c.head? == some (if single then '\'' else '"') then some (w, c.skip 1)
        else
          let (g, c) ← gap? 0 (c.rest.length + 1) { broken := escaped } c
          let (more, c) ← quotedFrom? single fuel c
          some (w ++ g.text ++ more, c)

/-- The quoted text whose opening quote stands here. -/
def quoted? (single : Bool) (c : Cursor) : Option (List Char × Cursor) :=
  quotedFrom? single (c.rest.length + 1) (c.skip 1)

/-! ## Blocks -/

/-- What becomes of the line ends at the end of a block. -/
inductive Chomping where
  | clip
  | strip
  | keep
  deriving DecidableEq

def chomping? (c : Cursor) : Option Chomping :=
  match c.head? with
  | some '+' => some .keep
  | some '-' => some .strip
  | _ => none

/-- A digit that says how far a block is indented; not zero. -/
def indentDigit? (c : Cursor) : Option Nat :=
  (c.head?.filter Text.isDigit).map (·.toNat - '0'.toNat)

/-- What stands on the first line of a block: what to do at its end and how far it is indented. -/
def blockHeader? (c : Cursor) : Option (Chomping × Option Nat × Cursor) := do
  let finish (m : Chomping) (n : Option Nat) (c : Cursor) :
      Option (Chomping × Option Nat × Cursor) := do
    guard (n != some 0)
    let c := c.skipSpaces.skipComment
    guard (endsLine c.rest)
    some (m, n, c.skipLineEnd)
  match chomping? c with
  | some m =>
      let c := c.skip 1
      match indentDigit? c with
      | some n => finish m (some n) (c.skip 1)
      | none => finish m none c
  | none =>
      match indentDigit? c with
      | some n =>
          let c := c.skip 1
          match chomping? c with
          | some m => finish m (some n) (c.skip 1)
          | none => finish .clip (some n) c
      | none => finish .clip none c

/-- The line ends before the next line with text, and the greatest column reached.  Until the
indentation is known, all blanks in front belong to it; a tab among them is refused. -/
def blockBreaks? (indent : Option Nat) : Nat → Nat → Cursor → Option (List Char × Nat × Cursor)
  | 0, _, _ => none
  | fuel + 1, reached, c =>
      let blanks := (c.rest.takeWhile (· == ' ')).length
      let c := c.skip (match indent with | none => blanks | some n => min blanks (n - c.column))
      let reached := max reached c.column
      if c.head? == some '\t' && indent.all (c.column < ·) then none
      else
        match c.lineEnd? with
        | none => some ([], reached, c)
        | some (b, c) => (blockBreaks? indent fuel reached c).map fun (bs, r) => (b ++ bs, r)

/-- The lines of a block from one with text on: the text, and the line ends after it. -/
def blockLines? (literal : Bool) (indent : Nat) :
    Nat → List Char → List Char → Bool → Cursor →
      Option (List Char × List Char × List Char × Cursor)
  | 0, _, _, _, _ => none
  | fuel + 1, before, blankLines, afterBlank, c =>
      if c.column = indent && !c.rest.isEmpty then do
        let startsBlank := c.head?.any isSpace
        let folds := !literal && before = ['\n'] && !afterBlank && !startsBlank
        let joint :=
          if folds then (if blankLines.isEmpty then [' '] else blankLines) else before ++ blankLines
        let line := c.rest.takeWhile (!isBreak ·)
        let c := c.skipLine
        let (ending, c) := (c.lineEnd?).getD ([], c)
        let (blankLines, _, c) ← blockBreaks? (some indent) (c.rest.length + 1) 0 c
        let (text, r) ← blockLines? literal indent fuel ending blankLines startsBlank c
        some (joint ++ line ++ text, r)
      else some ([], before, blankLines, c)

/-- The block whose mark stands here, inside something indented to a given column, if any. -/
def block? (literal : Bool) (parent : Option Nat) (c : Cursor) : Option (List Char × Cursor) := do
  let (chomping, digit, c) ← blockHeader? (c.skip 1)
  let known := digit.map fun n => parent.getD 0 + n
  let (blankLines, reached, c) ← blockBreaks? known (c.rest.length + 1) 0 c
  let indent := known.getD (max 1 (max reached ((parent.map (· + 1)).getD 0)))
  let (text, ending, blankLines, c) ←
    blockLines? literal indent (c.rest.length + 1) [] blankLines false c
  let tail := match chomping with
    | .strip => []
    | .clip => ending
    | .keep => ending ++ blankLines
  some (text ++ tail, c)

end BinaryCoverage.Yaml
