import BinaryCoverage.Yaml.Scalar
import BinaryCoverage.Yaml.Tag
import BinaryCoverage.Yaml.Token

/-!
# From text to tokens

Blocks are told by indentation.  A key that no question mark announces is only known as one by the
colon after it, so a place is kept for it among the tokens; it has to stand on one line and within
1024 characters.  This file defines:

* `Lexer` — the tokens so far and what is needed to go on;
* `tokens?` — the tokens of a text.
-/

namespace BinaryCoverage.Yaml

/-- A place at which a key may have begun. -/
structure KeyPlace where
  /-- The number of tokens before it. -/
  tokens : Nat
  index : Nat
  line : Nat
  column : Nat
  /-- Whether nothing but a key can stand there. -/
  required : Bool

structure Lexer where
  cursor : Cursor
  /-- The tokens so far, the latest first. -/
  tokens : List Token := []
  /-- The columns of the open blocks, the innermost first. -/
  blocks : List Nat := []
  /-- The possible key of each open flow collection and, at the end, of the blocks. -/
  keys : List (Option KeyPlace) := [none]
  /-- Whether a key may begin here. -/
  keyAllowed : Bool := true

namespace Lexer

/-- Whether a flow collection is open. -/
def inFlow (x : Lexer) : Bool := 1 < x.keys.length

def push (x : Lexer) (t : Token) : Lexer := { x with tokens := t :: x.tokens }

/-- Puts a token where only `n` tokens come before it. -/
def insertAt (x : Lexer) (n : Nat) (t : Token) : Lexer :=
  let after := x.tokens.length - n
  { x with tokens := x.tokens.take after ++ t :: x.tokens.drop after }

/-- The column of the innermost block. -/
def indent? (x : Lexer) : Option Nat := x.blocks.head?

/-! ## Keys -/

def setKey (x : Lexer) (k : Option KeyPlace) : Lexer := { x with keys := k :: x.keys.drop 1 }

def currentKey? (x : Lexer) : Option KeyPlace := x.keys.head?.join

/-- Gives up the possible key, unless it is required. -/
def dropKey? (x : Lexer) : Option Lexer :=
  if x.currentKey?.any (·.required) then none else some (x.setKey none)

/-- Notes that a key may begin here. -/
def saveKey? (x : Lexer) : Option Lexer :=
  if x.keyAllowed then
    (x.dropKey?).map fun x =>
      let c := x.cursor
      x.setKey (some ⟨x.tokens.length, c.index, c.line, c.column,
        !x.inFlow && x.indent? == some c.column⟩)
  else some x

/-- Whether a key that began at a place can no longer end here. -/
def isStale (c : Cursor) (k : KeyPlace) : Bool := k.line < c.line || k.index + 1024 < c.index

/-- Gives up the possible keys that have become too long. -/
def dropStaleKeys? (x : Lexer) : Option Lexer :=
  if x.keys.any fun k => k.any fun k => isStale x.cursor k && k.required then none
  else some { x with keys := x.keys.map fun k => k.filter (!isStale x.cursor ·) }

/-! ## Blocks -/

/-- Opens a block at a column that lies deeper than the innermost one. -/
def openBlock (x : Lexer) (column : Nat) (place : Option Nat) (t : Token) : Lexer :=
  if x.inFlow || x.indent?.any (column ≤ ·) then x
  else
    let x := { x with blocks := column :: x.blocks }
    match place with
    | some n => x.insertAt n t
    | none => x.push t

/-- Closes the blocks that lie deeper than a column. -/
def closeBlocks (x : Lexer) (column : Option Nat) : Lexer :=
  if x.inFlow then x
  else
    let deeper (n : Nat) : Bool := column.all (· < n)
    let closed := x.blocks.takeWhile deeper
    { x with
      blocks := x.blocks.drop closed.length
      tokens := List.replicate closed.length .blockEnd ++ x.tokens }

/-! ## Blanks -/

/-- Past blanks, comments and line ends. -/
def skipBlanks : Nat → Lexer → Lexer
  | 0, x => x
  | fuel + 1, x =>
      let c := x.cursor
      let c := if c.column == 0 && c.head?.any (·.toNat == 0xFEFF) then c.skip 1 else c
      let tabs := x.inFlow || !x.keyAllowed
      let c := c.skipWhile fun d => d == ' ' || (tabs && d == '\t')
      let c := c.skipComment
      match c.lineEnd? with
      | some (_, c) =>
          skipBlanks fuel { x with cursor := c, keyAllowed := !x.inFlow || x.keyAllowed }
      | none => { x with cursor := c }

/-! ## Tokens -/

/-- Adds a token of a given number of characters. -/
def take (x : Lexer) (n : Nat) (t : Token) : Lexer := { x.push t with cursor := x.cursor.skip n }

/-- What stands for the directive at the start of this line. -/
def directive? (x : Lexer) : Option Lexer := do
  let x ← (x.closeBlocks none).dropKey?
  let (name, c) ← directiveName? (x.cursor.skip 1)
  let (t, c) ←
    if name == "YAML" then
      (version? c).map fun (major, minor, c) => (Token.version major minor, c)
    else if name == "TAG" then
      (tagHandle? c).map fun (handle, expansion, c) => (Token.tagHandle handle expansion, c)
    else none
  let c := c.skipSpaces.skipComment
  guard (endsLine c.rest)
  some { x.push t with cursor := c.skipLineEnd, keyAllowed := false }

def document? (x : Lexer) (t : Token) : Option Lexer := do
  let x ← (x.closeBlocks none).dropKey?
  some { x.take 3 t with keyAllowed := false }

def flowStart? (x : Lexer) (t : Token) : Option Lexer := do
  let x ← x.saveKey?
  some { x.take 1 t with keys := none :: x.keys, keyAllowed := true }

def flowEnd? (x : Lexer) (t : Token) : Option Lexer := do
  let x ← x.dropKey?
  let keys := if x.inFlow then x.keys.drop 1 else x.keys
  some { x.take 1 t with keys, keyAllowed := false }

def flowEntry? (x : Lexer) : Option Lexer := do
  let x ← x.dropKey?
  some { x.take 1 .flowEntry with keyAllowed := true }

/-- Opens a block here, where one may begin. -/
def openHere? (x : Lexer) (t : Token) : Option Lexer :=
  if x.inFlow then some x
  else if x.keyAllowed then some (x.openBlock x.cursor.column none t)
  else none

def blockEntry? (x : Lexer) : Option Lexer := do
  let x ← x.openHere? .blockSequence
  let x ← x.dropKey?
  some { x.take 1 .blockEntry with keyAllowed := true }

def key? (x : Lexer) : Option Lexer := do
  let x ← x.openHere? .blockMapping
  let x ← x.dropKey?
  some { x.take 1 .key with keyAllowed := !x.inFlow }

/-- A colon makes what came before it a key. -/
def value? (x : Lexer) : Option Lexer :=
  match x.currentKey? with
  | some k =>
      let x := (x.insertAt k.tokens .key).openBlock k.column (some k.tokens) .blockMapping
      some { (x.setKey none).take 1 .value with keyAllowed := false }
  | none => do
      let x ← x.openHere? .blockMapping
      some { x.take 1 .value with keyAllowed := !x.inFlow }

/-- Adds what may be a key: an alias, an anchor, a tag or a scalar. -/
def keyLike? (x : Lexer) (read : Cursor → Option (Token × Cursor)) : Option Lexer := do
  let x ← x.saveKey?
  let (t, cursor) ← read x.cursor
  some { x.push t with cursor, keyAllowed := false }

def scalarToken (style : ScalarStyle) (text : List Char) : Token :=
  .scalar style (String.ofList text)

def plainScalar? (x : Lexer) : Option Lexer := do
  let x ← x.saveKey?
  let indent := (x.indent?.map (· + 1)).getD 0
  let (text, cursor, broken) ← plain? x.inFlow indent x.cursor
  some { x.push (scalarToken .plain text) with cursor, keyAllowed := broken }

def blockScalar? (x : Lexer) (style : ScalarStyle) : Option Lexer := do
  let x ← x.dropKey?
  let (text, cursor) ← block? (style = .literal) x.indent? x.cursor
  some { x.push (scalarToken style text) with cursor, keyAllowed := true }

/-- The characters with a meaning of their own at the start of a token. -/
def indicators : List Char := "-?:,[]{}#&*!|>'\"%@`".toList

/-- The token that begins here. -/
def token? (x : Lexer) : Option Lexer :=
  let c := x.cursor
  let next := c.rest.drop 1
  match c.head? with
  | none => none
  | some d =>
      if c.column == 0 && d == '%' then x.directive?
      else if c.atMark '-' then x.document? .documentStart
      else if c.atMark '.' then x.document? .documentEnd
      else if d == '[' then x.flowStart? .flowSequence
      else if d == '\x7b' then x.flowStart? .flowMapping
      else if d == ']' then x.flowEnd? .flowSequenceEnd
      else if d == '\x7d' then x.flowEnd? .flowMappingEnd
      else if d == ',' then x.flowEntry?
      else if d == '-' && endsWord next then x.blockEntry?
      else if d == '?' && (x.inFlow || endsWord next) then x.key?
      else if d == ':' && (x.inFlow || endsWord next) then x.value?
      else if d == '*' then
        x.keyLike? fun c => (anchorName? c).map fun (name, c) => (.alias name, c)
      else if d == '&' then
        x.keyLike? fun c => (anchorName? c).map fun (name, c) => (.anchor name, c)
      else if d == '!' then
        x.keyLike? fun c => (tag? x.inFlow c).map fun (handle, ending, c) => (.tag handle ending, c)
      else if d == '|' && !x.inFlow then x.blockScalar? .literal
      else if d == '>' && !x.inFlow then x.blockScalar? .folded
      else if d == '\'' then
        x.keyLike? fun c => (quoted? true c).map fun (text, c) => (scalarToken .single text, c)
      else if d == '"' then
        x.keyLike? fun c => (quoted? false c).map fun (text, c) => (scalarToken .double text, c)
      else if !(endsWord c.rest || indicators.contains d) ||
          (d == '-' && !next.head?.any isSpace) ||
          (!x.inFlow && (d == '?' || d == ':') && !endsWord next) then x.plainScalar?
      else none

/-- All tokens from here on. -/
def run? : Nat → Lexer → Option Lexer
  | 0, _ => none
  | fuel + 1, x => do
      let x ← (x.skipBlanks (x.cursor.rest.length + 1)).dropStaleKeys?
      let x := x.closeBlocks (some x.cursor.column)
      if x.cursor.rest.isEmpty then (x.closeBlocks none).dropKey?
      else (x.token?).bind (run? fuel)

end Lexer

/-- The characters that a text may hold. -/
def isAllowed (c : Char) : Bool :=
  let n := c.toNat
  n == 0x9 || n == 0xA || n == 0xD || (0x20 ≤ n && n ≤ 0x7E) || n == 0x85 ||
    (0xA0 ≤ n && n ≤ 0xD7FF) || (0xE000 ≤ n && n ≤ 0xFFFD) || 0x10000 ≤ n

/-- The tokens of a text. -/
def tokens? (text : String) : Option (List Token) := do
  let cs := text.toList
  guard (cs.all isAllowed)
  let x ← Lexer.run? (cs.length + 2) { cursor := { rest := cs } }
  some x.tokens.reverse

end BinaryCoverage.Yaml
