import BinaryCoverage.Text.Utf8
import BinaryCoverage.Yaml.Cursor

/-!
# Names, tags and directives

This file defines what is read after the marks of anchors, tags and directives.
-/

namespace BinaryCoverage.Yaml

/-- The characters of anchors, handles and directive names. -/
def isNameChar (c : Char) : Bool := c.isAlphanum || c == '_' || c == '-'

/-- The characters that may follow the name of an anchor directly. -/
def endsAnchor (cs : List Char) : Bool :=
  endsWord cs || cs.head?.any "?:,]\x7d%@\x60".toList.contains

/-- The name of an anchor or alias whose mark stands here. -/
def anchorName? (c : Cursor) : Option (String × Cursor) := do
  let c := c.skip 1
  let name := c.rest.takeWhile isNameChar
  let c := c.skip name.length
  guard (!name.isEmpty && endsAnchor c.rest)
  some (String.ofList name, c)

/-! ## Tags -/

def isUriChar (verbatim : Bool) (c : Char) : Bool :=
  isNameChar c || ";/?:@&=+$.!~*'()%".toList.contains c ||
    (verbatim && (c == ',' || c == '[' || c == ']'))

/-- The byte of an escape: a percent sign and two hexadecimal digits. -/
def escapedByte? (cs : List Char) : Option UInt8 :=
  match cs with
  | '%' :: a :: b :: _ => (Text.digits? 16 [a, b]).map UInt8.ofNat
  | _ => none

/-- How many bytes a character has that begins with a given one. -/
def byteCount? (b : UInt8) : Option Nat :=
  let n := b.toNat
  if n < 0x80 then some 1
  else if 0xC0 ≤ n && n < 0xE0 then some 2
  else if 0xE0 ≤ n && n < 0xF0 then some 3
  else if 0xF0 ≤ n && n < 0xF8 then some 4
  else none

/-- Escapes of continuation bytes. -/
def continuations? : Nat → List Char → Option (List UInt8)
  | 0, _ => some []
  | n + 1, cs => do
      let b ← escapedByte? cs
      guard (0x80 ≤ b.toNat && b.toNat < 0xC0)
      let rest ← continuations? n (cs.drop 3)
      some (b :: rest)

/-- The bytes of one character that is written with escapes. -/
def escapedChar? (cs : List Char) : Option (List UInt8) := do
  let b ← escapedByte? cs
  let n ← byteCount? b
  let rest ← continuations? (n - 1) (cs.drop 3)
  some (b :: rest)

/-- The characters of a tag, its escapes replaced. -/
def uri? (verbatim : Bool) : Nat → Cursor → Option (List Char × Cursor)
  | 0, _ => none
  | fuel + 1, c =>
      match c.head? with
      | none => some ([], c)
      | some d =>
          if !isUriChar verbatim d then some ([], c)
          else if d == '%' then do
            let bytes ← escapedChar? c.rest
            let (more, c) ← uri? verbatim fuel (c.skip (3 * bytes.length))
            some (Text.lossyChars bytes ++ more, c)
          else (uri? verbatim fuel (c.skip 1)).map fun (more, c) => (d :: more, c)

def readUri? (verbatim : Bool) (c : Cursor) : Option (List Char × Cursor) :=
  uri? verbatim (c.rest.length + 1) c

/-- An exclamation mark, a name and, if there is one, a further exclamation mark. -/
def handle? (c : Cursor) : Option (List Char × Cursor) :=
  match c.rest with
  | '!' :: rest =>
      let name := rest.takeWhile isNameChar
      let c := c.skip (name.length + 1)
      if c.head? == some '!' then some ('!' :: name ++ ['!'], c.skip 1) else some ('!' :: name, c)
  | _ => none

/-- The handle and the rest of a tag that is not given verbatim. -/
def shorthand? (c : Cursor) : Option (String × String × Cursor) := do
  let (handle, c) ← handle? c
  if 1 < handle.length && handle.getLast? == some '!' then
    let (ending, c) ← readUri? false c
    guard !ending.isEmpty
    some (String.ofList handle, String.ofList ending, c)
  else
    let (more, c) ← readUri? false c
    let ending := handle.drop 1 ++ more
    if ending.isEmpty then some ("", "!", c) else some ("!", String.ofList ending, c)

/-- A tag between angle brackets. -/
def verbatim? (c : Cursor) : Option (String × String × Cursor) := do
  let (tag, c) ← readUri? true (c.skip 2)
  guard (!tag.isEmpty && c.head? == some '>')
  some ("", String.ofList tag, c.skip 1)

/-- The tag whose mark stands here: its handle and the rest. -/
def tag? (flow : Bool) (c : Cursor) : Option (String × String × Cursor) := do
  let (handle, ending, c) ←
    if (c.rest.drop 1).head? == some '<' then verbatim? c else shorthand? c
  guard (endsWord c.rest || (flow && c.head? == some ','))
  some (handle, ending, c)

/-! ## Directives -/

/-- A number of at most nine digits. -/
def versionNumber? (c : Cursor) : Option (Nat × Cursor) := do
  let digits := c.rest.takeWhile Text.isDigit
  guard (digits.length ≤ 9)
  some (← Text.digits? 10 digits, c.skip digits.length)

/-- The two numbers of a version. -/
def version? (c : Cursor) : Option (Nat × Nat × Cursor) := do
  let (major, c) ← versionNumber? c.skipSpaces
  guard (c.head? == some '.')
  let (minor, c) ← versionNumber? (c.skip 1)
  some (major, minor, c)

/-- A tag handle and what it stands for. -/
def tagHandle? (c : Cursor) : Option (String × String × Cursor) := do
  let (handle, c) ← handle? c.skipSpaces
  guard (handle == ['!'] || handle.getLast? == some '!')
  guard (c.head?.any isSpace)
  let (expansion, c) ← readUri? true c.skipSpaces
  guard (!expansion.isEmpty && endsWord c.rest)
  some (String.ofList handle, String.ofList expansion, c)

/-- The name of a directive. -/
def directiveName? (c : Cursor) : Option (String × Cursor) := do
  let name := c.rest.takeWhile isNameChar
  let c := c.skip name.length
  guard (!name.isEmpty && endsWord c.rest)
  some (String.ofList name, c)

end BinaryCoverage.Yaml
