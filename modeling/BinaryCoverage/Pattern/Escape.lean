import BinaryCoverage.Pattern.Flags
import BinaryCoverage.Text.Number

/-!
# Escapes in patterns

A backslash takes the special meaning from a character of ASCII that is no letter or digit, and
gives one to some letters.  This file defines:

* `Primitive` — a character, a set or a look as a pattern names it;
* `propertySet?` — the set of a named property of characters;
* `readEscape?` — the primitive after a backslash.
-/

namespace BinaryCoverage.Pattern

open Text (isHexDigit)

inductive Primitive where
  /-- A character; `byte` when it is written as two hexadecimal digits. -/
  | char (c : Char) (byte : Bool)
  | set (s : CharSet)
  | look (l : Look)

/-! ## Numbers -/

/-- The character of a hexadecimal number. -/
def scalar? (digits : List Char) : Option Char := do
  let n ← Text.digits? 16 digits
  if n < 0xD800 || (0xE000 ≤ n && n < 0x110000) then some (Char.ofNat n) else none

/-- Exactly `n` hexadecimal digits. -/
def readHex? (f : Flags) : Nat → List Char → Option (List Char × List Char)
  | 0, cs => some ([], cs)
  | n + 1, c :: rest =>
      if isHexDigit c then
        (readHex? f n (if n = 0 then rest else f.skip rest)).map fun (ds, rest) => (c :: ds, rest)
      else none
  | _ + 1, [] => none

/-- Hexadecimal digits up to a closing brace. -/
def readBracedHex? (f : Flags) : Nat → List Char → Option (List Char × List Char)
  | 0, _ => none
  | _ + 1, [] => none
  | fuel + 1, c :: rest =>
      if c == '\x7d' then some ([], rest)
      else if isHexDigit c then
        (readBracedHex? f fuel (f.skip rest)).map fun (ds, rest) => (c :: ds, rest)
      else none

/-- A character by number, after the letter that says how many digits it has. -/
def readScalar? (f : Flags) (letter : Char) (cs : List Char) : Option (Primitive × List Char) := do
  match f.skip cs with
  | '\x7b' :: rest =>
      let (digits, rest) ← readBracedHex? f (rest.length + 1) (f.skip rest)
      some (.char (← scalar? digits) false, rest)
  | rest =>
      let n := if letter == 'x' then 2 else if letter == 'u' then 4 else 8
      let (digits, rest) ← readHex? f n rest
      some (.char (← scalar? digits) (letter == 'x'), rest)

/-! ## Properties -/

/-- Lower case, without blanks, hyphens, underscores and what is outside ASCII. -/
def bareName (name : List Char) : List Char :=
  (name.filter fun c => c.toNat < 128 && c != ' ' && c != '_' && c != '-').map Char.toLower

/-- The bare name, without `is` at its very start; `isc` is a name of its own. -/
def normalName (name : List Char) : String :=
  match name with
  | i :: s :: rest =>
      if i.toLower == 'i' && s.toLower == 's' && bareName rest != ['c'] then
        String.ofList (bareName rest)
      else String.ofList (bareName name)
  | _ => String.ofList (bareName name)

def asciiSet : CharSet := .range 0 127

/-- The set of a general category, or of one of the names used beside them. -/
def categorySet? (name : String) : Option CharSet :=
  if name == "any" then some (.property .any)
  else if name == "ascii" then some asciiSet
  else if name == "assigned" then
    (Unicode.categories? "cn").map fun marks => .complement (.property (.categories marks))
  else (Unicode.categories? name).map fun marks => .property (.categories marks)

def scriptSet? (name : String) : Option CharSet :=
  (Unicode.script? name).map fun mark => .property (.script mark)

def breakSet? (b : Unicode.Break) (name : String) : Option CharSet :=
  (b.mark? name).map fun mark => .property (.breakValue b mark)

/-- The set of a binary property; three names belong to general categories instead. -/
def binarySet? (name : String) : Option CharSet :=
  if name == "cf" || name == "sc" || name == "lc" then none
  else (Unicode.binaryProperty? name).map fun _ => .property (.binary name)

/-- The set of a property by its name alone. -/
def propertySet? (name : List Char) : Option CharSet :=
  let name := normalName name
  (binarySet? name).or ((categorySet? name).or (scriptSet? name))

/-- The set of the characters for which a property has a given value. -/
def valueSet? (property value : List Char) : Option CharSet :=
  let property := normalName property
  let value := normalName value
  match property with
  | "gc" | "generalcategory" => categorySet? value
  | "sc" | "script" => scriptSet? value
  | "scx" | "scriptextensions" =>
      (Unicode.script? value).map fun mark => .property (.scriptExtension mark)
  | "age" => (Unicode.age? value).map fun mark => .property (.age mark)
  | "gcb" | "graphemeclusterbreak" => breakSet? .grapheme value
  | "wb" | "wordbreak" => breakSet? .word value
  | "sb" | "sentencebreak" => breakSet? .sentence value
  | _ => none

/-- The set that the text in braces names, and whether it is the complement that is meant. -/
def namedSet? (name : List Char) : Option (CharSet × Bool) :=
  match Text.splitOnce? ['!', '='] name with
  | some (property, value) => (valueSet? property value).map (·, true)
  | none =>
      match Text.splitOnce? [':'] name with
      | some (property, value) => (valueSet? property value).map (·, false)
      | none =>
          match Text.splitOnce? ['='] name with
          | some (property, value) => (valueSet? property value).map (·, false)
          | none => (propertySet? name).map (·, false)

/-- The text up to a closing brace. -/
def readName? (f : Flags) : Nat → List Char → Option (List Char × List Char)
  | 0, _ => none
  | _ + 1, [] => none
  | fuel + 1, c :: rest =>
      if c == '\x7d' then some ([], rest)
      else (readName? f fuel (f.skip rest)).map fun (name, rest) => (c :: name, rest)

/-- A set, with case folded where it is ignored, or its complement. -/
def Flags.complementIf (f : Flags) (negated : Bool) (s : CharSet) : CharSet :=
  if negated then .complement (f.fold s) else f.fold s

/-- A property after its letter, of which the upper case one means the complement. -/
def readProperty? (f : Flags) (negated : Bool) (cs : List Char) :
    Option (Primitive × List Char) := do
  guard f.unicode
  match f.skip cs with
  | [] => none
  | '\x7b' :: rest =>
      let (name, rest) ← readName? f (rest.length + 1) (f.skip rest)
      let (s, other) ← namedSet? name
      some (.set (f.complementIf (negated != other) s), rest)
  | '\\' :: _ => none
  | c :: rest =>
      let s ← propertySet? [c]
      some (.set (f.complementIf negated s), rest)

/-! ## Classes of one letter -/

def rangesSet : List (Nat × Nat) → CharSet
  | [] => .none
  | [(low, high)] => .range low high
  | (low, high) :: rest => .union (.range low high) (rangesSet rest)

def asciiDigits : CharSet := .range 0x30 0x39

def asciiBlanks : CharSet := rangesSet [(0x9, 0xD), (0x20, 0x20)]

def asciiWord : CharSet := rangesSet [(0x30, 0x39), (0x41, 0x5A), (0x5F, 0x5F), (0x61, 0x7A)]

/-- The class of a letter; without Unicode it is a class of ASCII and has no complement. -/
def letterSet? (f : Flags) (letter : Char) : Option CharSet :=
  let base := letter.toLower
  let s : CharSet :=
    if f.unicode then
      .property (if base == 'd' then .digit else if base == 's' then .blank else .word)
    else if base == 'd' then asciiDigits
    else if base == 's' then asciiBlanks
    else asciiWord
  if letter == base then some s
  else if f.unicode then some (.complement s)
  else none

/-! ## Looks -/

/-- The look that a name in braces after a word boundary stands for. -/
def boundaryName? (ascii : Bool) (name : List Char) : Option Look :=
  if name == "start".toList then some (.wordStart ascii)
  else if name == "end".toList then some (.wordEnd ascii)
  else if name == "start-half".toList then some (.halfStart ascii)
  else if name == "end-half".toList then some (.halfEnd ascii)
  else none

def isNameChar (c : Char) : Bool := c.isAlpha || c == '-'

/-- Letters and hyphens. -/
def readLetters (f : Flags) : Nat → List Char → List Char × List Char
  | 0, cs => ([], cs)
  | _ + 1, [] => ([], [])
  | fuel + 1, c :: rest =>
      if isNameChar c then
        let (name, rest) := readLetters f fuel (f.skip rest)
        (c :: name, rest)
      else ([], c :: rest)

/-- A word boundary, which a name in braces may follow; other braces are left for a repetition. -/
def readBoundary? (f : Flags) (cs : List Char) : Option (Primitive × List Char) :=
  let ascii := !f.unicode
  match cs with
  | '\x7b' :: rest =>
      match f.skip rest with
      | [] => none
      | c :: more =>
          if isNameChar c then
            let (name, rest) := readLetters f (more.length + 1) (c :: more)
            match rest with
            | '\x7d' :: rest => (boundaryName? ascii name).map fun l => (.look l, rest)
            | _ => none
          else some (.look (.boundary ascii), cs)
  | _ => some (.look (.boundary ascii), cs)

/-! ## Escapes -/

/-- Characters with a special meaning in patterns. -/
def isMeta (c : Char) : Bool := "\\.+*?()|[]\x7b\x7d^$#&-~".toList.contains c

/-- What a backslash takes the special meaning from. -/
def isEscapable (c : Char) : Bool :=
  isMeta c || (c.toNat < 128 && !c.isAlphanum && c != '<' && c != '>')

/-- The primitive after a backslash. -/
def readEscape? (f : Flags) : List Char → Option (Primitive × List Char)
  | [] => none
  | c :: rest =>
      let ascii := !f.unicode
      if c == 'x' || c == 'u' || c == 'U' then readScalar? f c rest
      else if c == 'p' || c == 'P' then readProperty? f (c == 'P') rest
      else if "dswDSW".toList.contains c then (letterSet? f c).map (.set ·, rest)
      else if isEscapable c then some (.char c false, rest)
      else
        match c with
        | 'a' => some (.char '\x07' false, rest)
        | 'f' => some (.char '\x0c' false, rest)
        | 't' => some (.char '\t' false, rest)
        | 'n' => some (.char '\n' false, rest)
        | 'r' => some (.char '\r' false, rest)
        | 'v' => some (.char '\x0b' false, rest)
        | 'A' => some (.look .textStart, rest)
        | 'z' => some (.look .textEnd, rest)
        | 'b' => readBoundary? f rest
        | 'B' => some (.look (.inside ascii), rest)
        | '<' => some (.look (.wordStart ascii), rest)
        | '>' => some (.look (.wordEnd ascii), rest)
        | _ => none

end BinaryCoverage.Pattern
