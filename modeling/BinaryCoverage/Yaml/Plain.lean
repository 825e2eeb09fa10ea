import BinaryCoverage.Json.Basic
import BinaryCoverage.Text.Blank
import BinaryCoverage.Text.Number
import BinaryCoverage.Yaml.Token

/-!
# What a scalar means

A plain scalar may mean nothing, a truth value or a number; any other scalar is text.  A tag may
ask for one of these meanings.  This file defines:

* `isNullWord`, `truth?`, `whole?`, `floating?` — the meanings by themselves;
* `scalarValue?` — the value of a scalar with its tag and style.
-/

namespace BinaryCoverage.Yaml

open Text (dropPrefix? digits?)

def isNullWord (text : String) : Bool :=
  text == "null" || text == "Null" || text == "NULL" || text == "~"

def truth? (text : String) : Option Bool :=
  if text == "true" || text == "True" || text == "TRUE" then some true
  else if text == "false" || text == "False" || text == "FALSE" then some false
  else none

/-! ## Whole numbers -/

/-- Digits that a zero leads are text. -/
def hasLeadingZero (cs : List Char) : Bool :=
  let digits := match cs with
    | '-' :: rest => rest
    | '+' :: rest => rest
    | _ => cs
  1 < digits.length && digits.head? == some '0' && digits.all Text.isDigit

/-- The bases that letters after a zero stand for. -/
def bases : List (List Char × Nat) := [(['0', 'x'], 16), (['0', 'o'], 8), (['0', 'b'], 2)]

/-- Digits with the mark of their base, below a limit. -/
def marked? (limit : Nat) (cs : List Char) : Option Nat :=
  bases.findSome? fun (mark, base) =>
    (dropPrefix? mark cs).bind fun rest => (digits? base rest).filter (· < limit)

/-- A number without a minus sign, below a limit. -/
def unsigned? (limit : Nat) (cs : List Char) : Option Nat :=
  let bare := match cs with
    | '+' :: rest => rest
    | _ => cs
  (marked? limit bare).or
    (if hasLeadingZero cs then none else (digits? 10 bare).filter (· < limit))

/-- The size of a number with a minus sign, at most a limit. -/
def negative? (limit : Nat) : List Char → Option Nat
  | '-' :: rest =>
      (marked? (limit + 1) rest).or
        (if hasLeadingZero rest then none else (digits? 10 rest).filter (· ≤ limit))
  | _ => none

/-- A whole number, if the text is one of at most 128 bits; `none` inside where it has more than
64. -/
def whole? (cs : List Char) : Option (Option Integer64) :=
  match unsigned? (1 <<< 128) cs, negative? (1 <<< 127) cs with
  | some n, _ => some (if h : n ≤ 0xFFFFFFFFFFFFFFFF then some (.ofNat n h) else none)
  | none, some n => some (if h : n ≤ 0x8000000000000000 then some (.ofNegative n h) else none)
  | none, none => none

/-! ## Floating point -/

/-- The exponent of ten at the end of a number. -/
def exponent? : List Char → Option Int
  | [] => some 0
  | e :: rest =>
      if e == 'e' || e == 'E' then
        match rest with
        | '-' :: rest => (digits? 10 rest).map fun n => -(n : Int)
        | '+' :: rest => (digits? 10 rest).map fun n => (n : Int)
        | _ => (digits? 10 rest).map fun n => (n : Int)
      else none

/-- The number nearest to some digits times a power of ten, if it is finite. -/
def nearest? (negative : Bool) (digits : List Char) (power : Int) : Option Binary64 :=
  let m := (digits? 10 digits).getD 0
  let size := (digits.length : Int) + power
  if m = 0 || size < -400 then some (Binary64.zero negative)
  else if 400 < (Text.decimal m).length + power then none
  else (some (Binary64.ofDecimal negative m power)).filter (·.isFinite)

/-- A number of digits with a point or an exponent, perhaps after a minus sign. -/
def decimal? (cs : List Char) : Option Binary64 := do
  let (negative, cs) := match cs with
    | '-' :: rest => (true, rest)
    | _ => (false, cs)
  let whole := cs.takeWhile Text.isDigit
  let rest := cs.dropWhile Text.isDigit
  let (fraction, rest) := match rest with
    | '.' :: rest => (rest.takeWhile Text.isDigit, rest.dropWhile Text.isDigit)
    | _ => ([], rest)
  guard !(whole.isEmpty && fraction.isEmpty)
  let power ← exponent? rest
  nearest? negative (whole ++ fraction) (power - fraction.length)

/-- What a scalar of floating point means: a number, or one that JSON cannot express. -/
inductive Floating where
  | finite (x : Binary64)
  | special
  deriving DecidableEq

def infinities : List String := [".inf", ".Inf", ".INF"]

def floating? (text : String) : Option Floating :=
  let cs := text.toList
  let bare := match cs with
    | '+' :: rest => rest
    | _ => cs
  if bare.length < cs.length && (bare.head? == some '+' || bare.head? == some '-') then none
  else if infinities.contains (String.ofList bare) || infinities.any (text == "-" ++ ·) ||
      [".nan", ".NaN", ".NAN"].contains text then some .special
  else (decimal? bare).map .finite

def Floating.json : Floating → Json
  | .finite x => .float x
  | .special => .null

/-! ## Scalars -/

/-- The value of a plain scalar. -/
def plainValue? (text : String) : Option Json :=
  if text.isEmpty || isNullWord text then some .null
  else
    match truth? text with
    | some b => some (.bool b)
    | none =>
        match whole? text.toList with
        | some n => n.map .integer
        | none =>
            if hasLeadingZero text.toList then some (.string text)
            else
              match floating? text with
              | some x => some x.json
              | none => some (.string text)

/-- A tag for a meaning that every reader knows. -/
def coreTag (name : String) : String := "tag:yaml.org,2002:" ++ name

/-- A tag that only has a meaning for the application; there is none here. -/
def isLocalTag (tag : Option String) : Bool := tag.any fun t => t.toList.head? == some '!'

/-- The value of a scalar. -/
def scalarValue? (tag : Option String) (style : ScalarStyle) (text : String) : Option Json :=
  match tag with
  | none => if style = .plain then plainValue? text else some (.string text)
  | some t =>
      if isLocalTag tag then none
      else if t == coreTag "bool" then (truth? text).map .bool
      else if t == coreTag "int" then (whole? text.toList).join.map .integer
      else if t == coreTag "float" then (floating? text).map (·.json)
      else if t == coreTag "null" then (if isNullWord text then some .null else none)
      else some (.string text)

end BinaryCoverage.Yaml
