/-!
# Blanks, trimming and words

Text is taken apart as a list of characters.  This file defines:

* `isBlank` — the characters of the Unicode property `White_Space`;
* `trim`, `trimStart`, `trimEnd` — text without the blanks at its ends;
* `pieces` — the stretches between separators, empty ones included;
* `words` — the stretches between blanks, empty ones dropped;
* `dropPrefix?`, `dropSuffix?`, `dropPrefixes` — removal of a given beginning or end.
-/

namespace BinaryCoverage.Text

/-- The property `White_Space`, which has 25 characters. -/
def isBlank (c : Char) : Bool :=
  let n := c.toNat
  (0x9 ≤ n && n ≤ 0xD) || n == 0x20 || n == 0x85 || n == 0xA0 || n == 0x1680 ||
    (0x2000 ≤ n && n ≤ 0x200A) || n == 0x2028 || n == 0x2029 || n == 0x202F || n == 0x205F ||
    n == 0x3000

def trimStart (cs : List Char) : List Char := cs.dropWhile isBlank

def trimEnd (cs : List Char) : List Char := (cs.reverse.dropWhile isBlank).reverse

def trim (cs : List Char) : List Char := trimEnd (trimStart cs)

/-- Nothing but blanks. -/
def isBlankText (cs : List Char) : Bool := cs.all isBlank

/-- The stretches between the characters that satisfy `sep`; there is always at least one. -/
def pieces (sep : Char → Bool) : List Char → List (List Char)
  | [] => [[]]
  | c :: cs =>
      if sep c then
        [] :: pieces sep cs
      else
        match pieces sep cs with
        | [] => [[c]]
        | w :: ws => (c :: w) :: ws

def words (cs : List Char) : List (List Char) := (pieces isBlank cs).filter (!·.isEmpty)

/-- What follows `pre` in `cs`, when `cs` begins with it. -/
def dropPrefix? : List Char → List Char → Option (List Char)
  | [], cs => some cs
  | _ :: _, [] => none
  | p :: ps, c :: cs => if p == c then dropPrefix? ps cs else none

/-- What precedes `suf` in `cs`, when `cs` ends with it. -/
def dropSuffix? (suf cs : List Char) : Option (List Char) :=
  (dropPrefix? suf.reverse cs.reverse).map List.reverse

/-- Removes a two-character beginning as often as it occurs. -/
def dropPrefixes (a b : Char) : List Char → List Char
  | x :: y :: cs => if x == a && y == b then dropPrefixes a b cs else x :: y :: cs
  | cs => cs

/-- The parts before and after the first occurrence of `sep`. -/
def splitOnce? (sep : List Char) : List Char → Option (List Char × List Char)
  | [] => (dropPrefix? sep []).map ([], ·)
  | c :: cs =>
      match dropPrefix? sep (c :: cs) with
      | some rest => some ([], rest)
      | none => (splitOnce? sep cs).map fun (a, b) => (c :: a, b)

end BinaryCoverage.Text
