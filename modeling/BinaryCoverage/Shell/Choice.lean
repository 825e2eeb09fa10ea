import BinaryCoverage.Shell.State

/-!
# Patterns of choices

A pattern has stars for any text, question marks for any character and brackets for one of several
characters.  What stands in quotes is meant as it is.
-/

namespace BinaryCoverage.Shell

inductive Glyph where
  | exact (c : Char)
  | any
  | anyText
  | oneOf (others : Bool) (ranges : List (Char × Char))
  deriving DecidableEq, Repr

/-- The characters up to the closing bracket, which may also come first. -/
def readMembers? (isFirst : Bool) :
    List (Char × Bool) → Option (List (Char × Bool) × List (Char × Bool))
  | [] => none
  | (c, quoted) :: rest =>
      if c == ']' && !quoted && !isFirst then some ([], rest)
      else (readMembers? false rest).map fun (ms, rest) => ((c, quoted) :: ms, rest)

/-- The ranges that the characters between brackets stand for. -/
def rangesOf : List (Char × Bool) → List (Char × Char)
  -- A quoted hyphen stands for itself.
  | (c, _) :: ('-', false) :: (d, _) :: rest => (c, d) :: rangesOf rest
  | (c, _) :: rest => (c, c) :: rangesOf rest
  | [] => []

/-- The glyph of a bracket, after it, and what follows. -/
def readBracket? (cs : List (Char × Bool)) : Option (Glyph × List (Char × Bool)) :=
  match cs with
  | ('!', false) :: rest =>
      (readMembers? true rest).map fun (ms, rest) => (.oneOf true (rangesOf ms), rest)
  | _ => (readMembers? true cs).map fun (ms, rest) => (.oneOf false (rangesOf ms), rest)

/-- The glyphs of characters that are quoted or not; the number bounds how many there are. -/
def glyphs : Nat → List (Char × Bool) → List Glyph
  | n + 1, (c, quoted) :: rest =>
      if quoted then .exact c :: glyphs n rest
      else if c == '*' then .anyText :: glyphs n rest
      else if c == '?' then .any :: glyphs n rest
      else if c == '[' then
        match readBracket? rest with
        | some (g, rest) => g :: glyphs n rest
        | none => .exact c :: glyphs n rest
      else .exact c :: glyphs n rest
  | _, _ => []

namespace Glyph

def accepts (c : Char) : Glyph → Bool
  | .exact d => c == d
  | .any => true
  | .anyText => false
  | .oneOf others rs => rs.any (fun (a, b) => a ≤ c && c ≤ b) != others

/-- Whether a whole text has the shape of glyphs. -/
def matchAll : List Glyph → List Char → Bool
  | [], cs => cs.isEmpty
  | .anyText :: gs, [] => matchAll gs []
  | .anyText :: gs, c :: cs => matchAll gs (c :: cs) || matchAll (.anyText :: gs) cs
  | _ :: _, [] => false
  | g :: gs, c :: cs => g.accepts c && matchAll gs cs
termination_by gs cs => gs.length + cs.length

end Glyph

/-- The characters of a part, and whether they are quoted. -/
def State.partGlyphs (s : State) (p : Part) : List (Char × Bool) :=
  match p with
  | .text _ quoted => (s.partText p).map (·, quoted)
  | .parameter _ quoted => (s.partText p).map (·, quoted)

/-- Whether the pattern that a word becomes matches a whole text. -/
def State.hasShape (s : State) (pattern : Word) (text : String) : Bool :=
  let cs := pattern.flatMap s.partGlyphs
  Glyph.matchAll (glyphs cs.length cs) text.toList

end BinaryCoverage.Shell
