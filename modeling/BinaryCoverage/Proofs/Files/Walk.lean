import BinaryCoverage.Files.Tree
import BinaryCoverage.Proofs.Text.Lines
import Mathlib.Tactic.Common

/-!
# Walking along paths

A walk takes the pieces of a path one by one: it passes over pieces that say nothing and ends at
the file that the last piece names.  This file defines:

* `FileTree.isPlain` — a text is the name of a file, and as a path it leads to that file at home.
-/

namespace BinaryCoverage.FileTree

variable (t : FileTree) (through : Bool) (links : Nat) (here : Path.Location)

theorem walk_nil : t.walk through links here [] = .ok here := by
  rw [walk]

theorem walk_silent {w : List Char} (hw : Path.isSilent w) (rest : List (List Char)) :
    t.walk through links here (w :: rest) = t.walk through links here rest := by
  rw [walk, if_pos hw]

theorem walk_file {w : List Char} {bytes : ByteArray} {executable : Bool}
    (hsilent : ¬ Path.isSilent w) (hup : w ≠ ['.', '.'])
    (hlength : (String.ofList w).utf8ByteSize ≤ nameLimit)
    (hentry : t.entry? (here ++ [String.ofList w]) = some (.file bytes executable)) :
    t.walk through links here [w] = .ok (here ++ [String.ofList w]) := by
  rw [walk, if_neg hsilent, if_neg hup]
  dsimp only
  rw [if_neg (Nat.not_lt.2 hlength), hentry]
  rfl

/-- Nothing comes after a file, not even a slash. -/
theorem walk_beyond_file {w : List Char} {rest : List (List Char)} {bytes : ByteArray}
    {executable : Bool} (hsilent : ¬ Path.isSilent w) (hup : w ≠ ['.', '.'])
    (hlength : (String.ofList w).utf8ByteSize ≤ nameLimit)
    (hentry : t.entry? (here ++ [String.ofList w]) = some (.file bytes executable))
    (hrest : rest.isEmpty = false) :
    t.walk through links here (w :: rest) = .error .notFolder := by
  rw [walk, if_neg hsilent, if_neg hup]
  dsimp only
  rw [if_neg (Nat.not_lt.2 hlength), hentry]
  simp [hrest]

/-- The last name of a path need not be there. -/
theorem walk_missing {w : List Char} {rest : List (List Char)} (hsilent : ¬ Path.isSilent w)
    (hup : w ≠ ['.', '.']) (hlength : (String.ofList w).utf8ByteSize ≤ nameLimit)
    (hentry : t.entry? (here ++ [String.ofList w]) = none) (hrest : rest.all (·.isEmpty)) :
    t.walk through links here (w :: rest) = .ok (here ++ [String.ofList w]) := by
  rw [walk, if_neg hsilent, if_neg hup]
  dsimp only
  rw [if_neg (Nat.not_lt.2 hlength), hentry]
  dsimp only
  rw [if_pos hrest]

theorem walk_folder {w : List Char} (hsilent : ¬ Path.isSilent w) (hup : w ≠ ['.', '.'])
    (hlength : (String.ofList w).utf8ByteSize ≤ nameLimit)
    (hentry : t.entry? (here ++ [String.ofList w]) = some .folder) (rest : List (List Char)) :
    t.walk through links here (w :: rest) =
      t.walk through links (here ++ [String.ofList w]) rest := by
  rw [walk, if_neg hsilent, if_neg hup]
  dsimp only
  rw [if_neg (Nat.not_lt.2 hlength), hentry]

/-- The pieces of a link come before those that are left. -/
theorem walk_link {w : List Char} {target : Path} (hsilent : ¬ Path.isSilent w)
    (hup : w ≠ ['.', '.']) (hlength : (String.ofList w).utf8ByteSize ≤ nameLimit)
    (hentry : t.entry? (here ++ [String.ofList w]) = some (.link target))
    (rest : List (List Char)) :
    t.walk true (links + 1) here (w :: rest) =
      t.walk true links (if target.isAbsolute then [] else here) (target.pieces ++ rest) := by
  rw [walk, if_neg hsilent, if_neg hup]
  dsimp only
  rw [if_neg (Nat.not_lt.2 hlength), hentry]
  simp

/-- The walk along an absolute path starts at the root. -/
theorem locate_of_isAbsolute {p : Path} {ws : List (List Char)} (habsolute : p.isAbsolute)
    (hpieces : p.pieces = [] :: ws) (hzero : p.chars.contains '\x00' = false)
    (hlength : p.text.utf8ByteSize ≤ pathLimit) :
    t.locate through p = t.walk through linkLimit [] ws := by
  have hempty : p.chars.isEmpty = false := by
    rw [Bool.eq_false_iff]
    intro hchars
    rw [List.isEmpty_iff] at hchars
    simp [Path.isAbsolute, Path.start, hchars] at habsolute
  unfold locate
  rw [hempty, hzero, if_neg Bool.false_ne_true, if_neg Bool.false_ne_true,
    if_neg (Nat.not_lt.2 hlength), if_pos habsolute, hpieces, walk_silent _ _ _ _ (by decide)]

/-! ## Names -/

/-- A path of this text consists of one name. -/
def isPlain (name : String) : Bool :=
  !Path.isSilent name.toList && name.toList ≠ ['.', '.'] && !name.toList.contains '/' &&
    !name.toList.contains '\x00' && name.utf8ByteSize ≤ nameLimit

theorem isPlain_iff {name : String} :
    isPlain name ↔ ¬ Path.isSilent name.toList ∧ name.toList ≠ ['.', '.'] ∧ '/' ∉ name.toList ∧
      name.toList.contains '\x00' = false ∧ name.utf8ByteSize ≤ nameLimit := by
  simp [isPlain, and_assoc]

section Names

variable {t} {name : String} {bytes : ByteArray} {executable : Bool}
  (hname : isPlain name) (hentry : t.entry? (t.home ++ [name]) = some (.file bytes executable))

include hname hentry

theorem locate_name (through : Bool) : t.locate through ⟨name⟩ = .ok (t.home ++ [name]) := by
  obtain ⟨hsilent, hup, hslash, hzero, hlength⟩ := isPlain_iff.1 hname
  have hempty : name.toList.isEmpty = false := by
    rw [Path.isSilent, Bool.not_eq_true, Bool.or_eq_false_iff] at hsilent
    exact hsilent.1
  -- Without a slash, the name is the only piece.
  have hpieces : Path.pieces ⟨name⟩ = [name.toList] := by
    refine Text.pieces_of_forall_not ?_
    intro c hc
    exact beq_eq_false_iff_ne.2 fun h => hslash (h ▸ hc)
  have habsolute : Path.isAbsolute ⟨name⟩ = false := by
    refine decide_eq_false ?_
    intro hstart
    unfold Path.start at hstart
    split at hstart
    · rename_i hchars
      exact hslash (by rw [show name.toList = _ from hchars]; simp)
    all_goals cases hstart
  have hwalk := walk_file t through linkLimit t.home (w := name.toList) hsilent hup
    (by simpa using hlength) (by simpa using hentry)
  rw [String.ofList_toList] at hwalk
  unfold locate Path.chars
  rw [hempty, hzero, habsolute, hpieces]
  have hfits : ¬ pathLimit < name.utf8ByteSize := by
    unfold pathLimit
    unfold nameLimit at hlength
    omega
  rw [if_neg hfits]
  exact hwalk

theorem find_name : t.find ⟨name⟩ = .ok (t.home ++ [name], .file bytes executable) := by
  rw [find, locate_name hname hentry]
  dsimp only
  rw [hentry]

theorem isFile_name : t.isFile ⟨name⟩ = true := by
  rw [isFile, find_name hname hentry]

theorem read_name : t.read ⟨name⟩ = .ok bytes := by
  rw [read, find_name hname hentry]

end Names

theorem readText_name {t : FileTree} {name text : String} {executable : Bool} (hname : isPlain name)
    (hentry : t.entry? (t.home ++ [name]) = some (.file text.toUTF8 executable)) :
    t.readText ⟨name⟩ = .ok text := by
  have htext : Text.ofBytes? text.toUTF8 = some text := dif_pos text.isValidUTF8
  rw [readText, read_name hname hentry]
  dsimp only
  rw [htext]

end BinaryCoverage.FileTree
