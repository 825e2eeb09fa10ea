import BinaryCoverage.Text.Blank

/-!
# Opcodes

The text of an opcode has its encoding, a tab and the instruction, as in
`54000041`, `b.ne`, `1040 <foo+0x40>` with tabs between.  This file defines:

* `mnemonic?` — the first word after the encoding;
* `isControlTransfer` — whether a mnemonic is a branch, a compare-and-branch or a test-and-branch.
-/

namespace BinaryCoverage.Opcode

open Text (trim words dropPrefix? pieces)

/-- The first word of the first field after the encoding that is not blank. -/
def mnemonic? (opcode : String) : Option String :=
  -- The first field is the encoding.
  let fields := (pieces (· == '\t') opcode.toList).drop 1
  match (fields.map trim).find? (!·.isEmpty) with
  | none => none
  | some field => (words field).head?.map String.ofList

def toLower (c : Char) : Char :=
  if 'A' ≤ c && c ≤ 'Z' then Char.ofNat (c.toNat + 32) else c

/-- Removes a width suffix such as `.w` as often as it occurs at the end. -/
def dropWidth (width : Char) (cs : List Char) : List Char :=
  (Text.dropPrefixes width '.' cs.reverse).reverse

def conditionCodes : List String :=
  ["eq", "ne", "cs", "hs", "cc", "lo", "mi", "pl", "vs", "vc", "hi", "ls", "ge", "lt", "gt", "le",
    "al"]

/-- Branches whose mnemonic takes no condition. -/
def plainBranches : List String :=
  ["b", "bl", "blr", "br", "bx", "blx", "cbz", "cbnz", "tbz", "tbnz", "beqz", "bnez", "bltu",
    "bgeu", "blez", "bgez", "bltz", "bgtz"]

/-- The mnemonics that a condition code may follow directly. -/
def conditionalStems : List String := ["bl", "bx", "b"]

def isControlTransfer (mnemonic : String) : Bool :=
  -- Of two different suffixes the last one has to be `.w`.
  let name := dropWidth 'n' (dropWidth 'w' (mnemonic.toList.map toLower))
  plainBranches.any (·.toList == name) ||
    (dropPrefix? ['b', '.'] name).isSome ||
    -- All jumps of another machine.
    name.head? == some 'j' ||
    conditionalStems.any fun stem =>
      (dropPrefix? stem.toList name).any fun condition =>
        conditionCodes.any (·.toList == condition)

end BinaryCoverage.Opcode
