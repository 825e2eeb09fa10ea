import BinaryCoverage.Text.Blank
import BinaryCoverage.Text.Number

/-!
# Trace records

A trace line has a hexadecimal address, a decimal count and a decimal size, with blanks between;
what follows them is not looked at.  An address may start with `0x` or `0X`, each any number of
times.
-/

namespace BinaryCoverage

/-- How often the instruction at an address ran, and its size. -/
structure TraceRecord where
  address : UInt64
  count : UInt64
  size : UInt32
  deriving DecidableEq, Repr

/-- Why a trace line is refused. -/
inductive TraceFault where
  | fieldCount (found : Nat)
  | address (text : String)
  | count (text : String)
  | size (text : String)
  deriving DecidableEq, Repr

def TraceFault.message : TraceFault → String
  | .fieldCount n => s!"expected '<hex address> <count> <size>', got {n} field(s)"
  | .address text => s!"invalid address '{text}'"
  | .count text => s!"invalid execution count '{text}'"
  | .size text => s!"invalid instruction size '{text}'"

namespace TraceRecord

open Text (dropPrefixes word32? word64? words)

/-- The address without what marks it as hexadecimal. -/
def bareAddress (cs : List Char) : List Char := dropPrefixes '0' 'X' (dropPrefixes '0' 'x' cs)

def ofChars (line : List Char) : Except TraceFault TraceRecord :=
  match words line with
  | a :: c :: s :: _ =>
      -- Of several wrong fields the first is reported.
      match word64? 16 (bareAddress a), word64? 10 c, word32? 10 s with
      | none, _, _ => .error (.address (String.ofList a))
      | _, none, _ => .error (.count (String.ofList c))
      | _, _, none => .error (.size (String.ofList s))
      | some address, some count, some size => .ok ⟨address, count, size⟩
  | fields => .error (.fieldCount fields.length)

end TraceRecord

end BinaryCoverage
