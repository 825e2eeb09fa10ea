/-!
# Branch points

A branch point is an `if` or a `switch` with the coverage of each of its arms, in order.
-/

namespace BinaryCoverage

inductive BranchKind where
  | conditional
  | selection
  deriving DecidableEq, Repr

def BranchKind.phrase : BranchKind → String
  | .conditional => "an 'if'"
  | .selection => "a 'switch'"

structure BranchPoint where
  line : Nat
  kind : BranchKind
  arms : List Bool
  deriving DecidableEq, Repr

def BranchPoint.coveredArms (p : BranchPoint) : Nat := p.arms.count true

/-- Why a construct could not be delimited. -/
inductive ScanFailure where
  | unterminatedCondition
  | unterminatedBlock
  | unterminatedStatement
  | missingBody
  deriving DecidableEq, Repr

def ScanFailure.message : ScanFailure → String
  | .unterminatedCondition => "condition parentheses never close"
  | .unterminatedBlock => "block braces never close"
  | .unterminatedStatement => "statement has no terminating ';'"
  | .missingBody => "switch has no braced body"

end BinaryCoverage
