/-!
# Texts that are no patterns

Why a text is not taken as a pattern, and the wording of it.
-/

namespace BinaryCoverage.Pattern

inductive PatternFault where
  | malformed
  | tooDeep
  | tooLarge
  deriving DecidableEq, Repr

def PatternFault.message : PatternFault → String
  | .malformed => "regex parse error: malformed pattern"
  | .tooDeep => "regex parse error: nested too deeply"
  | .tooLarge => "Compiled regex exceeds the size limit"

end BinaryCoverage.Pattern
