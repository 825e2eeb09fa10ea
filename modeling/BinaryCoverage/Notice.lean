/-!
# Notices

A notice reports something that does not stop a run: a warning, or an error that was passed over.
-/

namespace BinaryCoverage

inductive Severity where
  | warning
  | error
  deriving DecidableEq, Repr

structure Notice where
  severity : Severity
  text : String
  deriving DecidableEq, Repr

def Notice.warning (text : String) : Notice := ⟨.warning, text⟩

def Notice.error (text : String) : Notice := ⟨.error, text⟩

end BinaryCoverage
