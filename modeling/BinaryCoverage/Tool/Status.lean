/-!
# How programs end

A program ends with a status of its own or by a signal.
-/

namespace BinaryCoverage

inductive ExitStatus where
  | code (n : Nat)
  | signal (n : Nat)
  deriving DecidableEq, Repr

namespace ExitStatus

def isSuccess (s : ExitStatus) : Bool := s = .code 0

/-- The signals that end a program, by number. -/
def signalNames : List (Nat × String) :=
  [(1, "HUP"), (2, "INT"), (3, "QUIT"), (4, "ILL"), (5, "TRAP"), (6, "ABRT"), (7, "BUS"),
    (8, "FPE"), (9, "KILL"), (10, "USR1"), (11, "SEGV"), (12, "USR2"), (13, "PIPE"),
    (14, "ALRM"), (15, "TERM"), (16, "STKFLT"), (24, "XCPU"), (25, "XFSZ"), (26, "VTALRM"),
    (27, "PROF"), (29, "IO"), (30, "PWR"), (31, "SYS")]

def message : ExitStatus → String
  | .code n => s!"exit status: {n}"
  | .signal n =>
      match signalNames.lookup n with
      | some name => s!"signal: {n} (SIG{name})"
      | none => s!"signal: {n}"

end ExitStatus

-- Bytes are compared by the instance of the core library.
attribute [local instance (high)] ByteArray.instDecidableEq

/-- What a finished program leaves behind. -/
structure Completion where
  status : ExitStatus
  output : ByteArray
  errors : ByteArray
  deriving DecidableEq

end BinaryCoverage
