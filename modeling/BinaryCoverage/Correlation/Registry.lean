import BinaryCoverage.Table

/-!
# Indices of binaries

Each binary of a run is known by an index, given when its name is first used.  Well-known names
have reserved indices; the others are numbered from 100 in order of first use.
-/

namespace BinaryCoverage

/-- The names with reserved indices. -/
def wellKnownBinaries : List (String × UInt32) :=
  [("bl1", 0), ("bl2", 1), ("bl31", 2), ("bl32", 3), ("scp_ram", 10), ("scp_rom", 11),
    ("mcp_rom", 12), ("mcp_ram", 13)]

structure BinaryRegistry where
  assigned : Table String UInt32 := ∅
  next : UInt32 := 100
  deriving DecidableEq

namespace BinaryRegistry

/-- The index of a name, and the registry in which it has that index. -/
def index (r : BinaryRegistry) (name : String) : UInt32 × BinaryRegistry :=
  match r.assigned[name]? with
  | some i => (i, r)
  | none =>
      match wellKnownBinaries.lookup name with
      -- A reserved index takes no number.
      | some i => (i, { r with assigned := r.assigned.insert name i })
      | none => (r.next, { assigned := r.assigned.insert name r.next, next := r.next + 1 })

end BinaryRegistry

end BinaryCoverage
