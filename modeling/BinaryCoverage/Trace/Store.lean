import BinaryCoverage.Notice
import BinaryCoverage.Table
import BinaryCoverage.Text.Lines
import BinaryCoverage.Trace.Record

/-!
# Trace stores

A store holds one record per traced address.  Counts add up and stop at the greatest word; the
size is that of the latest record.  Lines that are no records are counted, reported and skipped.
-/

namespace BinaryCoverage

/-- The sum, or the greatest word where the sum does not fit. -/
def addSaturating (a b : UInt64) : UInt64 :=
  if a.toNat + b.toNat < UInt64.size then a + b else UInt64.ofNat (UInt64.size - 1)

structure TraceStore where
  hits : Table UInt64 TraceRecord := ∅
  rejected : Nat := 0
  deriving DecidableEq

namespace TraceStore

/-- A later record of an address joined to the one that is there. -/
def accumulate (old new : TraceRecord) : TraceRecord :=
  { old with count := addSaturating old.count new.count, size := new.size }

def add (s : TraceStore) (r : TraceRecord) : TraceStore :=
  { s with hits := s.hits.putWith accumulate r.address r }

/-- The number of times that the instruction at an address ran. -/
def count (s : TraceStore) (address : UInt64) : UInt64 := (s.hits[address]?).elim 0 (·.count)

def contains (s : TraceStore) (address : UInt64) : Bool := s.hits.contains address

def get? (s : TraceStore) (address : UInt64) : Option TraceRecord := s.hits[address]?

def addresses (s : TraceStore) : List UInt64 := s.hits.keys

def records (s : TraceStore) : List TraceRecord := s.hits.values

def size (s : TraceStore) : Nat := s.hits.size

/-- Adds the record of a line; a line that is none is counted and a blank one is skipped. -/
def addLine (s : TraceStore) (line : List Char) : TraceStore :=
  if Text.isBlankText line then s
  else
    match TraceRecord.ofChars line with
    | .ok r => s.add r
    | .error _ => { s with rejected := s.rejected + 1 }

/-- What is reported about a line with a given number. -/
def lineNotice? (source : String) (n : Nat) (line : List Char) : Option Notice :=
  if Text.isBlankText line then none
  else
    match TraceRecord.ofChars line with
    | .ok _ => none
    | .error fault =>
        some (.error
          s!"{source}:{n}: skipping trace line '{String.ofList line}': {fault.message}")

/-- What is reported about lines of which the first has number `n`. -/
def lineNotices (source : String) : Nat → List (List Char) → List Notice
  | _, [] => []
  | n, line :: rest => (lineNotice? source n line).toList ++ lineNotices source (n + 1) rest

/-- Adds the records of a trace. -/
def ingest (s : TraceStore) (body : String) : TraceStore :=
  (Text.lines body.toList).foldl addLine s

/-- What is reported about a trace. -/
def notices (source body : String) : List Notice := lineNotices source 1 (Text.lines body.toList)

end TraceStore

end BinaryCoverage
