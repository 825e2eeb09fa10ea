import BinaryCoverage.Coverage.Basic

/-!
# Merging documents

Two documents are merged file by file, function by function and line by line.

* `covered` is that of either.
* The first known declaration line wins.
* Where both hold an instruction of one binary at one address, that of the second wins.
* Where both name a binary, the index of the first wins.
* A source of the second is appended unless the first has it already.
-/

namespace BinaryCoverage

def FunctionCoverage.merge (f g : FunctionCoverage) : FunctionCoverage :=
  -- A line of zero on either side gives way to the other.
  let h := f.declare g.declaredAt
  { h with covered := h.covered || g.covered }

def LineCoverage.merge (l m : LineCoverage) : LineCoverage where
  covered := l.covered || m.covered
  records := l.records.unionWith Table.override m.records

def FileCoverage.merge (c d : FileCoverage) : FileCoverage where
  functions := c.functions.unionWith FunctionCoverage.merge d.functions
  lines := c.lines.unionWith LineCoverage.merge d.lines

/-- Appends a source that is not there yet. -/
def Provenance.addSource (sources : List Payload) (source : Payload) : List Payload :=
  if sources.any (·.json.same source.json) then sources else sources ++ [source]

def Provenance.merge (p q : Provenance) : Provenance where
  sources := q.sources.foldl addSource p.sources
  -- What the second says of its own run is lost.
  metadata := p.metadata
  binaries := p.binaries.complete q.binaries

def Document.merge (d e : Document) : Document where
  files := d.files.unionWith FileCoverage.merge e.files
  provenance := d.provenance.merge e.provenance

end BinaryCoverage
