import BinaryCoverage.Path.Basic

/-!
# Source mappings

The sources that binaries were built from may stand elsewhere now.  A document knows them by keys:
paths below the build root, or paths relative to it.
-/

namespace BinaryCoverage

structure SourceMapping where
  buildRoot : Path
  localRoot : Path
  /-- Whether keys are relative to the build root. -/
  relative : Bool
  deriving DecidableEq

namespace SourceMapping

/-- The key of a path that a transcript names. -/
def keyOfBuilt (m : SourceMapping) (p : Path) : String :=
  if m.relative then ((p.stripPrefix? m.buildRoot).getD p).text else p.text

/-- The key of a file below the local root. -/
def keyOfLocal (m : SourceMapping) (p : Path) : String :=
  match p.stripPrefix? m.localRoot with
  | some rest => if m.relative then rest.text else (m.buildRoot.join rest).text
  -- A file from elsewhere is its own key.
  | none => p.text

/-- Where the file with a given key stands now. -/
def localPath (m : SourceMapping) (key : String) : Path :=
  let p : Path := ⟨key⟩
  if p.isAbsolute then
    match p.stripPrefix? m.buildRoot with
    | some rest => m.localRoot.join rest
    -- Sources outside the build root, such as headers of the system, have not moved.
    | none => p
  else m.localRoot.join p

end SourceMapping

end BinaryCoverage
