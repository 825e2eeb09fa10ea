/-!
# Failing access

What keeps a file from being read, written or run, and the wording of it.
-/

namespace BinaryCoverage

inductive AccessError where
  | notFound
  | execFormat
  | permissionDenied
  | exists
  | notFolder
  | isFolder
  | nameTooLong
  | linkLoop
  /-- A path with a character that no name may have. -/
  | zeroInName
  /-- A program or an argument of it with such a character. -/
  | zeroInArgument
  /-- A file that was to be read as text. -/
  | notText
  /-- A writer that takes no more. -/
  | full
  deriving DecidableEq, Repr

def AccessError.message : AccessError → String
  | .notFound => "No such file or directory (os error 2)"
  | .execFormat => "Exec format error (os error 8)"
  | .permissionDenied => "Permission denied (os error 13)"
  | .exists => "File exists (os error 17)"
  | .notFolder => "Not a directory (os error 20)"
  | .isFolder => "Is a directory (os error 21)"
  | .nameTooLong => "File name too long (os error 36)"
  | .linkLoop => "Too many levels of symbolic links (os error 40)"
  | .zeroInName => "file name contained an unexpected NUL byte"
  | .zeroInArgument => "nul byte found in provided data"
  | .notText => "stream did not contain valid UTF-8"
  | .full => "writer full"

end BinaryCoverage
