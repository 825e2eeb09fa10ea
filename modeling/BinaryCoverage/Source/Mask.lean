/-!
# Masking a source line

Comments and the contents of string and character literals are blanked, column by column, so that
what is left of a line is its code.  Quotes stay, and characters outside ASCII become blanks.
A literal or comment that the line does not close reaches to the end of the line.
-/

namespace BinaryCoverage.Source

/-- What the scan of a line is inside of. -/
inductive MaskMode where
  | code
  | literal (quote : Char)
  | comment
  deriving DecidableEq

def isQuote (c : Char) : Bool := c == '"' || c == '\''

def isAscii (c : Char) : Bool := c.toNat < 128

def maskFrom : MaskMode → List Char → List Char
  | _, [] => []
  | .code, '/' :: '/' :: rest => List.replicate (rest.length + 2) ' '
  | .code, '/' :: '*' :: rest => ' ' :: ' ' :: maskFrom .comment rest
  | .code, c :: rest =>
      if isQuote c then c :: maskFrom (.literal c) rest
      else (if isAscii c then c else ' ') :: maskFrom .code rest
  -- An escaped character does not end the literal, also where it is a quote.
  | .literal quote, '\\' :: _ :: rest => ' ' :: ' ' :: maskFrom (.literal quote) rest
  | .literal quote, c :: rest =>
      if c == quote then c :: maskFrom .code rest else ' ' :: maskFrom (.literal quote) rest
  | .comment, '*' :: '/' :: rest => ' ' :: ' ' :: maskFrom .code rest
  | .comment, _ :: rest => ' ' :: maskFrom .comment rest

def maskLine (line : List Char) : List Char := maskFrom .code line

end BinaryCoverage.Source
