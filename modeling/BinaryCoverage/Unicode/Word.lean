import BinaryCoverage.Unicode.Binary
import BinaryCoverage.Unicode.Category

/-!
# Word characters

A word consists of letters, the marks that combine with them, decimal digits, connectors and join
controls.  Of ASCII these are the letters, the digits and the underscore.
-/

namespace BinaryCoverage.Unicode

/-- A letter, digit or underscore of ASCII. -/
def isAsciiWord (c : Char) : Bool := c.isAlphanum || c == '_'

def isWord (c : Char) : Bool :=
  if c.toNat < 128 then isAsciiWord c
  else alphabetic.contains c || hasCategory wordCategories c || joinControl.contains c

def isDigit (c : Char) : Bool :=
  if c.toNat < 128 then c.isDigit else hasCategory digitCategory c

def isAlphabetic (c : Char) : Bool :=
  if c.toNat < 128 then c.isAlpha else alphabetic.contains c

def isNumeric (c : Char) : Bool :=
  if c.toNat < 128 then c.isDigit else hasCategory numberCategories c

end BinaryCoverage.Unicode
