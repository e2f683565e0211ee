/-!
# Blanks

The blank characters of Unicode (the property `White_Space`) and trimming by them.  A trimmed
text neither starts nor ends with a blank.
-/

namespace BulkProvision

namespace Text

/-- The characters with the Unicode property `White_Space`. -/
def isBlank (c : Char) : Bool :=
  let n := c.toNat
  (9 ≤ n && n ≤ 13) || n == 32 || n == 0x85 || n == 0xA0 || n == 0x1680 ||
    (0x2000 ≤ n && n ≤ 0x200A) || n == 0x2028 || n == 0x2029 || n == 0x202F || n == 0x205F ||
    n == 0x3000

/-- Drops the characters of a class at the end. -/
def dropEnd (p : Char → Bool) (s : List Char) : List Char := (s.reverse.dropWhile p).reverse

/-- Drops the blanks at both ends. -/
def trim (s : List Char) : List Char := dropEnd isBlank (s.dropWhile isBlank)

/-- Whether a string is empty or all blank. -/
def isAllBlank (s : String) : Bool := s.toList.all isBlank

/-- The five blanks of ASCII text: tab, line feed, form feed, carriage return and space. -/
def isAsciiBlank (c : Char) : Bool :=
  c == '\t' || c == '\n' || c == '\x0c' || c == '\r' || c == ' '

end Text

end BulkProvision
