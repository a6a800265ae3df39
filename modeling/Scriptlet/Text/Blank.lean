/-
# Blank characters

The characters with the Unicode property `White_Space`. They separate words and belong to no
word, whatever the symbol tables say.
-/

import Scriptlet.Text.Ranges

namespace Scriptlet.Text

/-- The runs of `White_Space`. -/
def blanks : Ranges :=
  [(0x9, 0xD), (0x20, 0x20), (0x85, 0x85), (0xA0, 0xA0), (0x1680, 0x1680), (0x2000, 0x200A),
   (0x2028, 0x2029), (0x202F, 0x202F), (0x205F, 0x205F), (0x3000, 0x3000)]

/-- Whether a character is white space in any script. -/
def isBlank (c : Char) : Bool := blanks.contains c

end Scriptlet.Text
