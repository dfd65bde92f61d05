/-!
# Blank text

The characters with the Unicode property White_Space, as ranges of code points, and the texts that
hold nothing else.
-/

namespace PathRouting.Text
set_option autoImplicit false

/-- The code point ranges of the property White_Space, ends included. -/
def blankRanges : List (Nat × Nat) :=
  [(0x09, 0x0D), (0x20, 0x20), (0x85, 0x85), (0xA0, 0xA0), (0x1680, 0x1680), (0x2000, 0x200A),
    (0x2028, 0x2029), (0x202F, 0x202F), (0x205F, 0x205F), (0x3000, 0x3000)]

def isBlankChar (c : Char) : Bool := blankRanges.any fun r => r.1 ≤ c.toNat && c.toNat ≤ r.2

/-- A text without any character but white space. -/
def isBlank (s : String) : Bool := s.toList.all isBlankChar

end PathRouting.Text
