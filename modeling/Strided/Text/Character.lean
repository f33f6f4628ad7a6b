import Strided.Text.Character.Invisible
import Strided.Text.Character.Mark

/-! Characters by how they show on a page. -/

set_option autoImplicit false

namespace Strided.Text

def inRanges (ranges : Array (Nat × Nat)) (c : Char) : Bool :=
  ranges.any fun (low, high) => low ≤ c.toNat && c.toNat ≤ high

/-- A character that shows by itself, on its own place. -/
def isPlain (c : Char) : Bool :=
  !inRanges invisibleRanges c && !inRanges markRanges c

/-- White space in the sense of the character database, which is wider than ASCII's. -/
def isBlank (c : Char) : Bool :=
  inRanges #[(0x9, 0xD), (0x20, 0x20), (0x85, 0x85), (0xA0, 0xA0), (0x1680, 0x1680),
    (0x2000, 0x200A), (0x2028, 0x2029), (0x202F, 0x202F), (0x205F, 0x205F), (0x3000, 0x3000)] c

def trimBlanks (cs : List Char) : List Char :=
  ((cs.dropWhile isBlank).reverse.dropWhile isBlank).reverse

end Strided.Text
