import SolidityGateway.Text.CodePoint

/-!
Two sets of white space. `isBlank` is the larger one, which also counts the information separators
U+001C to U+001F; it bounds banners, media types and error texts. `isSpacing` is the property
White_Space of the standard, which number fields of the settings are trimmed of.
-/

namespace SolidityGateway.CodePoint

/-- The code points of the property White_Space. -/
def isSpacing (c : CodePoint) : Bool :=
  (0x9 ≤ c.val && c.val ≤ 0xD) || c.val == 0x20 || c.val == 0x85 || c.val == 0xA0 || c.val == 0x1680 ||
  (0x2000 ≤ c.val && c.val ≤ 0x200A) || c.val == 0x2028 || c.val == 0x2029 || c.val == 0x202F ||
  c.val == 0x205F || c.val == 0x3000

/-- White space with the four information separators. -/
def isBlank (c : CodePoint) : Bool := c.isSpacing || (0x1C ≤ c.val && c.val ≤ 0x1F)

theorem isBlank_of_isSpacing {c : CodePoint} (h : c.isSpacing = true) : c.isBlank = true := by
  simp [isBlank, h]

end SolidityGateway.CodePoint
