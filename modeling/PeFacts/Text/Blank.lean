/-!
# Blank characters

The white space of the Unicode character database.
-/

namespace PeFacts.Text

/-- The character is blank. -/
def isBlank (c : Char) : Bool :=
  let n := c.toNat
  (9 ≤ n && n ≤ 13) || (0x2000 ≤ n && n ≤ 0x200A) ||
    [0x20, 0x85, 0xA0, 0x1680, 0x2028, 0x2029, 0x202F, 0x205F, 0x3000].contains n

/-- Text without the characters at its ends that have the property. -/
def stripped (property : Char → Bool) (cs : List Char) : List Char :=
  ((cs.dropWhile property).reverse.dropWhile property).reverse

/-- Text without the blanks around it. -/
def trim (cs : List Char) : List Char := stripped isBlank cs

end PeFacts.Text
