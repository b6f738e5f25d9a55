/-!
# Blanks

Characters that are blank in ordinary text: those of Unicode, and in a wider sense the four
separators of ASCII as well.

Results:

* `isUnicodeBlank`, `isBlank`: the narrower and the wider set.
* `trim`: the characters without the blanks at either end.
-/

namespace MailSchedule.Text

/-- The blanks of Unicode: every character with the property White_Space. -/
def isUnicodeBlank (c : Char) : Bool :=
  let n := c.toNat
  (9 ≤ n && n ≤ 13) || n = 0x20 || n = 0x85 || n = 0xA0 || n = 0x1680 ||
    (0x2000 ≤ n && n ≤ 0x200A) || n = 0x2028 || n = 0x2029 || n = 0x202F || n = 0x205F || n = 0x3000

/-- The blanks of Unicode and the separators of ASCII. -/
def isBlank (c : Char) : Bool := isUnicodeBlank c || (0x1C ≤ c.toNat && c.toNat ≤ 0x1F)

/-- The characters without those in front that a test holds of. -/
def trimFront (test : Char → Bool) (cs : List Char) : List Char := cs.dropWhile test

/-- The characters without those at the end that a test holds of. -/
def trimBack (test : Char → Bool) (cs : List Char) : List Char :=
  (cs.reverse.dropWhile test).reverse

/-- The characters without those at either end that a test holds of. -/
def trim (test : Char → Bool) (cs : List Char) : List Char := trimBack test (trimFront test cs)

end MailSchedule.Text
