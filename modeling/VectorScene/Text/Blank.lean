/-!
# White space

The white space of attribute texts: the Unicode space separators, the line and
paragraph separators, and the control characters that separate text.  `trim`
removes it from both ends.
-/

namespace VectorScene.Text

/-- White space: the control characters from TAB to CR and from U+001C to
U+001F, the space, NEL, and the Unicode separators. -/
def isBlank (c : Char) : Bool :=
  let code := c.toNat
  (0x09 ≤ code && code ≤ 0x0D) || (0x1C ≤ code && code ≤ 0x20) || code = 0x85 ||
    code = 0xA0 || code = 0x1680 || (0x2000 ≤ code && code ≤ 0x200A) || code = 0x2028 ||
    code = 0x2029 || code = 0x202F || code = 0x205F || code = 0x3000

/-- Remove every character satisfying `drop` from both ends. -/
def trimBy (drop : Char → Bool) (cs : List Char) : List Char :=
  ((cs.dropWhile drop).reverse.dropWhile drop).reverse

/-- Remove white space from both ends. -/
def trim (cs : List Char) : List Char :=
  trimBy isBlank cs

/-- Whether a text holds white space only.  The empty text does. -/
def allBlank (cs : List Char) : Bool :=
  cs.all isBlank

@[simp] theorem allBlank_nil : allBlank [] = true := rfl

@[simp] theorem allBlank_cons (c : Char) (cs : List Char) :
    allBlank (c :: cs) = (isBlank c && allBlank cs) := rfl

@[simp] theorem allBlank_append (left right : List Char) :
    allBlank (left ++ right) = (allBlank left && allBlank right) := by
  simp [allBlank]

end VectorScene.Text
