/-!
# White space

The characters that have the property `White_Space` of the Unicode character database.
-/
namespace ScriptFront

def isSpace (c : Char) : Bool :=
  let code := c.toNat
  9 ≤ code && code ≤ 13 || code == 0x20 || code == 0x85 || code == 0xa0 || code == 0x1680
    || 0x2000 ≤ code && code ≤ 0x200a || code == 0x2028 || code == 0x2029 || code == 0x202f
    || code == 0x205f || code == 0x3000

/-- The text without white space around it. -/
def trimmed (text : List Char) : List Char :=
  ((text.dropWhile isSpace).reverse.dropWhile isSpace).reverse

end ScriptFront
