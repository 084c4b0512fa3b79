import OutlineQuery.Text.CodePoints

/-!
Blank characters and trimming. A character is blank when it has the `White_Space` property, so the
no-break and ideographic spaces are blank and the zero-width space is not.
-/
namespace OutlineQuery.Text

/-- The code points with the `White_Space` property. -/
def blankTable : CodePoints :=
  [(0x9, 0xD), (0x20, 0x20), (0x85, 0x85), (0xA0, 0xA0), (0x1680, 0x1680), (0x2000, 0x200A),
   (0x2028, 0x2029), (0x202F, 0x202F), (0x205F, 0x205F), (0x3000, 0x3000)]

def isBlank (c : Char) : Bool :=
  blankTable.contains c.toNat

/-- The characters from the first that is not blank to the last that is not. -/
def trimChars (cs : List Char) : List Char :=
  ((cs.dropWhile isBlank).reverse.dropWhile isBlank).reverse

def trim (s : String) : String :=
  String.ofList (trimChars s.toList)

def trimEnd (s : String) : String :=
  String.ofList (s.toList.reverse.dropWhile isBlank).reverse

def isBlankText (s : String) : Bool :=
  s.toList.all isBlank

end OutlineQuery.Text
