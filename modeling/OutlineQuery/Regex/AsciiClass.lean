import OutlineQuery.Text.CodePoints

/-!
Classes of ASCII characters, with the names that may stand between `[:` and `:]`.
-/
namespace OutlineQuery.Regex

open OutlineQuery.Text (CodePoints)

def asciiDigit : CodePoints := [(0x30, 0x39)]

/-- Blanks and the controls that part lines and pages. -/
def asciiSpace : CodePoints := [(0x9, 0xD), (0x20, 0x20)]

/-- Letters, digits and the underscore. -/
def asciiWord : CodePoints := [(0x30, 0x39), (0x41, 0x5A), (0x5F, 0x5F), (0x61, 0x7A)]

def asciiClasses : List (String × CodePoints) :=
  [("alnum", [(0x30, 0x39), (0x41, 0x5A), (0x61, 0x7A)]), ("alpha", [(0x41, 0x5A), (0x61, 0x7A)]),
   ("ascii", [(0, 0x7F)]), ("blank", [(0x9, 0x9), (0x20, 0x20)]),
   ("cntrl", [(0, 0x1F), (0x7F, 0x7F)]), ("digit", asciiDigit), ("graph", [(0x21, 0x7E)]),
   ("lower", [(0x61, 0x7A)]), ("print", [(0x20, 0x7E)]),
   ("punct", [(0x21, 0x2F), (0x3A, 0x40), (0x5B, 0x60), (0x7B, 0x7E)]), ("space", asciiSpace),
   ("upper", [(0x41, 0x5A)]), ("word", asciiWord),
   ("xdigit", [(0x30, 0x39), (0x41, 0x46), (0x61, 0x66)])]

def asciiClass? (name : String) : Option CodePoints :=
  asciiClasses.lookup name

end OutlineQuery.Regex
