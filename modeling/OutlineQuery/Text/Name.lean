import OutlineQuery.Text.Blank

/-!
Names as people type them: case, hyphens, spaces and surrounding blanks make no difference.
-/
namespace OutlineQuery.Text

/-- One character of a typed name in its canonical spelling: lowercase, with an underscore for a
hyphen or a space. Only the letters A to Z have a case here. -/
def canonicalChar (c : Char) : Char :=
  if c = '-' ∨ c = ' ' then '_' else c.toLower

def canonicalName (s : String) : String :=
  String.ofList ((trimChars s.toList).map canonicalChar)

/-- Replaces the first place where `old` occurs in a list. -/
def replaceFirst (old new : List Char) : List Char → List Char
  | [] => []
  | c :: rest =>
    if old.isPrefixOf (c :: rest) then new ++ (c :: rest).drop old.length
    else c :: replaceFirst old new rest

end OutlineQuery.Text
