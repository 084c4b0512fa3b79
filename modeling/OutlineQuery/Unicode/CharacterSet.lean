import OutlineQuery.Text.CodePoints

/-!
Sets of characters that go by names, the form in which a property of characters is looked up.
-/
namespace OutlineQuery.Unicode

open OutlineQuery.Text (CodePoints)

/-- A set of characters and its names, in lowercase without spaces, hyphens and underscores. -/
structure CharacterSet where
  names : List String
  points : CodePoints

namespace CharacterSet

/-- The characters of the set with a name. -/
def find? (sets : List CharacterSet) (name : String) : Option CodePoints :=
  (sets.find? (·.names.contains name)).map (·.points)

end CharacterSet

end OutlineQuery.Unicode
