import OutlineQuery.Regex.Syntax
import OutlineQuery.Unicode.Age
import OutlineQuery.Unicode.Segmentation

/-!
The Unicode properties that a pattern may name. Names are compared loosely: case, spaces, hyphens
and underscores make no difference, and a leading `is` is dropped.
-/
namespace OutlineQuery.Regex

open OutlineQuery.Text (CodePoints)
open OutlineQuery.Unicode (CharacterSet)

namespace PropertyName

/-- The ASCII characters of a name that matter, in lowercase. -/
def significant (cs : List Char) : List Char :=
  (cs.filter fun c => c.toNat < 0x80 && !(c == ' ' || c == '_' || c == '-')).map Char.toLower

/-- The loose form of a name. The name `isc` keeps its prefix, since `c` alone is a name too. -/
def loose (s : String) : String :=
  match s.toList with
  | a :: b :: rest =>
    if a.toLower = 'i' ∧ b.toLower = 's' then
      match significant rest with
      | ['c'] => "isc"
      | cs => String.ofList cs
    else String.ofList (significant (a :: b :: rest))
  | cs => String.ofList (significant cs)

/-- The characters that a loose name alone stands for: those with a property of two values, in a
general category, or of a script. -/
def points? (name : String) : Option CodePoints :=
  (CharacterSet.find? Unicode.binaryProperties name).or
    ((CharacterSet.find? Unicode.categories name).or (CharacterSet.find? Unicode.scripts name))

/-- The characters that have a value, by its loose name, of the property with a loose name. -/
def pointsOfValue? (name value : String) : Option CodePoints :=
  if name = "gc" ∨ name = "generalcategory" then CharacterSet.find? Unicode.categories value
  else if name = "sc" ∨ name = "script" then CharacterSet.find? Unicode.scripts value
  else if name = "scx" ∨ name = "scriptextensions" then Unicode.scriptExtension? value
  else if name = "age" then Unicode.age? value
  else if name = "gcb" ∨ name = "graphemeclusterbreak" then
    CharacterSet.find? Unicode.clusterBreaks value
  else if name = "wb" ∨ name = "wordbreak" then CharacterSet.find? Unicode.wordBreaks value
  else if name = "sb" ∨ name = "sentencebreak" then CharacterSet.find? Unicode.sentenceBreaks value
  else none

end PropertyName

namespace Property

/-- The characters that have a property, if it exists. -/
def points? (p : Property) : Option CodePoints :=
  match p.value with
  | none => PropertyName.points? (PropertyName.loose p.name)
  | some value => PropertyName.pointsOfValue? (PropertyName.loose p.name) (PropertyName.loose value)

def exists? (p : Property) : Bool :=
  p.points?.isSome

end Property

end OutlineQuery.Regex
