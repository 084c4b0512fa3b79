import OutlineQuery.Group
import OutlineQuery.Regex.Escape
import OutlineQuery.Text.Alphanumeric

/-!
The patterns that conditions stand for. A page is referred to as `[[name]]`, `#name` or `name::`, a
block as `((id))`; a bare occurrence of the name does not count.
-/
namespace OutlineQuery

namespace Pattern

/-- The switch, at the start of a pattern, that makes it ignore case. -/
def ignoreCase : String := "(?i)"

/-- Whether a tag that ends in this character must be followed by a word boundary. -/
def isWordChar (c : Char) : Bool :=
  Text.isAlphanumeric c || c == '_'

def exactText (value : String) : String :=
  "^" ++ Regex.escape value ++ "$"

def containedText (value : String) : String :=
  ".*" ++ Regex.escape value ++ ".*"

/-- The pattern for a tag. A word at its end must end there, so that `#AI` is not found in
`#AIR`. -/
def tag (name : String) : String :=
  "#" ++ Regex.escape name ++ (if name.toList.getLast?.any isWordChar then "\\b" else "")

def pageReference (name : String) : String :=
  "\\[\\[" ++ Regex.escape name ++ "\\]\\]|" ++ tag name ++ "|" ++ Regex.escape name ++ "::"

def blockReference (id : String) : String :=
  "\\(\\(" ++ Regex.escape id ++ "\\)\\)"

/-- The pattern that matches what one of some patterns does. Each is grouped, so that its own
alternatives and anchors stay within it. -/
def alternation (sources : List String) : String :=
  String.intercalate "|" (sources.map fun s => "(?:" ++ s ++ ")")

end Pattern

namespace Condition

/-- The pattern of a condition, with no switch added. -/
def fragment (c : Condition) : String :=
  if c.isRaw then c.value
  else
    match c.kind with
    | .text => if c.mode == .exact then Pattern.exactText c.value else Pattern.containedText c.value
    | .pageReference => Pattern.pageReference c.value
    | .blockReference => Pattern.blockReference c.value
    | .pattern => c.value

/-- The pattern that a query tests for a condition. A raw pattern keeps the case sensitivity that it
was written with. -/
def source (c : Condition) (ignoreCase : Bool) : String :=
  if c.isRaw || !ignoreCase then c.fragment else Pattern.ignoreCase ++ c.fragment

/-- The one condition that holds when some of two or more positive conditions does. -/
def merge? (cs : List Condition) : Option Condition :=
  if cs.length < 2 then none
  else some (ofPattern (Pattern.ignoreCase ++ Pattern.alternation (cs.map fragment)))

end Condition

end OutlineQuery
