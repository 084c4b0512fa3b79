/-!
Writing text so that it matches itself: a backslash goes before every character that the syntax of
regular expressions gives a meaning.
-/
namespace OutlineQuery.Regex

def metaChars : List Char :=
  ['\\', '.', '+', '*', '?', '(', ')', '|', '[', ']', '{', '}', '^', '$', '#', '&', '-', '~']

def isMeta (c : Char) : Bool :=
  metaChars.contains c

/-- One character, written so that it matches itself. -/
def escapeChar (c : Char) : List Char :=
  if isMeta c then ['\\', c] else [c]

def escape (s : String) : String :=
  String.ofList (s.toList.flatMap escapeChar)

end OutlineQuery.Regex
