import OutlineQuery.Regex.AsciiClass
import OutlineQuery.Regex.CaseFolding
import OutlineQuery.Regex.Property

/-!
The characters that a class stands for under the switches in force at its place.
-/
namespace OutlineQuery.Regex

open OutlineQuery.Text (CodePoints)

structure Mode where
  ignoreCase : Bool
  multiLine : Bool
  dotMatchesNewline : Bool
  swapGreed : Bool
  unicode : Bool
  crlf : Bool
deriving DecidableEq, Repr

namespace Mode

def initial : Mode := ⟨false, false, false, false, true, false⟩

def change (m : Mode) (c : FlagChange) : Mode :=
  { ignoreCase := c.apply .ignoreCase m.ignoreCase
    multiLine := c.apply .multiLine m.multiLine
    dotMatchesNewline := c.apply .dotMatchesNewline m.dotMatchesNewline
    swapGreed := c.apply .swapGreed m.swapGreed
    unicode := c.apply .unicode m.unicode
    crlf := c.apply .crlf m.crlf }

/-- A set with the characters that differ from its members in case only, where case is ignored. -/
def fold (m : Mode) (s : CodePoints) : CodePoints :=
  if m.ignoreCase then closeUnder (if m.unicode then foldings else asciiFoldings) s else s

/-- A set, or the characters not in it. Case is dealt with first. -/
def select (m : Mode) (negated : Bool) (s : CodePoints) : CodePoints :=
  if negated then (m.fold s).complement else m.fold s

/-- The characters that a dot stands for. -/
def dot (m : Mode) : CodePoints :=
  if m.dotMatchesNewline then .everything
  else if m.crlf then CodePoints.complement [(0xA, 0xA), (0xD, 0xD)]
  else CodePoints.complement [(0xA, 0xA)]

end Mode

/-- The characters of words: alphabetic ones, marks, decimal digits, connectors and the controls of
joining. -/
def wordPoints : CodePoints :=
  .unionAll [Text.alphabeticTable, Unicode.mark, Unicode.decimalNumber,
    Unicode.connectorPunctuation, Unicode.joinControl]

namespace LetterClass

def points : LetterClass → CodePoints
  | digit => Unicode.decimalNumber
  | space => Text.blankTable
  | word => wordPoints

def asciiPoints : LetterClass → CodePoints
  | digit => asciiDigit
  | space => asciiSpace
  | word => asciiWord

/-- The characters that a class with a letter of its own stands for. -/
def select (m : Mode) (k : LetterClass) (negated : Bool) : CodePoints :=
  let s := if m.unicode then k.points else k.asciiPoints
  if negated then s.complement else s

end LetterClass

namespace Property

/-- The characters that a property stands for; none if it does not exist. -/
def select (m : Mode) (p : Property) (negated : Bool) : CodePoints :=
  m.select negated (p.points?.getD [])

end Property

namespace SetOp

def apply : SetOp → CodePoints → CodePoints → CodePoints
  | intersection => .inter
  | difference => .sdiff
  | symmetricDifference => .symmDiff

end SetOp

namespace ClassSet

mutual

/-- The characters of a set in brackets. Case is dealt with where brackets close and before an
operator. -/
def points (m : Mode) : ClassSet → CodePoints
  | empty => []
  | literal l => [(l.char.toNat, l.char.toNat)]
  | range first last => [(first.char.toNat, last.char.toNat)]
  | ascii name negated => m.select negated ((asciiClass? name).getD [])
  | letter k negated => k.select m negated
  | property p negated => p.select m negated
  | bracket negated set => m.select negated (points m set)
  | union items => pointsOfAll m items
  | op o left right => o.apply (m.fold (points m left)) (m.fold (points m right))

def pointsOfAll (m : Mode) : List ClassSet → CodePoints
  | [] => []
  | item :: rest => (points m item).union (pointsOfAll m rest)

end

end ClassSet

end OutlineQuery.Regex
