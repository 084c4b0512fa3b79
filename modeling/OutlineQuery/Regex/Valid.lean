import OutlineQuery.Regex.Automaton
import OutlineQuery.Regex.Reader

/-!
Which patterns are accepted. Beyond its syntax, a pattern must not nest too deep, must name
properties that exist, and where it turns Unicode off must not be able to match part of a
character. `isAccepted` asks in addition that a pattern is not too large.
-/
namespace OutlineQuery.Regex

def nestingLimit : Nat := 250

def Literal.isAscii (l : Literal) : Bool :=
  l.char.toNat < 0x80

namespace ClassSet

mutual

/-- Whether a set may be used, with Unicode on or off. With Unicode off it holds bytes, and these
must be ASCII. -/
def isUsable (unicode : Bool) : ClassSet → Bool
  | empty => true
  | literal l => unicode || l.isAscii
  | range first last => unicode || (first.isAscii && last.isAscii)
  | ascii _ negated => unicode || !negated
  | letter _ negated => unicode || !negated
  | property p _ => unicode && p.exists?
  | bracket negated set => (unicode || !negated) && isUsable unicode set
  | union items => allUsable unicode items
  | op _ left right => isUsable unicode left && isUsable unicode right

def allUsable (unicode : Bool) : List ClassSet → Bool
  | [] => true
  | item :: rest => isUsable unicode item && allUsable unicode rest

end

end ClassSet

namespace Ast

mutual

/-- Checks an expression from left to right, with Unicode on or off at its start, and tells whether
it is on after it. -/
def check (unicode : Bool) : Ast → Option Bool
  | empty => some unicode
  | flags change => some (change.apply .unicode unicode)
  | literal l => if unicode || !l.byteEscape || l.isAscii then some unicode else none
  | dot => if unicode then some unicode else none
  | assertion _ => some unicode
  | letter _ negated => if unicode || !negated then some unicode else none
  | property p _ => if unicode && p.exists? then some unicode else none
  | bracket negated set =>
    if (unicode || !negated) && set.isUsable unicode then some unicode else none
  | repeated body _ _ _ => check unicode body
  | group kind body => (check (kind.flags.apply .unicode unicode) body).map fun _ => unicode
  | alternation branches => checkAll unicode branches
  | concat items => checkAll unicode items

def checkAll (unicode : Bool) : List Ast → Option Bool
  | [] => some unicode
  | item :: rest =>
    match check unicode item with
    | none => none
    | some unicode => checkAll unicode rest

end

/-- Whether an expression means something. -/
def isValid (e : Ast) : Bool :=
  e.nesting ≤ nestingLimit && (e.check true).isSome

end Ast

/-- Whether a text is a pattern, whatever its size. -/
def isValid (pattern : String) : Bool :=
  match parse? pattern with
  | none => false
  | some e => e.isValid

def Ast.fits (e : Ast) : Bool :=
  (e.normal .initial).1.fits

def isAccepted (pattern : String) : Bool :=
  match parse? pattern with
  | none => false
  | some e => e.isValid && e.fits

end OutlineQuery.Regex
