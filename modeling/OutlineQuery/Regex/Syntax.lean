/-!
The syntax of regular expressions, as a tree. `Ast.nesting` measures how deep the tree is, counting
the nodes that hold others.
-/
namespace OutlineQuery.Regex

inductive Flag where
  | ignoreCase
  | multiLine
  | dotMatchesNewline
  | swapGreed
  | unicode
  | crlf
  | verbose
deriving DecidableEq, Repr

/-- Switches turned on and off together. -/
structure FlagChange where
  on : List Flag
  off : List Flag
deriving DecidableEq, Repr

namespace FlagChange

def none : FlagChange := ⟨[], []⟩

/-- The state of a switch after the change, from its state before. -/
def apply (change : FlagChange) (flag : Flag) (before : Bool) : Bool :=
  if change.on.contains flag then true
  else if change.off.contains flag then false
  else before

end FlagChange

/-- A single character. `byteEscape` tells that it was written as two hexadecimal digits, which is a
byte where Unicode is off. -/
structure Literal where
  char : Char
  byteEscape : Bool
deriving DecidableEq, Repr

/-- The classes with a letter of their own: `\d`, `\s` and `\w`. -/
inductive LetterClass where
  | digit
  | space
  | word
deriving DecidableEq, Repr

/-- A Unicode property as it is asked for: by name, or by name and value. -/
structure Property where
  name : String
  value : Option String
deriving DecidableEq, Repr

inductive Assertion where
  | lineStart
  | lineEnd
  | textStart
  | textEnd
  | wordBoundary
  | notWordBoundary
  | wordStart
  | wordEnd
  | wordStartHalf
  | wordEndHalf
deriving DecidableEq, Repr

inductive SetOp where
  | intersection
  | difference
  | symmetricDifference
deriving DecidableEq, Repr

inductive ClassSet where
  | empty
  | literal (l : Literal)
  | range (first last : Literal)
  | ascii (name : String) (negated : Bool)
  | letter (k : LetterClass) (negated : Bool)
  | property (p : Property) (negated : Bool)
  | bracket (negated : Bool) (set : ClassSet)
  | union (items : List ClassSet)
  | op (o : SetOp) (left right : ClassSet)

namespace ClassSet

/-- The set of some items: a single item is its own set. -/
def ofItems : List ClassSet → ClassSet
  | [] => empty
  | [item] => item
  | items => union items

mutual

def nesting : ClassSet → Nat
  | bracket _ set => nesting set + 1
  | union items => nestingAll items + 1
  | op _ left right => max (nesting left) (nesting right) + 1
  | _ => 0

def nestingAll : List ClassSet → Nat
  | [] => 0
  | item :: rest => max (nesting item) (nestingAll rest)

end

end ClassSet

/-- How a group treats what it matches. -/
inductive GroupKind where
  | capture
  | named (name : String)
  | plain (flags : FlagChange)
deriving DecidableEq, Repr

namespace GroupKind

def flags : GroupKind → FlagChange
  | plain change => change
  | _ => FlagChange.none

end GroupKind

inductive Ast where
  | empty
  | flags (change : FlagChange)
  | literal (l : Literal)
  | dot
  | assertion (a : Assertion)
  | letter (k : LetterClass) (negated : Bool)
  | property (p : Property) (negated : Bool)
  | bracket (negated : Bool) (set : ClassSet)
  | repeated (body : Ast) (min : Nat) (max : Option Nat) (greedy : Bool)
  | group (kind : GroupKind) (body : Ast)
  | alternation (branches : List Ast)
  | concat (items : List Ast)

namespace Ast

/-- The expression that matches some items in a row: a single item stands for itself. -/
def ofItems : List Ast → Ast
  | [] => empty
  | [item] => item
  | items => concat items

mutual

def nesting : Ast → Nat
  | bracket _ set => set.nesting + 1
  | repeated body _ _ _ => nesting body + 1
  | group _ body => nesting body + 1
  | alternation branches => nestingAll branches + 1
  | concat items => nestingAll items + 1
  | _ => 0

def nestingAll : List Ast → Nat
  | [] => 0
  | item :: rest => max (nesting item) (nestingAll rest)

end

end Ast

end OutlineQuery.Regex
