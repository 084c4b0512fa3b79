import OutlineQuery.Datalog.Printer
import OutlineQuery.Scope.Restriction
import OutlineQuery.Text.Alphanumeric

/-!
Restricting a query that is only known as text. The text is scanned for the end of its `:where`
block and for the variables `?b` and `?p`; string literals are passed over. Where something is
missing the text is left as it is.
-/
namespace OutlineQuery.QueryText

open Datalog (Position Var Clause)

def isSymbolChar (c : Char) : Bool :=
  Text.isAlphanumeric c || "-_?!*+./<>=".toList.contains c

/-- Whether a text starts with a symbol that ends there. -/
def startsWithSymbol (symbol cs : List Char) : Bool :=
  symbol.isPrefixOf cs && !(cs.drop symbol.length).head?.any isSymbolChar

/-- Whether a symbol occurs in code as a whole, from a position on and after a character. -/
def hasSymbolFrom (symbol : List Char) : Position → Option Char → List Char → Bool
  | _, _, [] => false
  | p, previous, c :: rest =>
    (p == .code && !previous.any isSymbolChar && startsWithSymbol symbol (c :: rest)) ||
      hasSymbolFrom symbol (p.step c) (some c) rest

def hasVar (text : List Char) (v : Var) : Bool :=
  hasSymbolFrom v.text.toList .code none text

def isOpening (c : Char) : Bool :=
  c == '[' || c == '(' || c == '{'

def isClosing (c : Char) : Bool :=
  c == ']' || c == ')' || c == '}'

/-- The number of characters before the one that closes the innermost bracket around a place, if
that is a square bracket. -/
def closeFrom : Position → Nat → List Char → Option Nat
  | _, _, [] => none
  | p, depth, c :: rest =>
    if p == .code && isOpening c then (closeFrom (p.step c) (depth + 1) rest).map (· + 1)
    else if p == .code && isClosing c then
      -- The depth is the number of brackets opened since the place.
      match depth with
      | 0 => if c = ']' then some 0 else none
      | depth + 1 => (closeFrom (p.step c) depth rest).map (· + 1)
    else (closeFrom (p.step c) depth rest).map (· + 1)

/-- The number of characters before the bracket that closes the vector with the first `:where`. -/
def whereEndFrom : Position → List Char → Option Nat
  | _, [] => none
  | p, c :: rest =>
    if p == .code && startsWithSymbol ":where".toList (c :: rest) then closeFrom p 0 (c :: rest)
    else (whereEndFrom (p.step c) rest).map (· + 1)

/-- Where the `:where` block of a query ends. -/
def whereEnd (text : List Char) : Option Nat :=
  whereEndFrom .code text

inductive Failure where
  | noWhereBlock
  | unboundVariable (v : Var)
deriving DecidableEq, Repr

namespace Failure

def diagnostic : Failure → Diagnostic
  | noWhereBlock =>
    .warn .injectionTargetNotFound "no `:where` clause block found; query left unchanged"
  | unboundVariable v =>
    .warn .injectionTargetNotFound
      ("variable " ++ v.text ++ " is not bound by the query; query left unchanged")

end Failure

/-- The clauses that restrict a variable of the text to a list of identifiers. -/
def addedFor (text : List Char) (entity : Var) (ids : List String) :
    Except Failure (List Clause) :=
  match Scope.membership? (Scope.idVar entity) ids with
  | none => .ok []
  | some _ =>
    if hasVar text entity then .ok (Scope.restriction (hasVar text) entity ids)
    else .error (.unboundVariable entity)

/-- The clauses that restrict the block and the page of a text. -/
def added (text : List Char) (blockIds pageIds : List String) : Except Failure (List Clause) := do
  let blocks ← addedFor text ⟨"b"⟩ blockIds
  let pages ← addedFor text ⟨"p"⟩ pageIds
  return blocks ++ pages

/-- Clauses as they are added to a text, each on a line of its own. -/
def addedText (cs : List Clause) : List Char :=
  cs.flatMap fun c => "\n ".toList ++ c.render.toList

def restricted (text : List Char) (blockIds pageIds : List String) : Except Failure (List Char) :=
  if blockIds.isEmpty && pageIds.isEmpty then .ok text
  else
    -- A text without a block is reported as such, whatever variables it has.
    match whereEnd text with
    | none => .error .noWhereBlock
    | some close => do
      let clauses ← added text blockIds pageIds
      return text.take close ++ addedText clauses ++ text.drop close

/-- Restricts a query given as text to blocks and pages. -/
def inject (text : String) (blockIds pageIds : List String) : String × Option Diagnostic :=
  match restricted text.toList blockIds pageIds with
  | .ok cs => (String.ofList cs, none)
  | .error failure => (text, some failure.diagnostic)

end OutlineQuery.QueryText
