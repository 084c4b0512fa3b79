import OutlineQuery.Regex.AsciiClass
import OutlineQuery.Regex.Atom

/-!
Reading sets in brackets. The reader keeps the bracket that it is in and, for each bracket around
it, what had been read there.
-/
namespace OutlineQuery.Regex

open OutlineQuery.Text (isBlank)

/-- A bracket being read: what stands left of its last operator, and the items after that, last
first. -/
structure Bracket where
  negated : Bool
  left : Option (SetOp × ClassSet)
  items : List ClassSet

namespace Bracket

def push (b : Bracket) (item : ClassSet) : Bracket :=
  { b with items := item :: b.items }

/-- The set read so far. Operators group to the left. -/
def set (b : Bracket) : ClassSet :=
  match b.left with
  | none => ClassSet.ofItems b.items.reverse
  | some (o, left) => .op o left (ClassSet.ofItems b.items.reverse)

def operate (b : Bracket) (o : SetOp) : Bracket :=
  ⟨b.negated, some (o, b.set), []⟩

end Bracket

/-- Reads a named ASCII class after its opening bracket, as `:alpha:]` or `:^alpha:]`. -/
def readAsciiClass? (cs : List Char) : Option (ClassSet × List Char) :=
  match cs with
  | ':' :: inner =>
    let (negated, inner) := match inner with
      | '^' :: after => (true, after)
      | _ => (false, inner)
    let name := String.ofList (inner.takeWhile (· != ':'))
    match inner.dropWhile (· != ':') with
    | ':' :: ']' :: rest =>
      if (asciiClass? name).isSome then some (.ascii name negated, rest) else none
    | _ => none
  | _ => none

/-- Takes the hyphens at the start of a bracket, each of which stands for itself. -/
def readHyphens (verbose : Bool) : Nat → Bracket → List Char → Bracket × List Char
  | n + 1, b, '-' :: rest =>
    readHyphens verbose n (b.push (.literal ⟨'-', false⟩)) (skip verbose rest)
  | _, b, cs => (b, cs)

/-- Reads the start of a set after its opening bracket: a caret that negates it, hyphens, and, if
there are none, a closing bracket that stands for itself. -/
def readBracketStart (verbose : Bool) (cs : List Char) : Bracket × List Char :=
  let (negated, cs) := match skip verbose cs with
    | '^' :: rest => (true, skip verbose rest)
    | cs => (false, cs)
  match readHyphens verbose cs.length ⟨negated, none, []⟩ cs with
  | (b, ']' :: rest) =>
    if b.items.isEmpty then (b.push (.literal ⟨']', false⟩), skip verbose rest) else (b, ']' :: rest)
  | result => result

/-- One character of a set, or an escape. -/
def readBracketAtom (verbose : Bool) : List Char → Option (Atom × List Char)
  | [] => none
  | c :: rest => if c = '\\' then readEscape verbose rest else some (.char c, rest)

/-- The character that follows a hyphen, where a comment of verbose mode counts from the first
character of its text. -/
def peekPastBlanks (verbose : Bool) (cs : List Char) : Option Char :=
  if verbose then
    match cs.dropWhile isBlank with
    | '#' :: rest => (rest.dropWhile isBlank).head?.or cs.head?
    | rest => rest.head?.or cs.head?
  else cs.head?

/-- Reads an item of a set: a range, or else one atom. -/
def readBracketItem (verbose : Bool) (cs : List Char) : Option (ClassSet × List Char) := do
  let (first, rest) ← readBracketAtom verbose cs
  match skip verbose rest with
  | [] => none
  | '-' :: after =>
    let next := peekPastBlanks verbose after
    -- The hyphen ends the set or starts an operator, so it makes no range.
    if next = some ']' ∨ next = some '-' then
      return (← first.toClassSet?, '-' :: after)
    else
      let (last, rest) ← readBracketAtom verbose (skip verbose after)
      let lo ← first.literal?
      let hi ← last.literal?
      if lo.char ≤ hi.char then return (.range lo hi, rest) else none
  | rest => return (← first.toClassSet?, rest)

/-- The operator at the start of a text. -/
def readSetOp? : List Char → Option (SetOp × List Char)
  | '&' :: '&' :: rest => some (.intersection, rest)
  | '-' :: '-' :: rest => some (.difference, rest)
  | '~' :: '~' :: rest => some (.symmetricDifference, rest)
  | _ => none

/-- Reads on in a bracket, inside those around it, to the end of the outermost. Every step takes a
character, so the length of the text is enough fuel. -/
def readBracketRest (verbose : Bool) :
    Nat → Bracket → List Bracket → List Char → Option ((Bool × ClassSet) × List Char)
  | 0, _, _, _ => none
  | n + 1, b, around, cs =>
    match skip verbose cs with
    | [] => none
    | ']' :: rest =>
      match around with
      | [] => some ((b.negated, b.set), rest)
      | outer :: around => readBracketRest verbose n (outer.push (.bracket b.negated b.set)) around rest
    | '[' :: rest =>
      match readAsciiClass? rest with
      | some (cls, rest) => readBracketRest verbose n (b.push cls) around rest
      | none =>
        -- What is no named class is a set within the set.
        let (inner, rest) := readBracketStart verbose rest
        readBracketRest verbose n inner (b :: around) rest
    | cs =>
      match readSetOp? cs with
      | some (o, rest) => readBracketRest verbose n (b.operate o) around rest
      | none =>
        match readBracketItem verbose cs with
        | some (item, rest) => readBracketRest verbose n (b.push item) around rest
        | none => none

/-- Reads a set after its opening bracket: whether it is negated, and what it holds. -/
def readBracket (verbose : Bool) (cs : List Char) : Option ((Bool × ClassSet) × List Char) :=
  let (b, rest) := readBracketStart verbose cs
  readBracketRest verbose (cs.length + 1) b [] rest

end OutlineQuery.Regex
