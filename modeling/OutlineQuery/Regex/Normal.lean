import OutlineQuery.Regex.Mode
import OutlineQuery.Text.Utf8

/-!
Expressions in normal form, with the switches resolved. Neighbouring characters are one text,
alternatives of one character each are a class, repetitions of nothing are gone, and what all
alternatives start with stands before them.
-/
namespace OutlineQuery.Regex

open OutlineQuery.Text (CodePoints)

/-- Places in the text, with the switches resolved. -/
inductive Place where
  | textStart
  | textEnd
  | lineStart (crlf : Bool)
  | lineEnd (crlf : Bool)
  | word (a : Assertion) (unicode : Bool)
deriving DecidableEq, Repr

inductive Normal where
  | empty
  /-- Code points one after the other. -/
  | text (cs : List Nat)
  /-- One character of a set, which may be empty. -/
  | chars (unicode : Bool) (set : CodePoints)
  | place (p : Place)
  | repeated (body : Normal) (min : Nat) (max : Option Nat) (greedy : Bool)
  | group (body : Normal)
  | alternation (branches : List Normal)
  | concat (items : List Normal)

namespace Normal

def nothing : Normal := chars false []

mutual

/-- Whether two expressions are the same. Groups have numbers of their own, so no two are. -/
def same : Normal → Normal → Bool
  | empty, empty => true
  | text cs, text ds => cs == ds
  | chars u s, chars v t => u == v && s == t
  | place p, place q => p == q
  | repeated body min most greedy, repeated body' min' most' greedy' =>
    min == min' && most == most' && greedy == greedy' && same body body'
  | alternation branches, alternation branches' => sameAll branches branches'
  | concat items, concat items' => sameAll items items'
  | _, _ => false

def sameAll : List Normal → List Normal → Bool
  | [], [] => true
  | a :: as, b :: bs => same a b && sameAll as bs
  | _, _ => false

end

mutual

/-- The least number of bytes that an expression matches, if it is known to match any text. -/
def minLength : Normal → Option Nat
  | empty => some 0
  | text cs => some (cs.foldr (fun c n => Text.Utf8.width c + n) 0)
  | chars _ s => s.head?.map fun r => Text.Utf8.width r.1
  | place _ => some 0
  | repeated body min _ _ => (minLength body).map (min * ·)
  | group body => minLength body
  | alternation branches => minLengthOfAny branches
  | concat items => minLengthOfAll items

def minLengthOfAny : List Normal → Option Nat
  | [] => none
  | [e] => minLength e
  | e :: rest =>
    match minLength e, minLengthOfAny rest with
    | some m, some n => some (min m n)
    | _, _ => none

def minLengthOfAll : List Normal → Option Nat
  | [] => some 0
  | e :: rest =>
    match minLength e, minLengthOfAll rest with
    | some m, some n => some (m + n)
    | _, _ => none

end

mutual

/-- The greatest number of bytes that an expression matches, if it has one. -/
def maxLength : Normal → Option Nat
  | empty => some 0
  | text cs => some (cs.foldr (fun c n => Text.Utf8.width c + n) 0)
  | chars _ s => s.getLast?.map fun r => Text.Utf8.width r.2
  | place _ => some 0
  | repeated body _ most _ =>
    match most, maxLength body with
    | some most, some n => some (most * n)
    | _, _ => none
  | group body => maxLength body
  | alternation branches => maxLengthOfAny branches
  | concat items => maxLengthOfAll items

def maxLengthOfAny : List Normal → Option Nat
  | [] => none
  | [e] => maxLength e
  | e :: rest =>
    match maxLength e, maxLengthOfAny rest with
    | some m, some n => some (max m n)
    | _, _ => none

def maxLengthOfAll : List Normal → Option Nat
  | [] => some 0
  | e :: rest =>
    match maxLength e, maxLengthOfAll rest with
    | some m, some n => some (m + n)
    | _, _ => none

end

def isEmptyOnly (e : Normal) : Bool :=
  e.maxLength == some 0

mutual

/-- Whether every match starts where the text does. -/
def startsText : Normal → Bool
  | place p => p == .textStart
  | repeated body min _ _ => 0 < min && startsText body
  | group body => startsText body
  | alternation branches => eachStartsText branches
  | concat items => rowStartsText items
  | _ => false

def eachStartsText : List Normal → Bool
  | [] => true
  | e :: rest => startsText e && eachStartsText rest

def rowStartsText : List Normal → Bool
  | [] => false
  | e :: rest => startsText e || (e.isEmptyOnly && rowStartsText rest)

end

mutual

/-- Whether every match ends where the text does. -/
def endsText : Normal → Bool
  | place p => p == .textEnd
  | repeated body min _ _ => 0 < min && endsText body
  | group body => endsText body
  | alternation branches => eachEndsText branches
  | concat items => (rowEndsText items).1
  | _ => false

def eachEndsText : List Normal → Bool
  | [] => true
  | e :: rest => endsText e && eachEndsText rest

/-- Whether every match of some expressions in a row ends where the text does, and whether all of
them match the empty text only. -/
def rowEndsText : List Normal → Bool × Bool
  | [] => (false, true)
  | e :: rest =>
    let (ends, vacuous) := rowEndsText rest
    (ends || (vacuous && endsText e), vacuous && e.isEmptyOnly)

end

/-- One character of a set: a set of one character is a text. -/
def ofSet (unicode : Bool) (s : CodePoints) : Normal :=
  match s with
  | [] => nothing
  | [(lo, hi)] => if lo = hi then text [lo] else chars unicode s
  | _ => chars unicode s

/-- A repetition. What matches the empty text only is not matched twice. -/
def ofRepeat (body : Normal) (least : Nat) (most : Option Nat) (greedy : Bool) : Normal :=
  let (least, most) :=
    if body.isEmptyOnly then (min least 1, some ((most.getD 1).min 1)) else (least, most)
  if most = some 0 then empty
  else if least = 1 ∧ most = some 1 then body
  else repeated body least most greedy

def items : Normal → List Normal
  | empty => []
  | concat es => es
  | e => [e]

/-- Puts an expression before others, as part of the same text where both are texts. -/
def attach (e : Normal) (rest : List Normal) : List Normal :=
  match e, rest with
  | text cs, text ds :: more => text (cs ++ ds) :: more
  | _, _ => e :: rest

def ofConcat (es : List Normal) : Normal :=
  match (es.flatMap items).foldr attach [] with
  | [] => empty
  | [e] => e
  | es => concat es

def branches : Normal → List Normal
  | alternation es => es
  | e => [e]

def char? : Normal → Option Nat
  | text [c] => some c
  | _ => none

def set? : Normal → Option CodePoints
  | chars _ s => some s
  | _ => none

/-- One of some expressions, which have nothing in common at their start. -/
def ofBranches (es : List Normal) : Normal :=
  match es.flatMap branches with
  | [] => nothing
  | [e] => e
  | es =>
    match es.mapM char? with
    | some cs => ofSet true (.ofPoints cs)
    | none =>
      match es.mapM set? with
      | some sets => ofSet true (.unionAll sets)
      | none => alternation es

/-- What two rows start with. -/
def commonStart : List Normal → List Normal → List Normal
  | a :: as, b :: bs => if same a b then a :: commonStart as bs else []
  | _, _ => []

/-- The items of an expression that is a row of two or more. -/
def row? : Normal → Option (List Normal)
  | concat es => some es
  | _ => none

/-- One of some expressions. What they all start with stands before the choice, if all are rows. -/
def ofAlternation (es : List Normal) : Normal :=
  match ofBranches es with
  | alternation es =>
    match es.mapM row? with
    | some (r :: rs) =>
      match rs.foldl commonStart r with
      | [] => alternation es
      | start =>
        let rest := ofBranches ((r :: rs).map fun r => ofConcat (r.drop start.length))
        ofConcat (start ++ [rest])
    | _ => alternation es
  | e => e

end Normal

namespace Mode

def place (m : Mode) : Assertion → Place
  | .lineStart => if m.multiLine then .lineStart m.crlf else .textStart
  | .lineEnd => if m.multiLine then .lineEnd m.crlf else .textEnd
  | .textStart => .textStart
  | .textEnd => .textEnd
  | a => .word a m.unicode

end Mode

/-- Whether a group keeps what it matches. -/
def GroupKind.isCapture : GroupKind → Bool
  | plain _ => false
  | _ => true

namespace Ast

mutual

/-- The normal form of an expression under the switches before it, and the switches after it. -/
def normal (m : Mode) : Ast → Normal × Mode
  | empty => (.empty, m)
  | flags change => (.empty, m.change change)
  | literal l => (.ofSet m.unicode (m.fold [(l.char.toNat, l.char.toNat)]), m)
  | dot => (.ofSet m.unicode m.dot, m)
  | assertion a => (.place (m.place a), m)
  | letter k negated => (.ofSet m.unicode (k.select m negated), m)
  | property p negated => (.ofSet m.unicode (p.select m negated), m)
  | bracket negated set => (.ofSet m.unicode (m.select negated (set.points m)), m)
  -- What a body sets holds for its own repetition as well.
  | repeated body min most greedy =>
    let (e, m) := normal m body
    (.ofRepeat e min most (greedy != m.swapGreed), m)
  | group kind body =>
    -- Switches set in a group end with it.
    let (e, _) := normal (m.change kind.flags) body
    (if kind.isCapture then .group e else e, m)
  -- A switch set in a branch holds for the branches after it.
  | alternation branches =>
    let (es, m) := normals m branches
    (.ofAlternation es, m)
  | concat items =>
    let (es, m) := normals m items
    (.ofConcat es, m)

/-- The normal forms of expressions one after the other, and the switches after them. -/
def normals (m : Mode) : List Ast → List Normal × Mode
  | [] => ([], m)
  | item :: rest =>
    let (e, m) := normal m item
    let (es, m) := normals m rest
    (e :: es, m)

end

end Ast

end OutlineQuery.Regex
