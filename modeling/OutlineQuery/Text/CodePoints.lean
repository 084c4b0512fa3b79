/-!
Sets of characters written as ascending ranges of code points, the form in which a character
property is tabulated. Ranges of one set neither overlap nor touch.
-/
namespace OutlineQuery.Text

/-- Inclusive ranges of code points, in ascending order. -/
abbrev CodePoints := List (Nat × Nat)

namespace CodePoints

/-- Whether a code point lies in one of the ranges. The ranges ascend, so the search ends at the
first one that starts above it. -/
def contains : CodePoints → Nat → Bool
  | [], _ => false
  | (lo, hi) :: rest, n => lo ≤ n && (n ≤ hi || contains rest n)

def greatest : Nat := 0x10FFFF

def everything : CodePoints := [(0, greatest)]

/-- Joins a range with the following ones that overlap or touch it, where the first code points
ascend. -/
def joinFrom (lo hi : Nat) : List (Nat × Nat) → CodePoints
  | [] => [(lo, hi)]
  | (a, b) :: rest =>
    if a ≤ hi + 1 then joinFrom lo (max hi b) rest else (lo, hi) :: joinFrom a b rest

/-- The set of some ranges whose first code points ascend. -/
def join : List (Nat × Nat) → CodePoints
  | [] => []
  | (lo, hi) :: rest => joinFrom lo hi rest

def startsBy (r s : Nat × Nat) : Bool :=
  r.1 ≤ s.1

def ofRanges (rs : List (Nat × Nat)) : CodePoints :=
  join (rs.mergeSort startsBy)

def ofPoints (ns : List Nat) : CodePoints :=
  ofRanges (ns.map fun n => (n, n))

def union (s t : CodePoints) : CodePoints :=
  join (s.merge t startsBy)

def unionAll (sets : List CodePoints) : CodePoints :=
  sets.foldr union []

/-- The code point after another that is a character. Surrogates are none. -/
def after (n : Nat) : Nat :=
  if n = 0xD7FF then 0xE000 else n + 1

def before (n : Nat) : Nat :=
  if n = 0xE000 then 0xD7FF else n - 1

/-- The characters from a code point on that are not in a set. -/
def gapsFrom (start : Nat) : CodePoints → CodePoints
  | [] => if start ≤ greatest then [(start, greatest)] else []
  | (lo, hi) :: rest =>
    if start < lo ∧ start ≤ before lo then (start, before lo) :: gapsFrom (after hi) rest
    else gapsFrom (after hi) rest

def complement (s : CodePoints) : CodePoints :=
  gapsFrom 0 s

def inter (s t : CodePoints) : CodePoints :=
  complement (union (complement s) (complement t))

/-- The characters in the first set but not in the second. -/
def sdiff (s t : CodePoints) : CodePoints :=
  inter s (complement t)

/-- The characters in exactly one of two sets. -/
def symmDiff (s t : CodePoints) : CodePoints :=
  union (sdiff s t) (sdiff t s)

def isAscii (s : CodePoints) : Bool :=
  s.all fun r => r.2 < 0x80

end CodePoints

end OutlineQuery.Text
