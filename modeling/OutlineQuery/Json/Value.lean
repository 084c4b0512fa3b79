import OutlineQuery.Number.Binary64

/-!
JSON values. Objects keep their entries in order and may repeat a key: whether that is allowed is
for the reader of a record to say.
-/
namespace OutlineQuery

inductive Json where
  | null
  | bool (b : Bool)
  /-- A number written with neither a point nor an exponent that fits in 64 bits. -/
  | int (i : Int)
  /-- Any other number. -/
  | double (x : Binary64)
  | str (s : String)
  | arr (items : List Json)
  | obj (entries : List (String × Json))
  /-- What has the form of a value but denotes none: a string with half of a surrogate pair, an
  object with such a key, or a number beyond the range of doubles. It can be skipped, not read. -/
  | garbled

namespace Json

def nat (n : Nat) : Json :=
  int n

/-- A number with a point. One that is not finite has no numeral and is written as null. -/
def number (x : Binary64) : Json :=
  if x.isFinite then double x else null

def strings (l : List String) : Json :=
  arr (l.map str)

mutual

/-- Whether a value denotes something throughout and nests at most so deep. -/
def isSound : Nat → Json → Bool
  | _, garbled => false
  | 0, arr _ => false
  | 0, obj _ => false
  | n + 1, arr items => allSound n items
  | n + 1, obj entries => entriesSound n entries
  | _, _ => true

def allSound : Nat → List Json → Bool
  | _, [] => true
  | n, item :: rest => isSound n item && allSound n rest

def entriesSound : Nat → List (String × Json) → Bool
  | _, [] => true
  | n, (_, value) :: rest => isSound n value && entriesSound n rest

end

end Json

end OutlineQuery
