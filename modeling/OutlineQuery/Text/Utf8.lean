import OutlineQuery.Text.CodePoints

/-!
Characters as bytes. A character takes one to four bytes, and a set of characters is a list of
sequences of byte ranges: a character is in the set exactly when its bytes lie, place by place, in
the ranges of one sequence.
-/
namespace OutlineQuery.Text.Utf8

def encode (n : Nat) : List Nat :=
  if n < 0x80 then [n]
  else if n < 0x800 then [0xC0 + n / 0x40, 0x80 + n % 0x40]
  else if n < 0x10000 then [0xE0 + n / 0x1000, 0x80 + n / 0x40 % 0x40, 0x80 + n % 0x40]
  else
    [0xF0 + n / 0x40000, 0x80 + n / 0x1000 % 0x40, 0x80 + n / 0x40 % 0x40, 0x80 + n % 0x40]

def width (n : Nat) : Nat :=
  (encode n).length

/-- The ranges of characters whose bytes have the same form, without the surrogates. -/
def forms : List (Nat × Nat) :=
  [(0, 0x7F), (0x80, 0x7FF), (0x800, 0xD7FF), (0xE000, 0xFFFF), (0x10000, 0x10FFFF)]

/-- How many characters share all but their last byte, all but their last two, and all but their
last three. -/
def blockSizes : List Nat := [0x40, 0x1000, 0x40000]

/-- Cuts a range into parts of which each is all characters between two in every byte. What does not
fill a block at either end is a part of its own; full blocks are cut by the next size. -/
def cut : List Nat → Nat → Nat → List (Nat × Nat)
  | [], lo, hi => [(lo, hi)]
  | size :: sizes, lo, hi =>
    if lo / size = hi / size then [(lo, hi)]
    else
      let first := (lo + size - 1) / size * size
      let stop := (hi + 1) / size * size
      (if lo < first then [(lo, first - 1)] else []) ++
        (if first < stop then cut sizes first (stop - 1) else []) ++
        (if stop ≤ hi then [(stop, hi)] else [])

/-- The sequences of the characters of one form from one to another. -/
def formSequences (lo hi : Nat) : List (List (Nat × Nat)) :=
  if hi < 0x80 then [[(lo, hi)]]
  else (cut blockSizes lo hi).map fun (a, b) => (encode a).zip (encode b)

/-- The sequences of a set, in the order of its characters. -/
def sequences (s : CodePoints) : List (List (Nat × Nat)) :=
  s.flatMap fun (lo, hi) => forms.flatMap fun (a, b) =>
    if max lo a ≤ min hi b then formSequences (max lo a) (min hi b) else []

end OutlineQuery.Text.Utf8
