import OutlineQuery.Text.Lowercase

/-!
Matching without regard to case. Two characters differ in case only if they fold to the same one; a
set of characters is closed by adding all that differ from a member in case only.
-/
namespace OutlineQuery.Regex

open OutlineQuery.Text (CodePoints casePairs)

/-- Variants of lowercase letters, with the letters. -/
def letterVariants : List (Nat × Nat) :=
  [(0xB5, 0x3BC), (0x17F, 0x73), (0x345, 0x3B9), (0x3C2, 0x3C3), (0x3D0, 0x3B2), (0x3D1, 0x3B8),
   (0x3D5, 0x3C6), (0x3D6, 0x3C0), (0x3F0, 0x3BA), (0x3F1, 0x3C1), (0x3F5, 0x3B5),
   (0x1C80, 0x432), (0x1C81, 0x434), (0x1C82, 0x43E), (0x1C83, 0x441), (0x1C84, 0x442),
   (0x1C85, 0x442), (0x1C86, 0x44A), (0x1C87, 0x463), (0x1C88, 0xA64B), (0x1E9B, 0x1E61),
   (0x1FBE, 0x3B9), (0x1FD3, 0x390), (0x1FE3, 0x3B0), (0xFB05, 0xFB06)]

/-- The characters that fold to another one, which folds to itself. -/
def foldings : List (Nat × Nat) :=
  casePairs ++ letterVariants

def asciiFoldings : List (Nat × Nat) :=
  (List.range 26).map fun i => (0x41 + i, 0x61 + i)

/-- Adds the foldings of the members of a set, then all that fold to a member. -/
def closeUnder (pairs : List (Nat × Nat)) (s : CodePoints) : CodePoints :=
  let folded := s.union (.ofPoints (pairs.filterMap fun (c, f) => if s.contains c then some f else none))
  folded.union (.ofPoints (pairs.filterMap fun (c, f) => if folded.contains f then some c else none))

end OutlineQuery.Regex
