/-!
Finite sets of strings in code point order. The order is part of the type, so a set has one list of
elements and one way to be written.
-/
namespace OutlineQuery.Text

/-- A finite set of strings, kept as its strictly ascending list of elements. -/
structure StringSet where
  toList : List String
  ascending : toList.Pairwise (· < ·)
deriving DecidableEq

namespace StringSet

/-- Puts a string at its place in an ascending list, unless the list already has it. -/
def insertSorted (s : String) : List String → List String
  | [] => [s]
  | t :: rest =>
    if s < t then s :: t :: rest
    else if t < s then t :: insertSorted s rest
    else t :: rest

/-- The string is added and none is lost. -/
theorem mem_insertSorted {s x : String} {l : List String} :
    x ∈ insertSorted s l ↔ x = s ∨ x ∈ l := by
  induction l with
  | nil => simp [insertSorted]
  | cons t rest ih =>
    unfold insertSorted
    split
    · simp
    · split
      · simp [ih, or_left_comm]
      · have : s = t := String.le_antisymm (String.not_lt.1 ‹_›) (String.not_lt.1 ‹_›)
        simp [this]

/-- A list in strictly ascending order stays so. -/
theorem pairwise_insertSorted {s : String} {l : List String} (h : l.Pairwise (· < ·)) :
    (insertSorted s l).Pairwise (· < ·) := by
  induction l with
  | nil => simp [insertSorted]
  | cons t rest ih =>
    obtain ⟨hlt, hrest⟩ := List.pairwise_cons.1 h
    unfold insertSorted
    split
    · rename_i hs
      refine List.pairwise_cons.2 ⟨fun x hx => ?_, h⟩
      rcases List.mem_cons.1 hx with rfl | hx
      · exact hs
      · exact String.lt_trans hs (hlt x hx)
    · split
      · rename_i hs
        refine List.pairwise_cons.2 ⟨fun x hx => ?_, ih hrest⟩
        rcases mem_insertSorted.1 hx with rfl | hx
        · exact hs
        · exact hlt x hx
      · exact h

def empty : StringSet := ⟨[], List.Pairwise.nil⟩

def insert (set : StringSet) (s : String) : StringSet :=
  ⟨insertSorted s set.toList, pairwise_insertSorted set.ascending⟩

def ofList (l : List String) : StringSet :=
  l.foldr (fun s set => set.insert s) empty

instance : Membership String StringSet where
  mem set s := s ∈ set.toList

@[simp] theorem mem_toList {set : StringSet} {s : String} : s ∈ set.toList ↔ s ∈ set :=
  Iff.rfl

@[simp] theorem mem_insert {set : StringSet} {s x : String} : x ∈ set.insert s ↔ x = s ∨ x ∈ set :=
  mem_insertSorted

@[simp] theorem mem_ofList {l : List String} {x : String} : x ∈ ofList l ↔ x ∈ l := by
  induction l with
  | nil => exact Iff.rfl
  | cons s rest ih =>
    change x ∈ (ofList rest).insert s ↔ _
    simp [ih]

end StringSet

end OutlineQuery.Text
