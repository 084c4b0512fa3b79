import OutlineQuery.Json.Reader
import OutlineQuery.Proofs.Json.Record
import OutlineQuery.Proofs.Number.Range

/-!
The numbers in JSON values. Whatever a text holds, each of its integers fits in 64 bits and each of
its doubles is finite: a numeral beyond all doubles leaves no number behind.
-/
namespace OutlineQuery.Json

inductive InRange : Json → Prop
  | null : InRange null
  | bool (b : Bool) : InRange (bool b)
  | int {i : Int} (h : i.natAbs ≤ 2 ^ 64) : InRange (int i)
  | double {x : Binary64} (h : x.isFinite = true) : InRange (double x)
  | str (s : String) : InRange (str s)
  | arr {items : List Json} (h : ∀ item ∈ items, InRange item) : InRange (arr items)
  | obj {entries : List (String × Json)} (h : ∀ entry ∈ entries, InRange entry.2) :
      InRange (obj entries)
  | garbled : InRange garbled

/-- A double that is read from a value with numbers in range is finite. -/
theorem InRange.isFinite_of_binary64? {j : Json} {x : Binary64} (hj : j.InRange)
    (h : binary64? j = some x) : x.isFinite = true := by
  cases hj with
  | int hi => exact Option.some.inj h ▸ Binary64.isFinite_ofInt hi
  | double hx => exact Option.some.inj h ▸ hx
  | _ => simp [binary64?] at h

/-- The values of the fields of a record have their numbers in range if the record has. -/
theorem InRange.of_mem_record? {j : Json} {declared : List Field} {values : List (Option Json)}
    (hj : j.InRange) (h : j.record? declared = some values) {value : Json}
    (hmem : some value ∈ values) : value.InRange := by
  cases hj with
  | arr hitems =>
    simp only [record?] at h
    split at h
    · obtain rfl := Option.some.inj h
      exact hitems value (by simpa using hmem)
    · simp at h
  | obj hentries =>
    obtain ⟨f, -, hfield⟩ := exists_of_mapM h hmem
    obtain ⟨key, hkey⟩ := exists_of_field? hfield
    exact hentries _ hkey
  | _ => simp [record?] at h

/-- What holds of all that is read from values in range holds of the items of a list. -/
theorem InRange.forall_of_list? {α : Type} {P : α → Prop} {read : Json → Option α} {j : Json}
    {l : List α} (hj : j.InRange) (h : list? read j = some l)
    (hread : ∀ item a, item.InRange → read item = some a → P a) : ∀ a ∈ l, P a := by
  intro a ha
  cases hj with
  | arr hitems =>
    obtain ⟨item, hmem, heq⟩ := exists_of_mapM h ha
    exact hread item a (hitems item hmem) heq
  | _ => simp [list?] at h

theorem InRange.written {values : List (Field × Option Json)}
    (h : ∀ p ∈ values, ∀ j ∈ p.2, j.InRange) : (Json.obj (Json.written values)).InRange := by
  apply InRange.obj
  rintro ⟨key, j⟩ hmem
  obtain ⟨f, hf, -⟩ := mem_written.1 hmem
  exact h _ hf j rfl

/-- A number that is not finite is written as null, so every written number is in range. -/
theorem number_inRange (x : Binary64) : (number x).InRange := by
  unfold number
  split
  · rename_i hfinite
    exact .double hfinite
  · exact .null

/-- A numeral beyond all doubles is garbled and no number. -/
theorem ofNumeral_inRange (n : Numeral) : (ofNumeral n).InRange := by
  unfold ofNumeral
  split
  · rename_i i hi
    exact .int (Numeral.natAbs_le_of_integer? hi)
  · cases hdouble : n.double? with
    | none => exact .garbled
    | some x => exact .double (Numeral.isFinite_of_double? hdouble)

theorem readNumber_inRange {negative : Bool} {cs rest : List Char} {j : Json}
    (h : readNumber negative cs = some (j, rest)) : j.InRange := by
  simp only [readNumber, Option.bind_eq_bind, Option.bind_eq_some_iff, Option.pure_def,
    Option.some.injEq, Prod.mk.injEq] at h
  obtain ⟨whole, -, fraction, -, exponent, -, rfl, -⟩ := h
  exact ofNumeral_inRange _

theorem readWord_inRange {word : String} {value j : Json} {cs rest : List Char}
    (hvalue : value.InRange) (h : readWord word value cs = some (j, rest)) : j.InRange := by
  unfold readWord at h
  split at h
  · exact (Prod.mk.inj (Option.some.inj h)).1 ▸ hvalue
  · simp at h

theorem ofEntries_inRange {entries : List (Option String × Json)}
    (h : ∀ entry ∈ entries, entry.2.InRange) : (ofEntries entries).InRange := by
  unfold ofEntries
  split
  · rename_i named hnamed
    apply InRange.obj
    intro entry hentry
    obtain ⟨original, horiginal, hkey⟩ := exists_of_mapM hnamed hentry
    obtain ⟨key, -, rfl⟩ := Option.map_eq_some_iff.1 hkey
    exact h original horiginal
  · exact .garbled

/-- What the three readers give with some fuel is in range. -/
structure ReadsInRange (fuel : Nat) : Prop where
  value {cs rest : List Char} {j : Json} (h : readValue fuel cs = some (j, rest)) : j.InRange
  items {cs rest : List Char} {items : List Json} (h : readItems fuel cs = some (items, rest)) :
    ∀ item ∈ items, item.InRange
  entries {cs rest : List Char} {entries : List (Option String × Json)}
    (h : readEntries fuel cs = some (entries, rest)) : ∀ entry ∈ entries, entry.2.InRange

namespace ReadsInRange

variable {fuel : Nat} {cs rest : List Char}

/-- A value is read in range if its parts are, which are read with less fuel. -/
theorem value_succ (ih : ReadsInRange fuel) {j : Json}
    (h : readValue (fuel + 1) cs = some (j, rest)) : j.InRange := by
  unfold readValue at h
  split at h
  · simp at h
  · obtain ⟨⟨s, after⟩, -, heq⟩ := Option.map_eq_some_iff.1 h
    obtain ⟨rfl, -⟩ := Prod.mk.inj heq
    cases s with
    | none => exact .garbled
    | some s => exact .str s
  · split at h
    · exact (Prod.mk.inj (Option.some.inj h)).1 ▸ .arr (by simp)
    · obtain ⟨⟨items, after⟩, hitems, heq⟩ := Option.map_eq_some_iff.1 h
      exact (Prod.mk.inj heq).1 ▸ .arr (ih.items hitems)
  · split at h
    · exact (Prod.mk.inj (Option.some.inj h)).1 ▸ .obj (by simp)
    · obtain ⟨⟨entries, after⟩, hentries, heq⟩ := Option.map_eq_some_iff.1 h
      exact (Prod.mk.inj heq).1 ▸ ofEntries_inRange (ih.entries hentries)
  · exact readNumber_inRange h
  · exact readWord_inRange .null h
  · exact readWord_inRange (.bool true) h
  · exact readWord_inRange (.bool false) h
  · exact readNumber_inRange h

theorem items_succ (ih : ReadsInRange fuel) {items : List Json}
    (h : readItems (fuel + 1) cs = some (items, rest)) : ∀ item ∈ items, item.InRange := by
  unfold readItems at h
  split at h
  · simp at h
  · rename_i first after hfirst
    have hrange := ih.value hfirst
    split at h
    · obtain ⟨⟨others, after⟩, hothers, heq⟩ := Option.map_eq_some_iff.1 h
      obtain ⟨rfl, -⟩ := Prod.mk.inj heq
      exact List.forall_mem_cons.2 ⟨hrange, ih.items hothers⟩
    · obtain ⟨rfl, -⟩ := Prod.mk.inj (Option.some.inj h)
      exact List.forall_mem_singleton.2 hrange
    · simp at h

theorem entries_succ (ih : ReadsInRange fuel) {entries : List (Option String × Json)}
    (h : readEntries (fuel + 1) cs = some (entries, rest)) :
    ∀ entry ∈ entries, entry.2.InRange := by
  unfold readEntries at h
  split at h
  · split at h
    · simp at h
    split at h
    · split at h
      · simp at h
      rename_i value after hvalue
      have hrange := ih.value hvalue
      split at h
      · obtain ⟨⟨others, after⟩, hothers, heq⟩ := Option.map_eq_some_iff.1 h
        obtain ⟨rfl, -⟩ := Prod.mk.inj heq
        exact List.forall_mem_cons.2 ⟨hrange, ih.entries hothers⟩
      · obtain ⟨rfl, -⟩ := Prod.mk.inj (Option.some.inj h)
        exact List.forall_mem_singleton.2 hrange
      · simp at h
    · simp at h
  · simp at h

end ReadsInRange

/-- The three readers go down together, one level of fuel at a time. -/
theorem readsInRange (fuel : Nat) : ReadsInRange fuel := by
  induction fuel with
  | zero =>
    constructor
    · intro cs rest j h
      simp [readValue] at h
    · intro cs rest items h
      simp [readItems] at h
    · intro cs rest entries h
      simp [readEntries] at h
  | succ fuel ih => exact ⟨ih.value_succ, ih.items_succ, ih.entries_succ⟩

/-- Whatever text a value is read from, its numbers are in range. -/
theorem parse?_inRange {text : String} {j : Json} (h : parse? text = some j) : j.InRange := by
  unfold parse? at h
  dsimp only at h
  split at h
  · rename_i value rest hvalue
    split at h
    · exact Option.some.inj h ▸ (readsInRange _).value hvalue
    · simp at h
  · simp at h

end OutlineQuery.Json
