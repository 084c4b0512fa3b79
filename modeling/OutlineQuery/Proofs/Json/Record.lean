import Mathlib.Data.List.Basic
import OutlineQuery.Request.Codec

/-!
Records that are written and read back. A record whose fields are apart, none going by a name of
another, reads back as the values that it was written with, in whatever order they were written; and
what is read from a list or a field is read from a value that stands in it.
-/
namespace OutlineQuery.Json

variable {α β : Type}

theorem exists_of_mapM {f : α → Option β} {l : List α} {r : List β} (h : l.mapM f = some r)
    {b : β} (hb : b ∈ r) : ∃ a ∈ l, f a = some b := by
  induction l generalizing r with
  | nil =>
    have hr : r = [] := by simpa using h.symm
    simp [hr] at hb
  | cons a l ih =>
    simp only [List.mapM_cons, Option.bind_eq_bind, Option.bind_eq_some_iff, Option.pure_def,
      Option.some.injEq] at h
    obtain ⟨first, hfirst, rest, hrest, rfl⟩ := h
    rcases List.mem_cons.1 hb with rfl | hmem
    · exact ⟨a, List.mem_cons_self, hfirst⟩
    · obtain ⟨a', ha', hf⟩ := ih hrest hmem
      exact ⟨a', List.mem_cons_of_mem _ ha', hf⟩

/-! ## Written values read back -/

theorem string?_str (s : String) : string? (str s) = some s :=
  rfl

theorem bool?_bool (b : Bool) : bool? (bool b) = some b :=
  rfl

theorem list?_nil (read : Json → Option α) : list? read (arr []) = some [] :=
  rfl

theorem list?_map {read : Json → Option α} {write : α → Json} {l : List α}
    (h : ∀ a ∈ l, read (write a) = some a) : list? read (arr (l.map write)) = some l := by
  unfold list?
  induction l with
  | nil => rfl
  | cons a l ih =>
    have hl := ih fun b hb => h b (List.mem_cons_of_mem _ hb)
    simp only [List.map_cons, List.mapM_cons, h a List.mem_cons_self, hl]
    rfl

theorem defaulted_some (default : α) (read : Json → Option α) (j : Json) :
    defaulted default read (some j) = read j := by
  rw [defaulted]

theorem optional_of_ne_null (read : Json → Option α) {j : Json} (h : j ≠ null) :
    optional read (some j) = (read j).map some := by
  cases j with
  | null => exact absurd rfl h
  | _ => rfl

/-- An optional value is read back unless it is written as null, which stands for none. -/
theorem optional_map {read : Json → Option α} {write : α → Json} {v : Option α}
    (h : ∀ a, v = some a → read (write a) = some a ∧ write a ≠ null) :
    optional read (v.map write) = some v := by
  cases v with
  | none => rfl
  | some a =>
    obtain ⟨hread, hnull⟩ := h a rfl
    rw [Option.map_some, optional_of_ne_null read hnull, hread]
    rfl

theorem optional_string? (v : Option String) : optional string? (v.map str) = some v :=
  optional_map fun _ _ => ⟨rfl, by simp⟩

theorem list?_strings (l : List String) : list? string? (strings l) = some l :=
  list?_map fun _ _ => rfl

/-! ## Where a value was read -/

theorem exists_of_optional {read : Json → Option α} {v : Option Json} {a : α}
    (h : optional read v = some (some a)) : ∃ j, v = some j ∧ read j = some a := by
  cases v with
  | none => simp [optional] at h
  | some j =>
    by_cases hnull : j = null
    · simp [optional, hnull] at h
    · rw [optional_of_ne_null read hnull] at h
      exact ⟨j, rfl, by simpa using h⟩

theorem exists_of_required {read : Json → Option α} {v : Option Json} {a : α}
    (h : required read v = some a) : ∃ j, v = some j ∧ read j = some a := by
  cases v with
  | none => simp [required] at h
  | some j => exact ⟨j, rfl, h⟩

theorem exists_of_field? {entries : List (String × Json)} {f : Field} {j : Json}
    (h : field? entries f = some (some j)) : ∃ key, (key, j) ∈ entries := by
  unfold field? at h
  split at h
  · simp at h
  · rename_i key value hfilter
    obtain rfl : value = j := by simpa using h
    have hmem : (key, value) ∈ entries.filter (f.accepts ·.1) := by simp [hfilter]
    exact ⟨key, List.mem_of_mem_filter hmem⟩
  · simp at h

/-! ## Written records -/

/-- Whether neither of two fields goes by the name of the other. -/
def Field.Apart (f g : Field) : Prop :=
  f.accepts g.name = false ∧ g.accepts f.name = false

instance (f g : Field) : Decidable (f.Apart g) :=
  inferInstanceAs (Decidable (_ ∧ _))

theorem Field.accepts_name (f : Field) : f.accepts f.name = true := by
  simp [accepts]

/-- The entries of a record that gives these fields these values, each under the field's name. -/
def written (values : List (Field × Option Json)) : List (String × Json) :=
  values.flatMap fun (f, v) => entry? f.name id v

theorem entry?_eq (key : String) (write : α → Json) (v : Option α) :
    entry? key write v = entry? key id (v.map write) := by
  cases v <;> rfl

theorem mem_written {values : List (Field × Option Json)} {key : String} {j : Json} :
    (key, j) ∈ written values ↔ ∃ f, (f, some j) ∈ values ∧ key = f.name := by
  simp only [written, List.mem_flatMap, Prod.exists]
  constructor
  · rintro ⟨f, v, hmem, hentry⟩
    cases v with
    | none => simp [Json.entry?] at hentry
    | some value =>
      obtain ⟨rfl, rfl⟩ : key = f.name ∧ j = value := by simpa [Json.entry?] using hentry
      exact ⟨f, hmem, rfl⟩
  · rintro ⟨f, hmem, rfl⟩
    exact ⟨f, some j, hmem, by simp [Json.entry?]⟩

/-- An entry goes to a field if the field answers to its key. -/
theorem filter_entry? (f g : Field) (v : Option Json) :
    (Json.entry? g.name id v).filter (f.accepts ·.1) =
      if f.accepts g.name then entry? g.name id v else [] := by
  cases v with
  | none => simp [Json.entry?]
  | some j => simp [Json.entry?, List.filter_cons]

theorem filter_written_of_not_accepts {f : Field} {values : List (Field × Option Json)}
    (h : ∀ p ∈ values, f.accepts p.1.name = false) :
    (written values).filter (f.accepts ·.1) = [] := by
  rw [List.filter_eq_nil_iff]
  rintro ⟨key, j⟩ hmem
  obtain ⟨g, hg, rfl⟩ := mem_written.1 hmem
  simp [h _ hg]

/-- What a record of fields that are apart was written with is what it gives to each of them. -/
theorem field?_written {values : List (Field × Option Json)}
    (hapart : (values.map (·.1)).Pairwise Field.Apart) {f : Field} {v : Option Json}
    (hmem : (f, v) ∈ values) : field? (written values) f = some v := by
  have hfilter : (written values).filter (f.accepts ·.1) = entry? f.name id v := by
    induction values with
    | nil => simp at hmem
    | cons p rest ih =>
      obtain ⟨hhead, htail⟩ := List.pairwise_cons.1 hapart
      have hsplit : written (p :: rest) = entry? p.1.name id p.2 ++ written rest := rfl
      rw [hsplit, List.filter_append, filter_entry?]
      rcases List.mem_cons.1 hmem with rfl | hrest
      · have hothers : ∀ q ∈ rest, f.accepts q.1.name = false := fun q hq =>
          (hhead q.1 (List.mem_map_of_mem hq)).1
        rw [filter_written_of_not_accepts hothers, if_pos f.accepts_name, List.append_nil]
      · have hother : f.accepts p.1.name = false := (hhead f (List.mem_map_of_mem hrest)).2
        rw [ih htail hrest, hother]
        rfl
  unfold field?
  rw [hfilter]
  cases v <;> rfl

/-- Fields that are apart are each found where they were written, whichever of them are asked
for. -/
theorem fields?_written {values selected : List (Field × Option Json)}
    (hapart : (values.map (·.1)).Pairwise Field.Apart) (hselected : selected ⊆ values) :
    fields? (selected.map (·.1)) (written values) = some (selected.map (·.2)) := by
  induction selected with
  | nil => rfl
  | cons p rest ih =>
    have hhead := field?_written hapart (hselected List.mem_cons_self)
    have htail := ih fun q hq => hselected (List.mem_cons_of_mem _ hq)
    unfold fields? at htail ⊢
    simp only [List.map_cons, List.mapM_cons, hhead, htail]
    rfl

/-- A record of fields that are apart is read back from what was written. -/
theorem record?_written {values : List (Field × Option Json)}
    (hapart : (values.map (·.1)).Pairwise Field.Apart) :
    record? (values.map (·.1)) (obj (written values)) = some (values.map (·.2)) :=
  fields?_written hapart (List.Subset.refl values)

/-! ## Sound values -/

theorem allSound_iff {n : Nat} {items : List Json} :
    allSound n items = true ↔ ∀ item ∈ items, isSound n item = true := by
  induction items with
  | nil => simp [allSound]
  | cons item rest ih => simp [allSound, ih]

theorem entriesSound_iff {n : Nat} {entries : List (String × Json)} :
    entriesSound n entries = true ↔ ∀ entry ∈ entries, isSound n entry.2 = true := by
  induction entries with
  | nil => simp [entriesSound]
  | cons entry rest ih => simp [entriesSound, ih]

theorem isSound_arr {n : Nat} {items : List Json} (h : ∀ item ∈ items, isSound n item = true) :
    isSound (n + 1) (arr items) = true := by
  rw [isSound]
  exact allSound_iff.2 h

/-- A record of sound values is sound, one level deeper. -/
theorem isSound_written {n : Nat} {values : List (Field × Option Json)}
    (h : ∀ p ∈ values, ∀ j ∈ p.2, isSound n j = true) :
    isSound (n + 1) (obj (written values)) = true := by
  rw [isSound]
  apply entriesSound_iff.2
  rintro ⟨key, j⟩ hmem
  obtain ⟨f, hf, -⟩ := mem_written.1 hmem
  exact h _ hf j rfl

@[simp] theorem isSound_str (n : Nat) (s : String) : isSound n (str s) = true := by
  cases n <;> rfl

@[simp] theorem isSound_bool (n : Nat) (b : Bool) : isSound n (bool b) = true := by
  cases n <;> rfl

@[simp] theorem isSound_number (n : Nat) (x : Binary64) : isSound n (number x) = true := by
  unfold number
  split <;> cases n <;> rfl

end OutlineQuery.Json
