import Mathlib.Data.List.Forall2
import Mathlib.Data.List.Nodup
import Mathlib.Data.List.Pairwise
import OutlineQuery.Proofs.Json.Record

/-!
How much the reading of a record sees of the way it is presented. A field is read off the values
that an object gives to it under any of its names, so neither the order of the entries, nor which of
its names a field goes by, nor a key that names no field makes a difference. A record with a place
for the value of one field gives all its other fields what it gives them whatever stands there.
-/
namespace OutlineQuery.Json

/-! ## Lists side by side -/

section Split

variable {α β : Type} {R : α → β → Prop} {a : α} {b : β} {l r : List α} {u : List β}

/-- The item in the middle of one list stands beside one in the middle of the other. -/
theorem exists_of_forall₂_append_cons {t : List β} (h : List.Forall₂ R (l ++ a :: r) t) :
    ∃ u b w, t = u ++ b :: w ∧ List.Forall₂ R l u ∧ R a b ∧ List.Forall₂ R r w := by
  induction l generalizing t with
  | nil =>
    obtain ⟨b, w, hab, hr, rfl⟩ := List.forall₂_cons_left_iff.1 h
    exact ⟨[], b, w, rfl, .nil, hab, hr⟩
  | cons c l ih =>
    obtain ⟨d, t, hcd, hrest, rfl⟩ := List.forall₂_cons_left_iff.1 h
    obtain ⟨u, b, w, rfl, hl, hab, hr⟩ := ih hrest
    exact ⟨d :: u, b, w, rfl, .cons hcd hl, hab, hr⟩

theorem exists_of_forall₂_of_mem (h : List.Forall₂ R l u) (hb : b ∈ u) : ∃ a ∈ l, R a b := by
  induction h with
  | nil => cases hb
  | @cons a _ l _ hab _ ih =>
    rcases List.mem_cons.1 hb with rfl | hb
    · exact ⟨a, List.mem_cons_self, hab⟩
    · obtain ⟨c, hc, hcb⟩ := ih hb
      exact ⟨c, List.mem_cons_of_mem a hc, hcb⟩

end Split

/-! ## The values given to a field -/

/-- The values that an object gives to a field, under any of its names. -/
def given (entries : List (String × Json)) (f : Field) : List Json :=
  (entries.filter (f.accepts ·.1)).map (·.2)

section Given

variable {f : Field} {entries entries' before after : List (String × Json)} {key : String} {v : Json}

theorem given_append : given (before ++ after) f = given before f ++ given after f := by
  simp [given]

theorem given_cons_of_accepts (h : f.accepts key = true) :
    given ((key, v) :: entries) f = v :: given entries f := by
  simp [given, h]

theorem given_cons_of_not_accepts (h : f.accepts key = false) :
    given ((key, v) :: entries) f = given entries f := by
  simp [given, h]

theorem mem_of_mem_given (h : v ∈ given entries f) : ∃ key, (key, v) ∈ entries := by
  obtain ⟨⟨key, value⟩, hmem, rfl⟩ := List.mem_map.1 h
  exact ⟨key, List.mem_of_mem_filter hmem⟩

/-- A field can be read exactly if it is given at most once. -/
theorem field?_eq_some_iff {slot : Option Json} :
    field? entries f = some slot ↔ given entries f = slot.toList := by
  unfold field? given
  cases entries.filter (f.accepts ·.1) with
  | nil => cases slot <;> simp
  | cons first rest =>
    cases rest with
    | nil => cases slot <;> simp
    | cons second rest => cases slot <;> simp

theorem field?_congr (h : given entries f = given entries' f) :
    field? entries f = field? entries' f := by
  ext slot
  rw [field?_eq_some_iff, field?_eq_some_iff, h]

/-- The order of entries does not matter to a field, as it takes no more than one of them. -/
theorem field?_perm (h : entries.Perm entries') : field? entries f = field? entries' f := by
  have hgiven : (given entries f).Perm (given entries' f) := (h.filter _).map _
  ext slot
  rw [field?_eq_some_iff, field?_eq_some_iff]
  cases slot with
  | none =>
    refine ⟨fun h => ?_, fun h => ?_⟩ <;> rw [h] at hgiven
    · exact hgiven.nil_eq.symm
    · exact hgiven.eq_nil
  | some v =>
    refine ⟨fun h => ?_, fun h => ?_⟩ <;> rw [h] at hgiven
    · exact List.perm_singleton.1 hgiven.symm
    · exact List.perm_singleton.1 hgiven

end Given

/-! ## Fields that no key names both of -/

namespace Field

def names (f : Field) : List String :=
  f.name :: f.aliases

def Disjoint (f g : Field) : Prop :=
  ∀ key ∈ f.names, g.accepts key = false

instance (f g : Field) : Decidable (f.Disjoint g) :=
  inferInstanceAs (Decidable (∀ key ∈ f.names, g.accepts key = false))

variable {f g : Field} {key : String}

theorem accepts_iff_mem_names : f.accepts key = true ↔ key ∈ f.names := by
  simp [accepts, names]

theorem Disjoint.not_accepts (h : f.Disjoint g) (hkey : f.accepts key = true) :
    g.accepts key = false :=
  h key (accepts_iff_mem_names.1 hkey)

theorem Disjoint.ne (h : f.Disjoint g) : f ≠ g := by
  rintro rfl
  have hname := h.not_accepts f.accepts_name
  rw [f.accepts_name] at hname
  cases hname

theorem nodup_of_disjoint {declared : List Field} (h : declared.Pairwise Disjoint) :
    declared.Nodup :=
  h.imp Disjoint.ne

instance : Std.Symm Disjoint where
  symm f g h key hkey := by
    by_contra hf
    have hg := h.not_accepts (Bool.not_eq_false _ ▸ hf)
    rw [accepts_iff_mem_names.2 hkey] at hg
    cases hg

/-- Of disjoint fields a key names one at most. -/
theorem eq_of_accepts {declared : List Field} (hdisjoint : declared.Pairwise Disjoint)
    (hf : f ∈ declared) (hg : g ∈ declared) (hkey : f.accepts key = true)
    (hkey' : g.accepts key = true) : f = g := by
  by_contra hne
  have hnot := (hdisjoint.forall hf hg hne).not_accepts hkey
  rw [hkey'] at hnot
  cases hnot

end Field

/-! ## Objects that give the same -/

section Objects

variable {declared : List Field} {f : Field} {entries entries' before after : List (String × Json)}
  {key key' : String} {v : Json} {slots : List (Option Json)}

theorem fields?_congr (h : ∀ f ∈ declared, field? entries f = field? entries' f) :
    fields? declared entries = fields? declared entries' := by
  unfold fields?
  induction declared with
  | nil => rfl
  | cons f rest ih =>
    rw [List.mapM_cons, List.mapM_cons, h f List.mem_cons_self,
      ih fun g hg => h g (List.mem_cons_of_mem f hg)]

/-- Fields are read if none of them is given twice. -/
theorem fields?_eq_some_iff : fields? declared entries = some slots ↔
    List.Forall₂ (fun f slot => given entries f = slot.toList) declared slots := by
  unfold fields?
  induction declared generalizing slots with
  | nil => simp [eq_comm]
  | cons f rest ih =>
    simp only [List.mapM_cons, Option.bind_eq_bind, Option.bind_eq_some_iff, Option.pure_def,
      Option.some.injEq, List.forall₂_cons_left_iff, field?_eq_some_iff, ih]
    constructor
    · rintro ⟨slot, hslot, others, hothers, rfl⟩
      exact ⟨slot, others, hslot, hothers, rfl⟩
    · rintro ⟨slot, others, hslot, hothers, rfl⟩
      exact ⟨slot, hslot, others, hothers, rfl⟩

theorem record?_perm (h : entries.Perm entries') :
    record? declared (obj entries) = record? declared (obj entries') :=
  fields?_congr fun _ _ => field?_perm h

/-- A key that names no field is not seen. -/
theorem record?_undeclared (h : ∀ f ∈ declared, f.accepts key = false) :
    record? declared (obj (before ++ (key, v) :: after)) =
      record? declared (obj (before ++ after)) := by
  refine fields?_congr fun f hf => field?_congr ?_
  rw [given_append, given_cons_of_not_accepts (h f hf), given_append]

/-- It is not seen which of its names a field goes by. -/
theorem record?_renamed (hdisjoint : declared.Pairwise Field.Disjoint) (hf : f ∈ declared)
    (hkey : f.accepts key = true) (hkey' : f.accepts key' = true) :
    record? declared (obj (before ++ (key, v) :: after)) =
      record? declared (obj (before ++ (key', v) :: after)) := by
  refine fields?_congr fun g hg => field?_congr ?_
  by_cases heq : f = g
  · rw [← heq, given_append, given_append, given_cons_of_accepts hkey, given_cons_of_accepts hkey']
  · have hother : f.Disjoint g := hdisjoint.forall hf hg heq
    rw [given_append, given_append, given_cons_of_not_accepts (hother.not_accepts hkey),
      given_cons_of_not_accepts (hother.not_accepts hkey')]

/-- A field that is given twice, under whatever names, makes the object unreadable. -/
theorem record?_twice (hf : f ∈ declared) {between : List (String × Json)} {v' : Json}
    (hkey : f.accepts key = true) (hkey' : f.accepts key' = true) :
    record? declared (obj (before ++ (key, v) :: (between ++ (key', v') :: after))) = none := by
  rw [Option.eq_none_iff_forall_ne_some]
  intro slots hslots
  obtain ⟨left, right, rfl⟩ := List.append_of_mem hf
  obtain ⟨-, slot, -, -, -, hslot, -⟩ :=
    exists_of_forall₂_append_cons (fields?_eq_some_iff.1 hslots)
  rw [given_append, given_cons_of_accepts hkey, given_append, given_cons_of_accepts hkey'] at hslot
  have hlength := congrArg List.length hslot
  cases slot <;> simp at hlength
  omega

/-- The place that a field has among those read from an object. If another object gives the same to
all other fields, then what is read from it differs in that place only. -/
theorem exists_place (hdisjoint : declared.Pairwise Field.Disjoint) (hf : f ∈ declared)
    (h : record? declared (obj entries) = some slots) :
    ∃ left slot right, declared[left.length]? = some f ∧ slots = left ++ slot :: right ∧
      given entries f = slot.toList ∧
      ∀ entries' slot', (∀ g ∈ declared, g ≠ f → given entries' g = given entries g) →
        given entries' f = slot'.toList →
        record? declared (obj entries') = some (left ++ slot' :: right) := by
  obtain ⟨before, after, rfl⟩ := List.append_of_mem hf
  obtain ⟨left, slot, right, rfl, hleft, hslot, hright⟩ :=
    exists_of_forall₂_append_cons (fields?_eq_some_iff.1 h)
  refine ⟨left, slot, right, by simp [← hleft.length_eq], rfl, hslot, ?_⟩
  intro entries' slot' hothers hslot'
  have hnot : f ∉ before ++ after :=
    (List.nodup_cons.1 (List.nodup_middle.1 (Field.nodup_of_disjoint hdisjoint))).1
  have hsame : ∀ g ∈ before ++ after, given entries' g = given entries g := by
    intro g hg
    apply hothers g
    · simp only [List.mem_append, List.mem_cons] at hg ⊢
      tauto
    · rintro rfl
      exact hnot hg
  -- The other fields are given what they were given, so their slots stay.
  have hkeep {part : List Field} {slots : List (Option Json)} (hpart : part ⊆ before ++ after)
      (h : List.Forall₂ (fun g slot => given entries g = slot.toList) part slots) :
      List.Forall₂ (fun g slot => given entries' g = slot.toList) part slots := by
    have hboth := (List.forall₂_and_left _ _).2 ⟨fun g hg => hsame g (hpart hg), h⟩
    exact hboth.imp fun g slot hg => hg.1.trans hg.2
  exact fields?_eq_some_iff.2 (List.rel_append
    (hkeep (List.subset_append_left before after) hleft)
    (.cons hslot' (hkeep (List.subset_append_right before after) hright)))

end Objects

/-! ## Records with a place for a value -/

/-- A record with a place for the value of a field: an object with a key of the field, or an array
with an item where the field is. -/
inductive Frame (declared : List Field) (f : Field) : (Json → Json) → Prop
  | entry {before after : List (String × Json)} {key : String} (hkey : f.accepts key = true) :
      Frame declared f fun v => obj (before ++ (key, v) :: after)
  | item {before after : List Json} (hplace : declared[before.length]? = some f) :
      Frame declared f fun v => arr (before ++ v :: after)

section Frames

variable {declared : List Field} {f : Field} {D : Json → Json} {v : Json}
  {slots : List (Option Json)}

theorem Frame.ne_null (hD : Frame declared f D) (v : Json) : D v ≠ null := by
  cases hD <;> simp

/-- What a record with a place gives to the other fields does not depend on what stands there. -/
theorem Frame.exists_place (hD : Frame declared f D) (hdisjoint : declared.Pairwise Field.Disjoint)
    (hf : f ∈ declared) (h : record? declared (D v) = some slots) :
    ∃ left right, declared[left.length]? = some f ∧ slots = left ++ some v :: right ∧
      ∀ w, record? declared (D w) = some (left ++ some w :: right) := by
  cases hD with
  | @entry before after key hkey =>
    have hself (w : Json) : given (before ++ (key, w) :: after) f =
        given before f ++ w :: given after f := by
      rw [given_append, given_cons_of_accepts hkey]
    have hothers (w : Json) : ∀ g ∈ declared, g ≠ f →
        given (before ++ (key, w) :: after) g = given (before ++ (key, v) :: after) g := by
      intro g hg hne
      have hnot := (hdisjoint.forall hf hg hne.symm).not_accepts hkey
      rw [given_append, given_append, given_cons_of_not_accepts hnot, given_cons_of_not_accepts hnot]
    obtain ⟨left, slot, right, hplace, rfl, hslot, hread⟩ := Json.exists_place hdisjoint hf h
    rw [hself] at hslot
    -- The field is given once, so there is nothing for it on either side.
    obtain ⟨hbefore, rfl, hafter⟩ : given before f = [] ∧ slot = some v ∧ given after f = [] := by
      cases slot with
      | none => simp at hslot
      | some j =>
        cases hbefore : given before f <;> simp [hbefore] at hslot ⊢
        simp [hslot]
    refine ⟨left, right, hplace, rfl, fun w => hread _ (some w) (hothers w) ?_⟩
    rw [hself, hbefore, hafter]
    rfl
  | @item before after hplace =>
    simp only [record?] at h ⊢
    have hlength (w : Json) : (before ++ w :: after).length = (before ++ v :: after).length := by simp
    split at h
    · rename_i hle
      obtain rfl := Option.some.inj h
      refine ⟨before.map some, after.map some ++
        List.replicate (declared.length - (before ++ v :: after).length) none, by simpa using hplace,
        by simp, fun w => ?_⟩
      rw [hlength w, if_pos hle]
      simp
    · cases h

/-- A list is read item by item, and one item may be another that reads the same. -/
theorem exists_read_of_list? {α : Type} {read : Json → Option α} {before after : List Json}
    {xs : List α} (h : list? read (arr (before ++ v :: after)) = some xs) :
    ∃ x, read v = some x ∧
      ∀ w, read w = some x → list? read (arr (before ++ w :: after)) = some xs := by
  simp only [list?, List.mapM_append, List.mapM_cons, Option.bind_eq_bind, Option.bind_eq_some_iff,
    Option.pure_def, Option.some.injEq] at h ⊢
  obtain ⟨left, hleft, right, ⟨x, hx, rest, hrest, rfl⟩, rfl⟩ := h
  exact ⟨x, hx, fun w hw => ⟨left, hleft, x :: rest, ⟨x, hw, rest, hrest, rfl⟩, rfl⟩⟩

end Frames

/-! ## Sound values -/

section Sound

variable {n : Nat} {v : Json}

/-- An entry makes a record unsound if its value is too deep. -/
theorem isSound_obj_insert {before after : List (String × Json)} {key : String} :
    isSound (n + 1) (obj (before ++ (key, v) :: after)) =
      (isSound (n + 1) (obj (before ++ after)) && isSound n v) := by
  rw [Bool.eq_iff_iff]
  simp only [Bool.and_eq_true, isSound, entriesSound_iff, List.forall_mem_append,
    List.forall_mem_cons]
  tauto

theorem isSound_arr_insert {before after : List Json} :
    isSound (n + 1) (arr (before ++ v :: after)) =
      (isSound (n + 1) (arr (before ++ after)) && isSound n v) := by
  rw [Bool.eq_iff_iff]
  simp only [Bool.and_eq_true, isSound, allSound_iff, List.forall_mem_append, List.forall_mem_cons]
  tauto

/-- A record with a place is sound if it is without and what stands there is, one level deeper. -/
theorem Frame.isSound {declared : List Field} {f : Field} {D : Json → Json}
    (hD : Frame declared f D) (n : Nat) :
    ∃ others, ∀ v, (D v).isSound (n + 1) = (others && v.isSound n) := by
  cases hD with
  | entry => exact ⟨_, fun v => isSound_obj_insert⟩
  | item => exact ⟨_, fun v => isSound_arr_insert⟩

end Sound

end OutlineQuery.Json
