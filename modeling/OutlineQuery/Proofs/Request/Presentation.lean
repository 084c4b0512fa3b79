import OutlineQuery.Proofs.Request.Records

/-!
Requests that are presented in different ways. At any record of a request the entries may change
places, a field may go by another of its names, an absent optional field may be null, keys that name
no field may be added, and below the request itself the record may be the array of its fields: what
is read stays the same. Only an added value can spoil a request, and only where it would be kept
whole and cannot be. A field that is given twice always does.
-/
namespace OutlineQuery

open Json (Field Frame given list?)

namespace Record

/-! ## Changes of presentation -/

/-- Whether an item stands for a field of an object: it is what the object gives to the field, or
says the same as giving it nothing. -/
def Shows (entries : List (String × Json)) (member : Field × Role) (item : Json) : Prop :=
  given entries member.1 = [item] ∨ given entries member.1 = [] ∧ member.2.absent = some item

inductive Recast (r : Record) : Json → Json → Prop
  /-- The entries in another order. -/
  | reordered {entries entries' : List (String × Json)} (h : entries.Perm entries') :
      Recast r (.obj entries) (.obj entries')
  /-- A field under another of its names. -/
  | renamed {before after : List (String × Json)} {f : Field} {key key' : String} {v : Json}
      (hf : f ∈ r.fields) (hkey : f.accepts key = true) (hkey' : f.accepts key' = true) :
      Recast r (.obj (before ++ (key, v) :: after)) (.obj (before ++ (key', v) :: after))
  /-- An absent field that is null. -/
  | nulled {before after : List (String × Json)} {f : Field} {role : Role} {key : String}
      (hmember : (f, role) ∈ r.members) (hrole : role.absent = some .null)
      (hkey : f.accepts key = true) (habsent : given (before ++ after) f = []) :
      Recast r (.obj (before ++ after)) (.obj (before ++ (key, .null) :: after))
  /-- The array of all fields in the order of declaration. -/
  | listed {entries : List (String × Json)} {items : List Json} (hr : r ≠ request)
      (h : List.Forall₂ (Shows entries) r.members items) : Recast r (.obj entries) (.arr items)

namespace Recast

variable {r : Record} {j k : Json}

theorem ne_null (h : r.Recast j k) : j ≠ .null ∧ k ≠ .null := by
  cases h <;> simp

end Recast

variable {r : Record} {x : r.Value}

/-- The demand on a field is met by what stands in its place, and anything else that meets it may
stand there as well. -/
theorem exists_demand {f : Field} {role : Role} {left right : List (Option Json)}
    {slot : Option Json} (hmember : (f, role) ∈ r.members)
    (hplace : r.fields[left.length]? = some f)
    (hmet : List.Forall₂ Demand.Met (r.demands x) (left ++ slot :: right)) :
    ∃ d : Demand, d.role = role ∧ d.Met slot ∧
      ∀ slot', d.Met slot' → List.Forall₂ Demand.Met (r.demands x) (left ++ slot' :: right) := by
  have hflip : List.Forall₂ (flip Demand.Met) (left ++ slot :: right) (r.demands x) := hmet.flip
  obtain ⟨ds, d, ds', hsplit, hleft, hd, hright⟩ := Json.exists_of_forall₂_append_cons hflip
  refine ⟨d, ?_, hd, fun slot' hd' => ?_⟩
  · have hrole := roles_getElem? hmember hplace
    rw [← r.map_role_demands x, hsplit, hleft.length_eq] at hrole
    simpa using hrole
  · rw [hsplit]
    exact List.rel_append hleft.flip (.cons hd' hright.flip)

/-- A record with a place for a field reads as a value if what stands there is what is demanded. -/
theorem exists_demand_of_frame {f : Field} {role : Role} {D : Json → Json} {v : Json}
    (hD : Frame r.fields f D) (hmember : (f, role) ∈ r.members) (h : r.read (D v) = some x) :
    ∃ d : Demand, d.role = role ∧ d.Met (some v) ∧
      ∀ w, d.Met (some w) → r.keeps (D w) = true → r.read (D w) = some x := by
  obtain ⟨-, slots, hrecord, hmet⟩ := read_eq_some_iff.1 h
  obtain ⟨left, right, hplace, rfl, hothers⟩ :=
    hD.exists_place r.fields_disjoint (List.of_mem_zip hmember).1 hrecord
  obtain ⟨d, hrole, hd, hread⟩ := exists_demand hmember hplace hmet
  exact ⟨d, hrole, hd, fun w hw hkeeps =>
    read_eq_some_iff.2 ⟨hkeeps, _, hothers w, hread (some w) hw⟩⟩

theorem Meets.of_record?_eq {j k : Json} (h : r.Meets j x)
    (heq : j.record? r.fields = k.record? r.fields) : r.Meets k x := by
  obtain ⟨slots, hrecord, hmet⟩ := h
  exact ⟨slots, heq ▸ hrecord, hmet⟩

/-- The items that show what an object gives meet what the object meets. -/
theorem met_of_shows {entries : List (String × Json)} {fields : List Field} {ds : List Demand}
    {slots : List (Option Json)} {items : List Json}
    (hgiven : List.Forall₂ (fun f slot => given entries f = slot.toList) fields slots)
    (hmet : List.Forall₂ Demand.Met ds slots)
    (hshows : List.Forall₂ (Shows entries) (fields.zip (ds.map (·.role))) items) :
    List.Forall₂ Demand.Met ds (items.map some) := by
  induction hmet generalizing fields items with
  | nil =>
    cases hgiven
    cases hshows
    exact .nil
  | @cons d slot ds slots hd _ ih =>
    cases hgiven with
    | cons hslot hgiven =>
      cases hshows with
      | cons hshow hshows =>
        refine .cons ?_ (ih hgiven hshows)
        simp only [Shows, hslot] at hshow
        cases slot with
        | none => exact d.of_absent (by simpa using hshow) hd
        | some j =>
          obtain rfl : j = _ := by simpa using hshow
          exact hd

/-- Another presentation of a record reads the same. -/
theorem Recast.read_eq {j k : Json} (h : r.Recast j k) (hkeeps : r.keeps k = true)
    (hread : r.read j = some x) : r.read k = some x := by
  obtain ⟨-, hmeets⟩ := read_eq_some_iff.1 hread
  refine read_eq_some_iff.2 ⟨hkeeps, ?_⟩
  cases h with
  | reordered hperm => exact hmeets.of_record?_eq (Json.record?_perm hperm)
  | renamed hf hkey hkey' =>
    exact hmeets.of_record?_eq (Json.record?_renamed r.fields_disjoint hf hkey hkey')
  | @nulled before after f role key hmember hrole hkey habsent =>
    -- The null is given to this field only, where nothing was given and nothing would do.
    obtain ⟨slots, hrecord, hmet⟩ := hmeets
    have hf := (List.of_mem_zip hmember).1
    obtain ⟨left, slot, right, hplace, rfl, hslot, hothers⟩ :=
      Json.exists_place r.fields_disjoint hf hrecord
    obtain ⟨d, rfl, hd, hread⟩ := exists_demand hmember hplace hmet
    obtain rfl : slot = none := by
      rw [habsent] at hslot
      simpa using hslot.symm
    refine ⟨_, hothers (before ++ (key, .null) :: after) (some .null) (fun g hg hne => ?_) ?_,
      hread _ (d.of_absent hrole hd)⟩
    · have hnot := (r.fields_disjoint.forall hf hg hne.symm).not_accepts hkey
      rw [Json.given_append, Json.given_cons_of_not_accepts hnot, Json.given_append]
    · rw [Json.given_append, List.append_eq_nil_iff] at habsent
      rw [Json.given_append, Json.given_cons_of_accepts hkey, habsent.1, habsent.2]
      rfl
  | @listed entries items hr hshows =>
    obtain ⟨slots, hrecord, hmet⟩ := hmeets
    have hlength : items.length = r.fields.length := by
      rw [← hshows.length_eq, members, List.length_zip, r.length_roles, min_self]
    rw [members, ← r.map_role_demands x] at hshows
    refine ⟨items.map some, ?_, met_of_shows (Json.fields?_eq_some_iff.1 hrecord) hmet hshows⟩
    simp [Json.record?, hlength]

/-! ## Places in a request -/

/-- A place in a request: what stands there, whether it is kept whole, how many arrays and objects
are around it, and the request as a function of it. -/
inductive Site : Content → Bool → Nat → (Json → Json) → Prop
  | whole : Site (.one request) true 0 id
  /-- The place of a field that holds records, in an object or an array. -/
  | field {r : Record} {kept : Bool} {n : Nat} {C : Json → Json} {f : Field} {role : Role}
      {c : Content} {D : Json → Json} (site : Site (.one r) kept n C)
      (hmember : (f, role) ∈ r.members) (hcontent : role.content = some c)
      (hD : Frame r.fields f D) :
      Site c (kept && !Request.ownFields.contains f) (n + 1) fun v => C (D v)
  /-- The place of one record in a list of them. -/
  | item {r : Record} {kept : Bool} {n : Nat} {C : Json → Json} {before after : List Json}
      (site : Site (.many r) kept n C) :
      Site (.one r) kept (n + 1) fun v => C (.arr (before ++ v :: after))

/-- How deep in a request a record of a kind may stand. -/
def level : Record → Nat
  | request => 0
  | hierarchy => 1
  | scope => 1
  | body => 2
  | group => 4
  | condition => 6

/-- How deep in a request records in a field may stand. -/
def Content.level : Content → Nat
  | one r => r.level + 1
  | many r => r.level

/-- Records within a record lie at least two levels deeper, counting the lists of them. -/
theorem level_of_mem_members {r : Record} {f : Field} {role : Role} {c : Content}
    (hmember : (f, role) ∈ r.members) (hcontent : role.content = some c) :
    r.level + 2 ≤ c.level := by
  have hall : ∀ role ∈ r.roles, ∀ c, role.content = some c → r.level + 2 ≤ c.level := by
    cases r <;> simp [roles, bodyRoles, Role.holding, Role.optional, Role.defaulted, Role.required,
      level, Content.level]
  exact hall role (List.of_mem_zip hmember).2 c hcontent

namespace Site

variable {c : Content} {kept : Bool} {n : Nat} {C : Json → Json}

theorem le_level (site : Site c kept n C) : n ≤ c.level := by
  induction site with
  | whole => exact Nat.zero_le _
  | field _ hmember hcontent _ ih =>
    have hlevel := level_of_mem_members hmember hcontent
    simp only [Content.level] at ih
    omega
  | item _ ih =>
    simp only [Content.level] at ih ⊢
    omega

/-- No record of a request comes near the limit. -/
theorem lt_nestingLimit (site : Site c kept n C) : n + 1 < Request.nestingLimit := by
  have hle := site.le_level
  have hlevel : c.level ≤ 7 := by
    cases c with
    | one r => cases r <;> decide
    | many r => cases r <;> decide
  simp only [Request.nestingLimit]
  omega

theorem nestingLimit_succ_sub (site : Site c kept n C) :
    Request.nestingLimit + 1 - n = Request.nestingLimit - n + 1 := by
  have hlimit := site.lt_nestingLimit
  omega

/-- A request stands nowhere but at the top. -/
theorem whole_or_inner (site : Site c kept n C) :
    (c = .one request ∧ kept = true ∧ n = 0 ∧ C = id) ∨
      (c ≠ .one request ∧ c ≠ .many request ∧ 0 < n) := by
  cases site with
  | whole => exact .inl ⟨rfl, rfl, rfl, rfl⟩
  | field site hmember hcontent hD =>
    -- Nothing that holds records is as high up as a request.
    have hlevel := level_of_mem_members hmember hcontent
    refine .inr ⟨?_, ?_, Nat.succ_pos _⟩
    · rintro rfl
      simp [Content.level, level] at hlevel
    · rintro rfl
      simp [Content.level, level] at hlevel
  | item site =>
    refine .inr ⟨?_, nofun, Nat.succ_pos _⟩
    rintro ⟨⟩
    cases site with
    | field site hmember hcontent hD =>
      have hlevel := level_of_mem_members hmember hcontent
      simp [Content.level, level] at hlevel

/-- What is kept whole of a request is kept whole within it. -/
theorem keeps_of_isKept {r : Record} (site : Site (.one r) kept n C) {v : Json}
    (h : Request.isKept (C v) = true) : r.keeps v = true := by
  rcases site.whole_or_inner with ⟨hrecord, -, -, rfl⟩ | ⟨hrecord, -, -⟩
  · obtain rfl : r = request := by simpa using hrecord
    exact h
  · exact keeps_of_ne_request (by simpa using hrecord) v

/-- A request that is read is read by what stands at each of its places, and anything that reads the
same may stand there, as long as it can be kept. -/
theorem exists_read (site : Site c kept n C) {v : Json} (hv : v ≠ .null) {q : Request}
    (h : Request.ofJson? (C v) = some q) :
    ∃ x, c.read v = some x ∧ ∀ w, w ≠ .null → c.read w = some x → Request.isKept (C w) = true →
      Request.ofJson? (C w) = some q := by
  -- From the top down: what the record around a place reads as fixes what the place demands.
  induction site generalizing v with
  | whole => exact ⟨q, h, fun w _ hw _ => hw⟩
  | @field r _ _ C f role c D site hmember hcontent hD ih =>
    obtain ⟨y, hy, houter⟩ := ih (hD.ne_null v) h
    obtain ⟨d, rfl, hd, hread⟩ := exists_demand_of_frame hD hmember hy
    obtain ⟨x, hx, hother⟩ := d.of_content hcontent hv hd
    refine ⟨x, hx, fun w hw hwx hkept => houter (D w) (hD.ne_null w) ?_ hkept⟩
    exact hread w (hother w hw hwx) (site.keeps_of_isKept hkept)
  | item site ih =>
    obtain ⟨xs, hxs, houter⟩ := ih (by simp) h
    obtain ⟨x, hx, hother⟩ := Json.exists_read_of_list? hxs
    exact ⟨x, hx, fun w _ hwx hkept => houter _ (by simp) (hother w hwx) hkept⟩

end Site

/-! ## What is kept whole -/

/-- Only the fields of the request itself are read in place. -/
theorem not_own_of_ne_request {r : Record} (hr : r ≠ request) {f : Field} (hf : f ∈ r.fields) :
    Request.ownFields.contains f = false := by
  have hall : ∀ f ∈ r.fields, Request.ownFields.contains f = false := by
    cases r with
    | request => exact absurd rfl hr
    | _ => decide
  exact hall f hf

/-- A key of a field tells whether the field is one that is not kept whole. -/
theorem own_accepts_iff {f : Field} {key : String} (hf : f ∈ Request.fields)
    (hkey : f.accepts key = true) :
    Request.ownFields.any (·.accepts key) = Request.ownFields.contains f := by
  rw [Bool.eq_iff_iff, List.any_eq_true, List.contains_iff_mem]
  constructor
  · rintro ⟨g, hg, hgkey⟩
    have hfields : g ∈ Request.fields := List.mem_append_left _ hg
    rwa [← Field.eq_of_accepts request.fields_disjoint hfields hf hgkey hkey]
  · intro hown
    exact ⟨f, hown, hkey⟩

/-- An entry keeps a request from being kept if it is kept whole and too deep. -/
theorem keptSound_insert {before after : List (String × Json)} {key : String} {v : Json} :
    Request.keptSound (before ++ (key, v) :: after) =
      (Request.keptSound (before ++ after) &&
        (Request.ownFields.any (·.accepts key) || v.isSound Request.nestingLimit)) := by
  simp only [Request.keptSound, List.all_append, List.all_cons]
  ac_rfl

namespace Site

variable {c : Content} {kept : Bool} {n : Nat} {C : Json → Json}

/-- Below the top, a request can be kept if what is around a place can be and what stands there is
skipped or sound as deep as it stands. -/
theorem isKept_eq (site : Site c kept n C) (hn : 0 < n) :
    ∃ others, ∀ v, Request.isKept (C v) =
      (others && (!kept || v.isSound (Request.nestingLimit + 1 - n))) := by
  induction site with
  | whole => cases hn
  | @field r kept n C f role c D site hmember hcontent hD ih =>
    have hf : f ∈ r.fields := (List.of_mem_zip hmember).1
    rcases site.whole_or_inner with ⟨hrecord, rfl, rfl, rfl⟩ | ⟨hrecord, -, hpos⟩
    · obtain rfl : r = request := by simpa using hrecord
      -- At the top the limit is that of the value of an entry, not of the object.
      cases hD with
      | @entry before after key hkey =>
        refine ⟨Request.keptSound (before ++ after), fun v => ?_⟩
        simp only [id, Request.isKept, keptSound_insert, own_accepts_iff hf hkey, Bool.true_and,
          Bool.not_not]
        rfl
      | item => exact ⟨false, fun v => rfl⟩
    · have hown := not_own_of_ne_request (by simpa using hrecord) hf
      obtain ⟨others, hothers⟩ := ih hpos
      obtain ⟨rest, hrest⟩ := hD.isSound (Request.nestingLimit - n)
      refine ⟨others && (!kept || rest), fun v => ?_⟩
      rw [hothers, hown, site.nestingLimit_succ_sub, hrest, Nat.add_sub_add_right]
      cases kept <;> simp [Bool.and_assoc]
  | @item r kept n C before after site ih =>
    have hpos : 0 < n := by
      rcases site.whole_or_inner with ⟨hrecord, -⟩ | ⟨-, -, hpos⟩
      · cases hrecord
      · exact hpos
    obtain ⟨others, hothers⟩ := ih hpos
    refine ⟨others && (!kept || (Json.arr (before ++ after)).isSound (Request.nestingLimit - n + 1)),
      fun v => ?_⟩
    rw [hothers, site.nestingLimit_succ_sub, Json.isSound_arr_insert, Nat.add_sub_add_right]
    cases kept <;> simp [Bool.and_assoc]

end Site

/-- What stands for a field that is left out is sound. -/
theorem isSound_of_absent {r : Record} {f : Field} {role : Role} (hmember : (f, role) ∈ r.members)
    {j : Json} (hj : role.absent = some j) (n : Nat) : j.isSound (n + 1) = true := by
  have hall : ∀ role ∈ r.roles, ∀ j, role.absent = some j → j.isSound (n + 1) = true := by
    cases r <;> simp [roles, bodyRoles, Role.holding, Role.optional, Role.defaulted, Role.required,
      Json.isSound, Json.allSound, Json.nat]
  exact hall role (List.of_mem_zip hmember).2 j hj

/-- A sound record stays sound in another presentation. -/
theorem Recast.isSound {r : Record} {j k : Json} (h : r.Recast j k) {n : Nat}
    (hsound : j.isSound (n + 2) = true) : k.isSound (n + 2) = true := by
  cases h with
  | reordered hperm =>
    rw [Json.isSound, Json.entriesSound_iff] at hsound ⊢
    exact fun entry hentry => hsound entry (hperm.mem_iff.2 hentry)
  | renamed hf hkey hkey' =>
    rw [Json.isSound_obj_insert] at hsound ⊢
    exact hsound
  | nulled hmember hrole hkey habsent =>
    rw [Json.isSound_obj_insert, hsound]
    rfl
  | listed hr hshows =>
    rw [Json.isSound, Json.entriesSound_iff] at hsound
    apply Json.isSound_arr
    intro item hitem
    obtain ⟨⟨f, role⟩, hmember, hshow⟩ := Json.exists_of_forall₂_of_mem hshows hitem
    rcases hshow with hgiven | ⟨-, habsent⟩
    · obtain ⟨key, hentry⟩ := Json.mem_of_mem_given (hgiven ▸ List.mem_singleton_self item)
      exact hsound _ hentry
    · exact isSound_of_absent hmember habsent n

theorem Recast.isKept {j k : Json} (h : request.Recast j k) (hkept : Request.isKept j = true) :
    Request.isKept k = true := by
  cases h with
  | reordered hperm =>
    rw [Request.isKept, Request.keptSound, List.all_eq_true] at hkept ⊢
    exact fun entry hentry => hkept entry (hperm.mem_iff.2 hentry)
  | renamed hf hkey hkey' =>
    rw [Request.isKept, keptSound_insert, own_accepts_iff hf hkey] at hkept
    rw [Request.isKept, keptSound_insert, own_accepts_iff hf hkey']
    exact hkept
  | nulled hmember hrole hkey habsent =>
    rw [Request.isKept] at hkept ⊢
    rw [keptSound_insert, hkept]
    simp [Json.isSound]
  | listed hr => exact absurd rfl hr

/-- Recasting a record anywhere in a request keeps the request sound. -/
theorem Site.isKept_of_recast {r : Record} {kept : Bool} {n : Nat} {C : Json → Json}
    (site : Site (.one r) kept n C) {j k : Json} (h : r.Recast j k)
    (hkept : Request.isKept (C j) = true) : Request.isKept (C k) = true := by
  rcases site.whole_or_inner with ⟨hrecord, -, -, rfl⟩ | ⟨-, -, hpos⟩
  · obtain rfl : r = request := by simpa using hrecord
    exact h.isKept hkept
  · obtain ⟨others, hothers⟩ := site.isKept_eq hpos
    have hlimit := site.lt_nestingLimit
    obtain ⟨m, hm⟩ : ∃ m, Request.nestingLimit + 1 - n = m + 2 :=
      ⟨Request.nestingLimit - 1 - n, by omega⟩
    rw [hothers, hm] at hkept ⊢
    simp only [Bool.and_eq_true, Bool.or_eq_true] at hkept ⊢
    exact ⟨hkept.1, hkept.2.imp_right h.isSound⟩

/-- An added key that names no field can be kept along with the rest if it is skipped or its value
can be. -/
theorem Site.isKept_undeclared {r : Record} {kept : Bool} {n : Nat} {C : Json → Json}
    (site : Site (.one r) kept n C) {key : String} (hkey : ∀ f ∈ r.fields, f.accepts key = false)
    (before after : List (String × Json)) (v : Json) :
    Request.isKept (C (.obj (before ++ (key, v) :: after))) =
      (Request.isKept (C (.obj (before ++ after))) &&
        (!kept || v.isSound (Request.nestingLimit - n))) := by
  rcases site.whole_or_inner with ⟨hrecord, rfl, rfl, rfl⟩ | ⟨-, -, hpos⟩
  · obtain rfl : r = request := by simpa using hrecord
    have hown : Request.ownFields.any (·.accepts key) = false := by
      rw [List.any_eq_false]
      intro f hf
      simp [hkey f (List.mem_append_left _ hf)]
    simp only [id, Request.isKept, keptSound_insert, hown]
    rfl
  · obtain ⟨others, hothers⟩ := site.isKept_eq hpos
    rw [hothers, hothers, site.nestingLimit_succ_sub, Json.isSound_obj_insert]
    cases kept <;> simp [Bool.and_assoc]

end Record

namespace Request

open Record (Site)

/-- At every record of a request that is read, another presentation of the record leaves what is
read as it is. So does an added key that names no field, unless its value would be kept whole and
cannot be, in which case nothing is read. Where a field is given twice, nothing is read either. -/
theorem ofJson?_recast {r : Record} {kept : Bool} {n : Nat} {C : Json → Json}
    (site : Site (.one r) kept n C) :
    (∀ j k q, r.Recast j k → ofJson? (C j) = some q → ofJson? (C k) = some q) ∧
    (∀ before after key v q, (∀ f ∈ r.fields, f.accepts key = false) →
      ofJson? (C (.obj (before ++ after))) = some q →
      ofJson? (C (.obj (before ++ (key, v) :: after))) =
        if !kept || v.isSound (nestingLimit - n) then some q else none) ∧
    ∀ before between after f key key' v v', f ∈ r.fields → f.accepts key = true →
      f.accepts key' = true →
      ofJson? (C (.obj (before ++ (key, v) :: (between ++ (key', v') :: after)))) = none := by
  refine ⟨?_, ?_, ?_⟩
  · intro j k q hrecast hj
    obtain ⟨hjnull, hknull⟩ := hrecast.ne_null
    obtain ⟨x, hx, hothers⟩ := site.exists_read hjnull hj
    have hkept := site.isKept_of_recast hrecast (Record.read_request_iff.1 hj).1
    exact hothers k hknull (hrecast.read_eq (site.keeps_of_isKept hkept) hx) hkept
  · intro before after key v q hkey hread
    obtain ⟨x, hx, hothers⟩ := site.exists_read (by simp) hread
    have hkept := site.isKept_undeclared hkey before after v
    rw [(Record.read_request_iff.1 hread).1, Bool.true_and] at hkept
    split
    · rename_i hfits
      rw [hfits] at hkept
      apply hothers _ (by simp) _ hkept
      have hmeets := (Record.read_eq_some_iff.1 hx).2
      exact Record.read_eq_some_iff.2 ⟨site.keeps_of_isKept hkept,
        hmeets.of_record?_eq (Json.record?_undeclared hkey).symm⟩
    · rename_i hfits
      -- Whatever is read has been kept.
      rw [Option.eq_none_iff_forall_ne_some]
      intro q' hq'
      rw [(Record.read_request_iff.1 hq').1] at hkept
      exact hfits hkept.symm
  · intro before between after f key key' v v' hf hkey hkey'
    rw [Option.eq_none_iff_forall_ne_some]
    intro q hread
    obtain ⟨x, hx, -⟩ := site.exists_read (by simp) hread
    obtain ⟨-, slots, hrecord, -⟩ := Record.read_eq_some_iff.1 hx
    rw [Json.record?_twice hf hkey hkey'] at hrecord
    cases hrecord

def groupedCondition (v : Json) : Json :=
  .obj [("groups", .arr [.arr [.arr [v]]])]

theorem groupedCondition_site : Site (.one .condition) true 4 groupedCondition := by
  have hgroups : (Field.plain "groups", .holding .optional (.many .group)) ∈ Record.request.members :=
    List.mem_of_getElem? (i := 6) rfl
  have hconditions : (Field.plain "conditions", .holding (.defaulted (.arr [])) (.many .condition)) ∈
      Record.group.members :=
    List.mem_of_getElem? (i := 0) rfl
  have hlist := Site.field .whole hgroups rfl (@Frame.entry _ _ [] [] "groups" rfl)
  have hgroup := @Site.item _ _ _ _ [] [] hlist
  have hmembers := Site.field hgroup hconditions rfl (@Frame.item _ _ [] [] rfl)
  exact @Site.item _ _ _ _ [] [] hmembers

def nested : Nat → Json
  | 0 => .null
  | n + 1 => .arr [nested n]

theorem isSound_nested (m n : Nat) : (nested m).isSound n = decide (m ≤ n) := by
  induction m generalizing n with
  | zero => cases n <;> simp [nested, Json.isSound]
  | succ m ih => cases n <;> simp [nested, Json.isSound, Json.allSound, ih]

theorem ofJson?_recast_grouped :
    ∃ q, ofJson? (groupedCondition (.obj [("kind", .str "tag"), ("value", .str "AI")])) = some q ∧
      ofJson? (groupedCondition (.obj [("value", .str "AI"), ("kind", .str "tag")])) = some q ∧
      ofJson? (groupedCondition (.obj [("type", .str "tag"), ("value", .str "AI")])) = some q ∧
      ofJson? (groupedCondition
        (.obj [("kind", .str "tag"), ("weight", .null), ("value", .str "AI")])) = some q ∧
      ofJson? (groupedCondition
        (.arr [.str "tag", .str "AI", .null, .bool false, .null, .null])) = some q ∧
      ofJson? (groupedCondition
        (.obj [("kind", .str "tag"), ("note", nested 122), ("value", .str "AI")])) = some q ∧
      ofJson? (groupedCondition
        (.obj [("kind", .str "tag"), ("note", nested 123), ("value", .str "AI")])) = none ∧
      ofJson? (groupedCondition
        (.obj [("kind", .str "tag"), ("value", .str "AI"), ("type", .str "tag")])) = none := by
  obtain ⟨hrecast, hundeclared, htwice⟩ := ofJson?_recast groupedCondition_site
  obtain ⟨q, hq⟩ : ∃ q, ofJson? (groupedCondition
      (.obj [("kind", .str "tag"), ("value", .str "AI")])) = some q := ⟨_, rfl⟩
  have hnote : ∀ f ∈ Record.condition.fields, f.accepts "note" = false := by decide
  refine ⟨q, hq, ?_, ?_, ?_, ?_, ?_, ?_, ?_⟩
  · exact hrecast _ _ q (.reordered (List.Perm.swap _ _ [])) hq
  · exact hrecast _ _ q (@Record.Recast.renamed _ [] _ ⟨"kind", ["type"]⟩ _ _ _
      (List.mem_of_getElem? (i := 0) rfl) rfl rfl) hq
  · exact hrecast _ _ q (@Record.Recast.nulled _ [_] [_] (.plain "weight") .optional _
      (List.mem_of_getElem? (i := 4) rfl) rfl rfl rfl) hq
  · refine hrecast _ _ q (.listed (by decide) ?_) hq
    exact .cons (.inl rfl) (.cons (.inl rfl) (.cons (.inr ⟨rfl, rfl⟩) (.cons (.inr ⟨rfl, rfl⟩)
      (.cons (.inr ⟨rfl, rfl⟩) (.cons (.inr ⟨rfl, rfl⟩) .nil)))))
  · simpa [isSound_nested, nestingLimit] using hundeclared [_] [_] "note" (nested 122) q hnote hq
  · simpa [isSound_nested, nestingLimit] using hundeclared [_] [_] "note" (nested 123) q hnote hq
  · exact htwice [] [_] [] ⟨"kind", ["type"]⟩ _ _ _ _ (List.mem_of_getElem? (i := 0) rfl) rfl rfl

/-- A key that names no field makes a request unreadable if its value nests too deep to be kept. -/
theorem undeclared_nested_refused :
    ofJson? (.obj [("conditions", .arr [])]) =
        some ⟨1, none, ⟨some [], none, none, none⟩, none, none⟩ ∧
      (∀ f ∈ fields, f.accepts "note" = false) ∧
      ofJson? (.obj [("conditions", .arr []), ("note", nested 127)]) = none := by
  have hnote : ∀ f ∈ fields, f.accepts "note" = false := by decide
  have hkept : keptSound [("conditions", .arr []), ("note", nested 127)] = false := by
    simp [keptSound, isSound_nested, nestingLimit, ownFields, Field.accepts, Field.plain]
  refine ⟨rfl, hnote, ?_⟩
  rw [ofJson?, hkept]
  rfl

end Request

end OutlineQuery
