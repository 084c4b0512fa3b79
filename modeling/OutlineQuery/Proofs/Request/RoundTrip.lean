import OutlineQuery.Proofs.Json.Numbers
import OutlineQuery.Request.Resolution

/-!
Requests that are written and read back. What was written reads back as it was exactly if its
weights are finite, as JSON has no other numbers; and the weights of a request that was read from a
text always are.
-/
namespace OutlineQuery

open Json (Field written optional list? string?)

/-! ## Conditions -/

namespace ConditionSpec

def values (c : ConditionSpec) : List (Field × Option Json) :=
  fields.zip [c.kind.map .str, some (.str c.value), c.mode.map .str, some (.bool c.negated),
    c.weight.map .number, c.expansion.map .str]

theorem fields_apart : fields.Pairwise Field.Apart := by
  decide

theorem toJson_eq (c : ConditionSpec) : c.toJson = .obj (written c.values) := by
  simp only [toJson, Json.entry?_eq "kind" Json.str, Json.entry?_eq "match_mode" Json.str,
    Json.entry?_eq "weight" Json.number, Json.entry?_eq "semantic_expansion" Json.str]
  simp [written, values, fields, Json.entry?, Field.plain]

theorem record?_toJson (c : ConditionSpec) : c.toJson.record? fields =
    some [c.kind.map .str, some (.str c.value), c.mode.map .str, some (.bool c.negated),
      c.weight.map .number, c.expansion.map .str] := by
  rw [toJson_eq]
  exact Json.record?_written fields_apart

def weights (c : ConditionSpec) : List Binary64 :=
  c.weight.toList

/-- A condition is read back unless its weight would be written as null. -/
theorem ofJson?_toJson {c : ConditionSpec} (h : ∀ w ∈ c.weights, w.isFinite = true) :
    ofJson? c.toJson = some c := by
  have hweight : optional Json.binary64? (c.weight.map .number) = some c.weight := by
    apply Json.optional_map
    intro w hw
    have hfinite : w.isFinite = true := h w (by simp [weights, hw])
    simp [Json.number, hfinite, Json.binary64?]
  simp only [ofJson?, record?_toJson, Json.optional_string?, hweight]
  rfl

theorem toJson_isSound (n : Nat) (c : ConditionSpec) : c.toJson.isSound (n + 1) = true := by
  rw [toJson_eq]
  apply Json.isSound_written
  simp [values, fields]

theorem toJson_inRange (c : ConditionSpec) : c.toJson.InRange := by
  rw [toJson_eq]
  apply Json.InRange.written
  simp [values, fields, Json.InRange.str, Json.InRange.bool, Json.number_inRange]

theorem isFinite_of_ofJson? {j : Json} {c : ConditionSpec} (hj : j.InRange)
    (h : ofJson? j = some c) : ∀ w ∈ c.weights, w.isFinite = true := by
  intro w hw
  unfold ofJson? at h
  split at h
  · rename_i kind value mode negated weight expansion hrecord
    simp only [Option.bind_eq_bind, Option.bind_eq_some_iff, Option.pure_def, Option.some.injEq] at h
    obtain ⟨_, -, _, -, _, -, _, -, read, hread, _, -, rfl⟩ := h
    obtain rfl : read = some w := by simpa [weights] using hw
    obtain ⟨j', rfl, hnumber⟩ := Json.exists_of_optional hread
    exact (hj.of_mem_record? hrecord (by simp)).isFinite_of_binary64? hnumber
  · simp at h

theorem list?_listToJson {cs : List ConditionSpec}
    (h : ∀ w ∈ cs.flatMap weights, w.isFinite = true) :
    list? ofJson? (listToJson cs) = some cs := by
  apply Json.list?_map
  intro c hc
  exact ofJson?_toJson fun w hw => h w (List.mem_flatMap_of_mem hc hw)

theorem listToJson_isSound (n : Nat) (cs : List ConditionSpec) :
    (listToJson cs).isSound (n + 2) = true := by
  apply Json.isSound_arr
  simp [toJson_isSound]

theorem listToJson_inRange (cs : List ConditionSpec) : (listToJson cs).InRange := by
  apply Json.InRange.arr
  simp [toJson_inRange]

theorem isFinite_of_list? {j : Json} {cs : List ConditionSpec} (hj : j.InRange)
    (h : list? ofJson? j = some cs) : ∀ w ∈ cs.flatMap weights, w.isFinite = true := by
  intro w hw
  obtain ⟨c, hc, hweight⟩ := List.mem_flatMap.1 hw
  exact hj.forall_of_list? h (fun _ _ => isFinite_of_ofJson?) c hc w hweight

end ConditionSpec

/-! ## Groups -/

namespace GroupSpec

def values (g : GroupSpec) : List (Field × Option Json) :=
  fields.zip [some (ConditionSpec.listToJson g.conditions), g.combinator.map .str]

theorem fields_apart : fields.Pairwise Field.Apart := by
  decide

theorem toJson_eq (g : GroupSpec) : g.toJson = .obj (written g.values) := by
  simp only [toJson, Json.entry?_eq "combinator" Json.str]
  simp [written, values, fields, Json.entry?, Field.plain]

theorem record?_toJson (g : GroupSpec) : g.toJson.record? fields =
    some [some (ConditionSpec.listToJson g.conditions), g.combinator.map .str] := by
  rw [toJson_eq]
  exact Json.record?_written fields_apart

def weights (g : GroupSpec) : List Binary64 :=
  g.conditions.flatMap ConditionSpec.weights

theorem ofJson?_toJson {g : GroupSpec} (h : ∀ w ∈ g.weights, w.isFinite = true) :
    ofJson? g.toJson = some g := by
  simp only [ofJson?, record?_toJson, Json.defaulted_some, Json.optional_string?,
    ConditionSpec.list?_listToJson h]
  rfl

theorem toJson_isSound (n : Nat) (g : GroupSpec) : g.toJson.isSound (n + 3) = true := by
  rw [toJson_eq]
  apply Json.isSound_written
  simp [values, fields, ConditionSpec.listToJson_isSound]

theorem toJson_inRange (g : GroupSpec) : g.toJson.InRange := by
  rw [toJson_eq]
  apply Json.InRange.written
  simp [values, fields, Json.InRange.str, ConditionSpec.listToJson_inRange]

theorem isFinite_of_ofJson? {j : Json} {g : GroupSpec} (hj : j.InRange)
    (h : ofJson? j = some g) : ∀ w ∈ g.weights, w.isFinite = true := by
  unfold ofJson? at h
  split at h
  · rename_i conditions combinator hrecord
    simp only [Option.bind_eq_bind, Option.bind_eq_some_iff, Option.pure_def, Option.some.injEq] at h
    obtain ⟨read, hread, _, -, rfl⟩ := h
    cases conditions with
    | none =>
      obtain rfl : [] = read := by simpa [Json.defaulted] using hread
      simp [weights]
    | some j' => exact ConditionSpec.isFinite_of_list? (hj.of_mem_record? hrecord (by simp)) hread
  · simp at h

end GroupSpec

/-! ## Group sets -/

namespace BodySpec

def values (b : BodySpec) : List (Field × Option Json) :=
  fields.zip [b.conditions.map ConditionSpec.listToJson, b.combinator.map .str,
    b.groups.map GroupSpec.listToJson, b.groupCombinator.map .str]

theorem fields_apart : fields.Pairwise Field.Apart := by
  decide

theorem entries_eq (b : BodySpec) : b.entries = written b.values := by
  simp only [entries, Json.entry?_eq "conditions" ConditionSpec.listToJson,
    Json.entry?_eq "combinator" Json.str, Json.entry?_eq "groups" GroupSpec.listToJson,
    Json.entry?_eq "group_combinator" Json.str]
  simp [written, values, fields, Field.plain]

def weights (b : BodySpec) : List Binary64 :=
  b.conditions.toList.flatMap (List.flatMap ConditionSpec.weights) ++
    b.groups.toList.flatMap (List.flatMap GroupSpec.weights)

/-- The four fields of a body are read back, each on its own. -/
theorem ofFields?_written {b : BodySpec} (h : ∀ w ∈ b.weights, w.isFinite = true) :
    ofFields? (b.conditions.map ConditionSpec.listToJson) (b.combinator.map .str)
      (b.groups.map GroupSpec.listToJson) (b.groupCombinator.map .str) = some b := by
  have hconditions : optional (list? ConditionSpec.ofJson?)
      (b.conditions.map ConditionSpec.listToJson) = some b.conditions := by
    apply Json.optional_map
    intro cs hcs
    refine ⟨ConditionSpec.list?_listToJson fun w hw => h w ?_, by simp [ConditionSpec.listToJson]⟩
    simp only [weights, hcs, Option.toList_some, List.flatMap_singleton]
    exact List.mem_append_left _ hw
  have hgroups : optional (list? GroupSpec.ofJson?) (b.groups.map GroupSpec.listToJson) = some b.groups := by
    apply Json.optional_map
    intro gs hgs
    refine ⟨Json.list?_map fun g hg => GroupSpec.ofJson?_toJson fun w hw => h w ?_,
      by simp [GroupSpec.listToJson]⟩
    simp only [weights, hgs, Option.toList_some, List.flatMap_singleton]
    exact List.mem_append_right _ (List.mem_flatMap_of_mem hg hw)
  simp only [ofFields?, hconditions, hgroups, Json.optional_string?]
  rfl

theorem ofJson?_entries {b : BodySpec} (h : ∀ w ∈ b.weights, w.isFinite = true) :
    ofJson? (.obj b.entries) = some b := by
  have hrecord : (Json.obj b.entries).record? fields =
      some [b.conditions.map ConditionSpec.listToJson, b.combinator.map .str,
        b.groups.map GroupSpec.listToJson, b.groupCombinator.map .str] := by
    rw [entries_eq]
    exact Json.record?_written fields_apart
  simp only [ofJson?, hrecord, ofFields?_written h]

/-- Groups of conditions are four levels of records and lists. -/
theorem values_isSound (n : Nat) (b : BodySpec) :
    ∀ p ∈ b.values, ∀ j ∈ p.2, j.isSound (n + 4) = true := by
  have hgroups (gs : List GroupSpec) : (GroupSpec.listToJson gs).isSound (n + 4) = true := by
    apply Json.isSound_arr
    simp [GroupSpec.toJson_isSound]
  simp [values, fields, ConditionSpec.listToJson_isSound, hgroups]

theorem values_inRange (b : BodySpec) : ∀ p ∈ b.values, ∀ j ∈ p.2, j.InRange := by
  have hgroups (gs : List GroupSpec) : (GroupSpec.listToJson gs).InRange := by
    apply Json.InRange.arr
    simp [GroupSpec.toJson_inRange]
  simp [values, fields, ConditionSpec.listToJson_inRange, hgroups, Json.InRange.str]

/-- The weights of a body that was read from values in range are finite, whichever field they stand
in. -/
theorem isFinite_of_ofFields? {conditions combinator groups groupCombinator : Option Json}
    {b : BodySpec} (hconditions : ∀ j ∈ conditions, j.InRange) (hgroups : ∀ j ∈ groups, j.InRange)
    (h : ofFields? conditions combinator groups groupCombinator = some b) :
    ∀ w ∈ b.weights, w.isFinite = true := by
  simp only [ofFields?, Option.bind_eq_bind, Option.bind_eq_some_iff, Option.pure_def,
    Option.some.injEq] at h
  obtain ⟨readConditions, hcs, _, -, readGroups, hgs, _, -, rfl⟩ := h
  intro w hw
  rcases List.mem_append.1 hw with hmem | hmem
  · obtain ⟨cs, heq, hweight⟩ := List.mem_flatMap.1 hmem
    obtain rfl := Option.mem_toList.1 heq
    obtain ⟨j, rfl, hlist⟩ := Json.exists_of_optional hcs
    exact ConditionSpec.isFinite_of_list? (hconditions j rfl) hlist w hweight
  · obtain ⟨gs, heq, hweight⟩ := List.mem_flatMap.1 hmem
    obtain rfl := Option.mem_toList.1 heq
    obtain ⟨j, rfl, hlist⟩ := Json.exists_of_optional hgs
    obtain ⟨g, hg, hgroup⟩ := List.mem_flatMap.1 hweight
    exact (hgroups j rfl).forall_of_list? hlist (fun _ _ => GroupSpec.isFinite_of_ofJson?) g hg w hgroup

theorem isFinite_of_ofJson? {j : Json} {b : BodySpec} (hj : j.InRange)
    (h : ofJson? j = some b) : ∀ w ∈ b.weights, w.isFinite = true := by
  unfold ofJson? at h
  split at h
  · rename_i conditions combinator groups groupCombinator hrecord
    apply isFinite_of_ofFields? _ _ h
    · intro j' hj'
      exact hj.of_mem_record? hrecord (by simp [Option.mem_def.1 hj'])
    · intro j' hj'
      exact hj.of_mem_record? hrecord (by simp [Option.mem_def.1 hj'])
  · simp at h

end BodySpec

/-! ## Hierarchies and scopes -/

namespace HierarchySpec

def values (h : HierarchySpec) : List (Field × Option Json) :=
  fields.zip [some (.obj h.left.entries), some (.str h.operator), some (.obj h.right.entries)]

theorem fields_apart : fields.Pairwise Field.Apart := by
  decide

theorem toJson_eq (h : HierarchySpec) : h.toJson = .obj (written h.values) :=
  rfl

theorem record?_toJson (h : HierarchySpec) : h.toJson.record? fields =
    some [some (.obj h.left.entries), some (.str h.operator), some (.obj h.right.entries)] := by
  rw [toJson_eq]
  exact Json.record?_written fields_apart

def weights (h : HierarchySpec) : List Binary64 :=
  h.left.weights ++ h.right.weights

theorem ofJson?_toJson {h : HierarchySpec} (hfinite : ∀ w ∈ h.weights, w.isFinite = true) :
    ofJson? h.toJson = some h := by
  have hleft := BodySpec.ofJson?_entries fun w hw => hfinite w (List.mem_append_left _ hw)
  have hright := BodySpec.ofJson?_entries fun w hw => hfinite w (List.mem_append_right _ hw)
  simp only [ofJson?, record?_toJson, Json.required, string?, hleft, hright]
  rfl

theorem toJson_inRange (h : HierarchySpec) : h.toJson.InRange := by
  have hside (b : BodySpec) : (Json.obj b.entries).InRange :=
    b.entries_eq ▸ Json.InRange.written b.values_inRange
  rw [toJson_eq]
  apply Json.InRange.written
  simp [values, fields, hside, Json.InRange.str]

theorem isFinite_of_ofJson? {j : Json} {h : HierarchySpec} (hj : j.InRange)
    (hread : ofJson? j = some h) : ∀ w ∈ h.weights, w.isFinite = true := by
  unfold ofJson? at hread
  split at hread
  · rename_i left operator right hrecord
    simp only [Option.bind_eq_bind, Option.bind_eq_some_iff, Option.pure_def,
      Option.some.injEq] at hread
    obtain ⟨readLeft, hleft, _, -, readRight, hright, rfl⟩ := hread
    obtain ⟨jl, rfl, hl⟩ := Json.exists_of_required hleft
    obtain ⟨jr, rfl, hr⟩ := Json.exists_of_required hright
    intro w hw
    rcases List.mem_append.1 hw with hmem | hmem
    · exact BodySpec.isFinite_of_ofJson? (hj.of_mem_record? hrecord (by simp)) hl w hmem
    · exact BodySpec.isFinite_of_ofJson? (hj.of_mem_record? hrecord (by simp)) hr w hmem
  · simp at hread

end HierarchySpec

namespace Scope

def values (s : Scope) : List (Field × Option Json) :=
  fields.zip [some (.strings s.blockIds), some (.strings s.pageIds), some (.bool s.excludeJournals)]

theorem fields_apart : fields.Pairwise Field.Apart := by
  decide

theorem toJson_eq (s : Scope) : s.toJson = .obj (written s.values) :=
  rfl

theorem ofJson?_toJson (s : Scope) : ofJson? s.toJson = some s := by
  have hrecord : s.toJson.record? fields =
      some [some (.strings s.blockIds), some (.strings s.pageIds), some (.bool s.excludeJournals)] := by
    rw [toJson_eq]
    exact Json.record?_written fields_apart
  simp only [ofJson?, hrecord, Json.defaulted_some, Json.list?_strings]
  rfl

theorem toJson_inRange (s : Scope) : s.toJson.InRange := by
  have hstrings (l : List String) : (Json.strings l).InRange := by
    apply Json.InRange.arr
    simp [Json.InRange.str]
  rw [toJson_eq]
  apply Json.InRange.written
  simp [values, fields, hstrings, Json.InRange.bool]

end Scope

/-! ## Requests -/

namespace Request

/-- The fields of a request with what is written for them, in the order of writing: the group set
stands between the entity and the hierarchy. -/
def values (r : Request) : List (Field × Option Json) :=
  [(.plain "version", some (.nat r.version.toNat)), (.plain "entity", r.entity.map .str)] ++
    r.body.values ++
    [(.plain "hierarchy", r.hierarchy.map HierarchySpec.toJson),
      (.plain "scope", r.scope.map Scope.toJson)]

/-- The fields of a request and those of its body do not answer to keys of each other. -/
theorem values_apart (r : Request) : (r.values.map (·.1)).Pairwise Field.Apart := by
  have hfields : r.values.map (·.1) = ownFields.take 2 ++ BodySpec.fields ++ ownFields.drop 2 := rfl
  rw [hfields]
  decide

theorem toJson_eq (r : Request) : r.toJson = .obj (written r.values) := by
  simp only [toJson, BodySpec.entries_eq, Json.entry?_eq "entity" Json.str,
    Json.entry?_eq "hierarchy" HierarchySpec.toJson, Json.entry?_eq "scope" Scope.toJson]
  simp [written, values, Json.entry?, Field.plain]

/-- The fields are read in an order of their own, which is not the one they are written in. -/
theorem fields?_written (r : Request) : Json.fields? fields (written r.values) =
    some [some (.nat r.version.toNat), r.entity.map .str, r.hierarchy.map HierarchySpec.toJson,
      r.scope.map Scope.toJson, r.body.conditions.map ConditionSpec.listToJson,
      r.body.combinator.map .str, r.body.groups.map GroupSpec.listToJson,
      r.body.groupCombinator.map .str] := by
  -- the order of declaration, which has the group set last
  let declared : List (Field × Option Json) :=
    [(.plain "version", some (.nat r.version.toNat)), (.plain "entity", r.entity.map .str),
      (.plain "hierarchy", r.hierarchy.map HierarchySpec.toJson),
      (.plain "scope", r.scope.map Scope.toJson)] ++ r.body.values
  have hsubset : declared ⊆ r.values := by
    intro p hp
    simp only [declared, values, List.mem_append, List.mem_cons, List.not_mem_nil, or_false] at hp ⊢
    tauto
  exact Json.fields?_written r.values_apart hsubset

/-- What is written of a request is not too deep to be kept whole. -/
theorem keptSound_written (r : Request) : keptSound (written r.values) = true := by
  rw [keptSound, List.all_eq_true]
  rintro ⟨key, j⟩ hmem
  obtain ⟨f, hf, rfl⟩ := Json.mem_written.1 hmem
  simp only [values, List.mem_append, List.mem_cons, List.not_mem_nil, or_false] at hf
  rcases hf with (hown | hbody) | hown
  · rcases hown with heq | heq <;> obtain ⟨rfl, -⟩ := Prod.mk.inj heq <;> rfl
  · have hsound : j.isSound nestingLimit = true := r.body.values_isSound 122 _ hbody j rfl
    simp [hsound]
  · rcases hown with heq | heq <;> obtain ⟨rfl, -⟩ := Prod.mk.inj heq <;> rfl

theorem version?_nat (v : UInt32) : version? (.nat v.toNat) = some v := by
  have hlt : v.toNat < 0x100000000 := v.toNat_lt
  have hbound : (0 : Int) ≤ v.toNat ∧ (v.toNat : Int) < (0x100000000 : Nat) := by omega
  simp only [version?, Json.nat, Json.natBelow?, if_pos hbound, Option.map_some, Int.toNat_natCast,
    UInt32.ofNat_toNat]

def weights (r : Request) : List Binary64 :=
  r.body.weights ++ r.hierarchy.toList.flatMap HierarchySpec.weights

/-- A request with finite weights is read back as it was. -/
theorem ofJson?_toJson {r : Request} (h : ∀ w ∈ r.weights, w.isFinite = true) :
    ofJson? r.toJson = some r := by
  have hbody := BodySpec.ofFields?_written fun w hw => h w (List.mem_append_left _ hw)
  have hhierarchy : optional HierarchySpec.ofJson? (r.hierarchy.map HierarchySpec.toJson) =
      some r.hierarchy := by
    apply Json.optional_map
    intro relation hrelation
    refine ⟨HierarchySpec.ofJson?_toJson fun w hw => h w ?_, by simp [HierarchySpec.toJson]⟩
    simp only [weights, hrelation, Option.toList_some, List.flatMap_singleton]
    exact List.mem_append_right _ hw
  have hscope : optional Scope.ofJson? (r.scope.map Scope.toJson) = some r.scope :=
    Json.optional_map fun s _ => ⟨s.ofJson?_toJson, by simp [Scope.toJson]⟩
  rw [toJson_eq, ofJson?, if_pos r.keptSound_written]
  simp only [fields?_written, Json.defaulted_some, version?_nat, Json.optional_string?, hbody,
    hhierarchy, hscope, Option.bind_eq_bind, Option.bind_some, Option.pure_def]

theorem toJson_inRange (r : Request) : r.toJson.InRange := by
  have hversion : (Json.nat r.version.toNat).InRange := by
    have hlt : r.version.toNat < 2 ^ 32 := r.version.toNat_lt
    exact .int (by omega)
  rw [toJson_eq]
  apply Json.InRange.written
  rw [values, List.forall_mem_append, List.forall_mem_append]
  refine ⟨⟨?_, r.body.values_inRange⟩, ?_⟩
  · simp [hversion, Json.InRange.str]
  · simp [HierarchySpec.toJson_inRange, Scope.toJson_inRange]

theorem isFinite_of_ofJson? {j : Json} {r : Request} (hj : j.InRange)
    (h : ofJson? j = some r) : ∀ w ∈ r.weights, w.isFinite = true := by
  cases hj with
  | obj hentries =>
    rename_i entries
    -- a field's value is the value of an entry, whichever way the fields are read
    have hvalues {vs : List (Option Json)} (hfields : Json.fields? fields entries = some vs)
        {value : Json} (hmem : some value ∈ vs) : value.InRange :=
      (Json.InRange.obj hentries).of_mem_record? hfields hmem
    simp only [ofJson?] at h
    split at h
    · split at h
      · rename_i version entity hierarchy scope conditions combinator groups groupCombinator hfields
        simp only [Option.bind_eq_bind, Option.bind_eq_some_iff, Option.pure_def,
          Option.some.injEq] at h
        obtain ⟨_, -, _, -, body, hbody, relation, hrelation, _, -, rfl⟩ := h
        intro w hw
        rcases List.mem_append.1 hw with hmem | hmem
        · apply BodySpec.isFinite_of_ofFields? _ _ hbody w hmem
          · intro j' hj'
            exact hvalues hfields (by simp [Option.mem_def.1 hj'])
          · intro j' hj'
            exact hvalues hfields (by simp [Option.mem_def.1 hj'])
        · obtain ⟨read, heq, hweight⟩ := List.mem_flatMap.1 hmem
          obtain rfl := Option.mem_toList.1 heq
          obtain ⟨j', rfl, hread⟩ := Json.exists_of_optional hrelation
          exact HierarchySpec.isFinite_of_ofJson? (hvalues hfields (by simp)) hread w hweight
      · simp at h
    · simp at h
  | _ => simp [ofJson?] at h

/-- A request that was read from a text has finite weights, so that it is one of those read back. -/
theorem isFinite_of_parse {text : String} {r : Request} (h : parse text = .ok r) :
    ∀ w ∈ r.weights, w.isFinite = true := by
  unfold parse at h
  split at h
  · rename_i read hread
    obtain rfl : read = r := by simpa using h
    obtain ⟨j, hj, hdecoded⟩ := Option.bind_eq_some_iff.1 hread
    exact isFinite_of_ofJson? (Json.parse?_inRange hj) hdecoded
  · simp at h

/-- What is written for a request reads back as that request exactly if its weights are finite. So
it does for whatever request a text holds, and then resolving it comes out the same. -/
theorem toJson_readsBack :
    (∀ r : Request, ofJson? r.toJson = some r ↔ ∀ w ∈ r.weights, w.isFinite = true) ∧
    ∀ (text : String) (r : Request), parse text = .ok r →
      ofJson? r.toJson = some r ∧
      ∀ config, (ofJson? r.toJson).map (resolve config) = some (r.resolve config) := by
  refine ⟨fun r => ⟨isFinite_of_ofJson? r.toJson_inRange, ofJson?_toJson⟩, ?_⟩
  intro text r hparse
  have hback := ofJson?_toJson (isFinite_of_parse hparse)
  refine ⟨hback, fun config => ?_⟩
  rw [hback, Option.map_some]

/-- A text with other names of fields, an escape, a condition that is an array, and a scope that
leaves all to its defaults. -/
def storedText : String :=
  "\x7b\"groups\":[\x7b\"conditions\":[\x7b\"type\":\"text\",\"value\":\"\\u00e9t\\u00e9\"," ++
    "\"not\":true,\"weight\":2.5\x7d,[null,\"b\"]]\x7d],\"scope\":\x7b\x7d\x7d"

def stored : Request where
  version := 1
  entity := none
  body := {
    conditions := none
    combinator := none
    groups := some [⟨[⟨some "text", "été", none, true, some ⟨0x4004000000000000⟩, none⟩,
      ⟨none, "b", none, false, none, none⟩], none⟩]
    groupCombinator := none }
  hierarchy := none
  scope := some ⟨[], [], false⟩

theorem toJson_readsBack_stored :
    parse storedText = .ok stored ∧ ofJson? stored.toJson = some stored ∧
      ∀ w ∈ stored.weights, w.isFinite = true := by
  have hparse : parse storedText = .ok stored := by decide +kernel
  obtain ⟨hback, -⟩ := toJson_readsBack.2 storedText stored hparse
  exact ⟨hparse, hback, (toJson_readsBack.1 stored).1 hback⟩

end Request

end OutlineQuery
