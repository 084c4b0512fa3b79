import OutlineQuery.Proofs.Json.Presentation
import OutlineQuery.Proofs.Request.RoundTrip

/-!
The records that a request is made of, in one table: which fields each of them declares, what says
the same as leaving a field out, and which fields hold further records. Whatever its kind, a record
reads as a value exactly if what it gives to each of its fields meets what the value demands there.
-/
namespace OutlineQuery

open Json (Field string? bool? list?)

/-- Whether a value is an object of which what is kept whole when a request is read can be. -/
def Request.isKept : Json → Bool
  | .obj entries => keptSound entries
  | _ => false

/-- The kinds of records in a request, the request itself included. -/
inductive Record where
  | request
  | hierarchy
  | scope
  | body
  | group
  | condition
deriving DecidableEq, Repr

namespace Record

/-- What stands in a field that holds records: one of them or a list. -/
inductive Content where
  | one (r : Record)
  | many (r : Record)
deriving DecidableEq, Repr

/-- What part a field has in its record. -/
structure Role where
  /-- The value that says the same as leaving the field out, if there is one. -/
  absent : Option Json
  /-- The records that the field holds, if it does. -/
  content : Option Content

namespace Role

def optional : Role := ⟨some .null, none⟩

def defaulted (j : Json) : Role := ⟨some j, none⟩

def required : Role := ⟨none, none⟩

/-- A field of the same part that holds records. -/
def holding (role : Role) (c : Content) : Role := { role with content := some c }

end Role

def fields : Record → List Field
  | request => Request.fields
  | hierarchy => HierarchySpec.fields
  | scope => Scope.fields
  | body => BodySpec.fields
  | group => GroupSpec.fields
  | condition => ConditionSpec.fields

/-- The parts of the fields of a group set, which a request has as well. -/
def bodyRoles : List Role :=
  [.holding .optional (.many condition), .optional, .holding .optional (.many group), .optional]

def roles : Record → List Role
  | request =>
    [.defaulted (.nat Request.currentVersion.toNat), .optional, .holding .optional (.one hierarchy),
      .holding .optional (.one scope)] ++ bodyRoles
  | hierarchy => [.holding .required (.one body), .required, .holding .required (.one body)]
  | scope => [.defaulted (.arr []), .defaulted (.arr []), .defaulted (.bool false)]
  | body => bodyRoles
  | group => [.holding (.defaulted (.arr [])) (.many condition), .optional]
  | condition =>
    [.optional, .defaulted (.str ""), .optional, .defaulted (.bool false), .optional, .optional]

def members (r : Record) : List (Field × Role) :=
  r.fields.zip r.roles

@[reducible] def Value : Record → Type
  | request => Request
  | hierarchy => HierarchySpec
  | scope => Scope
  | body => BodySpec
  | group => GroupSpec
  | condition => ConditionSpec

def read : (r : Record) → Json → Option r.Value
  | request => Request.ofJson?
  | hierarchy => HierarchySpec.ofJson?
  | scope => Scope.ofJson?
  | body => BodySpec.ofJson?
  | group => GroupSpec.ofJson?
  | condition => ConditionSpec.ofJson?

/-- No two fields of a record answer to one key. -/
theorem fields_disjoint (r : Record) : r.fields.Pairwise Field.Disjoint := by
  cases r <;> decide

theorem length_roles (r : Record) : r.roles.length = r.fields.length := by
  cases r <;> rfl

/-- Where a field stands among those declared, its part stands among the parts. -/
theorem roles_getElem? {r : Record} {f : Field} {role : Role} {i : Nat}
    (hmember : (f, role) ∈ r.members) (hplace : r.fields[i]? = some f) : r.roles[i]? = some role := by
  obtain ⟨k, hk⟩ := List.mem_iff_getElem?.1 hmember
  obtain ⟨hfield, hrole⟩ := List.getElem?_zip_eq_some.1 hk
  obtain ⟨hlt, -⟩ := List.getElem?_eq_some_iff.1 hplace
  have hnodup : r.fields.Nodup := Field.nodup_of_disjoint r.fields_disjoint
  obtain rfl := (List.getElem?_inj hlt hnodup).1 (hplace.trans hfield.symm)
  exact hrole

namespace Content

@[reducible] def Value : Content → Type
  | one r => r.Value
  | many r => List r.Value

def read : (c : Content) → Json → Option c.Value
  | one r => r.read
  | many r => list? r.read

end Content

/-! ## What a value demands of the fields -/

/-- What the value of a record demands of one of its fields. Where nothing will do, so will the
value that says the same; and of records it is only asked how they read. -/
structure Demand where
  role : Role
  /-- Whether the demand is met by what is given to the field, if anything is. -/
  Met : Option Json → Prop
  of_absent {j : Json} : role.absent = some j → Met none → Met (some j)
  of_content {c : Content} {j : Json} : role.content = some c → j ≠ .null → Met (some j) →
    ∃ x, c.read j = some x ∧ ∀ k, k ≠ .null → c.read k = some x → Met (some k)

namespace Demand

variable {α : Type}

def optional (read : Json → Option α) (a : Option α) : Demand where
  role := .optional
  Met slot := Json.optional read slot = some a
  of_absent hj h := Option.some.inj hj ▸ h
  of_content h := nomatch h

def defaulted (default : α) (read : Json → Option α) (j : Json) (hj : read j = some default)
    (a : α) : Demand where
  role := .defaulted j
  Met slot := Json.defaulted default read slot = some a
  of_absent hk h := by
    obtain rfl := Option.some.inj hk
    rw [Json.defaulted_some, hj]
    exact h
  of_content h := nomatch h

def required (read : Json → Option α) (a : α) : Demand where
  role := .required
  Met slot := Json.required read slot = some a
  of_absent h := nomatch h
  of_content h := nomatch h

/-- Records that may be left out or null read as this. -/
def optionalRecords (c : Content) (x : Option c.Value) : Demand where
  role := .holding .optional c
  Met slot := Json.optional c.read slot = some x
  of_absent hj h := Option.some.inj hj ▸ h
  of_content hc hj h := by
    obtain rfl := Option.some.inj hc
    rw [Json.optional_of_ne_null _ hj] at h
    obtain ⟨y, hy, rfl⟩ := Option.map_eq_some_iff.1 h
    refine ⟨y, hy, fun k hk hread => ?_⟩
    rw [Json.optional_of_ne_null _ hk, hread]
    rfl

/-- Records that are an empty list when left out read as this. -/
def defaultedRecords (r : Record) (xs : List r.Value) : Demand where
  role := .holding (.defaulted (.arr [])) (.many r)
  Met slot := Json.defaulted [] (list? r.read) slot = some xs
  of_absent hj h := by
    obtain rfl := Option.some.inj hj
    rw [Json.defaulted_some]
    exact h
  of_content hc _ h := by
    obtain rfl := Option.some.inj hc
    exact ⟨xs, h, fun _ _ hread => hread⟩

/-- A record that must be given reads as this. -/
def requiredRecord (r : Record) (x : r.Value) : Demand where
  role := .holding .required (.one r)
  Met slot := Json.required r.read slot = some x
  of_absent h := nomatch h
  of_content hc _ h := by
    obtain rfl := Option.some.inj hc
    exact ⟨x, h, fun _ _ hread => hread⟩

@[simp] theorem met_optional {read : Json → Option α} {a : Option α} {slot : Option Json} :
    (optional read a).Met slot ↔ Json.optional read slot = some a := Iff.rfl

@[simp] theorem met_defaulted {default a : α} {read : Json → Option α} {j : Json}
    {hj : read j = some default} {slot : Option Json} :
    (defaulted default read j hj a).Met slot ↔ Json.defaulted default read slot = some a := Iff.rfl

@[simp] theorem met_required {read : Json → Option α} {a : α} {slot : Option Json} :
    (required read a).Met slot ↔ Json.required read slot = some a := Iff.rfl

@[simp] theorem met_optionalRecords {c : Content} {x : Option c.Value} {slot : Option Json} :
    (optionalRecords c x).Met slot ↔ Json.optional c.read slot = some x := Iff.rfl

@[simp] theorem met_defaultedRecords {r : Record} {xs : List r.Value} {slot : Option Json} :
    (defaultedRecords r xs).Met slot ↔ Json.defaulted [] (list? r.read) slot = some xs := Iff.rfl

@[simp] theorem met_requiredRecord {r : Record} {x : r.Value} {slot : Option Json} :
    (requiredRecord r x).Met slot ↔ Json.required r.read slot = some x := Iff.rfl

end Demand

def bodyDemands (b : BodySpec) : List Demand :=
  [.optionalRecords (.many condition) b.conditions, .optional string? b.combinator,
    .optionalRecords (.many group) b.groups, .optional string? b.groupCombinator]

/-- What the value of a record demands of each of its fields. -/
def demands : (r : Record) → r.Value → List Demand
  | request, x =>
    [.defaulted Request.currentVersion Request.version? _ (Request.version?_nat _) x.version,
      .optional string? x.entity, .optionalRecords (.one hierarchy) x.hierarchy,
      .optionalRecords (.one scope) x.scope] ++ bodyDemands x.body
  | hierarchy, x =>
    [.requiredRecord body x.left, .required string? x.operator, .requiredRecord body x.right]
  | scope, x =>
    [.defaulted [] (list? string?) (.arr []) (Json.list?_nil _) x.blockIds,
      .defaulted [] (list? string?) (.arr []) (Json.list?_nil _) x.pageIds,
      .defaulted false bool? (.bool false) (Json.bool?_bool _) x.excludeJournals]
  | body, x => bodyDemands x
  | group, x => [.defaultedRecords condition x.conditions, .optional string? x.combinator]
  | condition, x =>
    [.optional string? x.kind, .defaulted "" string? (.str "") (Json.string?_str _) x.value,
      .optional string? x.mode, .defaulted false bool? (.bool false) (Json.bool?_bool _) x.negated,
      .optional Json.binary64? x.weight, .optional string? x.expansion]

/-- What a record demands of its fields follows their roles, whatever the value. -/
theorem map_role_demands (r : Record) (x : r.Value) : (r.demands x).map (·.role) = r.roles := by
  cases r <;> rfl

/-- What a record gives to its fields meets what a value demands of them. -/
def Meets (r : Record) (j : Json) (x : r.Value) : Prop :=
  ∃ slots, j.record? r.fields = some slots ∧ List.Forall₂ Demand.Met (r.demands x) slots

/-! ## One kind of record after another -/

section Kinds

variable {j : Json}

/-- A condition is read from a record whose fields meet the demands of its values, and so on for the
other records. -/
theorem read_condition_iff {x : ConditionSpec} :
    ConditionSpec.ofJson? j = some x ↔ condition.Meets j x := by
  constructor
  · intro h
    unfold ConditionSpec.ofJson? at h
    split at h
    · rename_i hrecord
      simp only [Option.bind_eq_bind, Option.bind_eq_some_iff, Option.pure_def,
        Option.some.injEq] at h
      obtain ⟨_, hkind, _, hvalue, _, hmode, _, hnegated, _, hweight, _, hexpansion, rfl⟩ := h
      exact ⟨_, hrecord, .cons hkind (.cons hvalue (.cons hmode (.cons hnegated (.cons hweight
        (.cons hexpansion .nil)))))⟩
    · cases h
  · rintro ⟨slots, hrecord, hmet⟩
    -- There are as many slots as demands, which is how many the reader asks for.
    simp only [demands, List.forall₂_cons_left_iff, List.forall₂_nil_left_iff, Demand.met_optional,
      Demand.met_defaulted] at hmet
    obtain ⟨_, _, hkind, ⟨_, _, hvalue, ⟨_, _, hmode, ⟨_, _, hnegated, ⟨_, _, hweight,
      ⟨_, _, hexpansion, rfl, rfl⟩, rfl⟩, rfl⟩, rfl⟩, rfl⟩, rfl⟩ := hmet
    rw [fields] at hrecord
    simp only [ConditionSpec.ofJson?, hrecord, hkind, hvalue, hmode, hnegated, hweight, hexpansion]
    rfl

theorem read_group_iff {x : GroupSpec} : GroupSpec.ofJson? j = some x ↔ group.Meets j x := by
  constructor
  · intro h
    unfold GroupSpec.ofJson? at h
    split at h
    · rename_i hrecord
      simp only [Option.bind_eq_bind, Option.bind_eq_some_iff, Option.pure_def,
        Option.some.injEq] at h
      obtain ⟨_, hconditions, _, hcombinator, rfl⟩ := h
      exact ⟨_, hrecord, .cons hconditions (.cons hcombinator .nil)⟩
    · cases h
  · rintro ⟨slots, hrecord, hmet⟩
    simp only [demands, List.forall₂_cons_left_iff, List.forall₂_nil_left_iff, Demand.met_optional,
      Demand.met_defaultedRecords, read] at hmet
    obtain ⟨_, _, hconditions, ⟨_, _, hcombinator, rfl, rfl⟩, rfl⟩ := hmet
    rw [fields] at hrecord
    simp only [GroupSpec.ofJson?, hrecord, hconditions, hcombinator]
    rfl

/-- The fields of a body are the same wherever they stand. -/
theorem ofFields?_iff {x : BodySpec} {conditions combinator groups groupCombinator : Option Json} :
    BodySpec.ofFields? conditions combinator groups groupCombinator = some x ↔
      List.Forall₂ Demand.Met (bodyDemands x) [conditions, combinator, groups, groupCombinator] := by
  simp only [BodySpec.ofFields?, Option.bind_eq_bind, Option.bind_eq_some_iff, Option.pure_def,
    Option.some.injEq, bodyDemands, List.forall₂_cons, List.forall₂_nil_right_iff,
    Demand.met_optional, Demand.met_optionalRecords, Content.read, read]
  constructor
  · rintro ⟨_, hconditions, _, hcombinator, _, hgroups, _, hgroupCombinator, rfl⟩
    exact ⟨hconditions, hcombinator, hgroups, hgroupCombinator, trivial⟩
  · rintro ⟨hconditions, hcombinator, hgroups, hgroupCombinator, -⟩
    exact ⟨_, hconditions, _, hcombinator, _, hgroups, _, hgroupCombinator, rfl⟩

theorem read_body_iff {x : BodySpec} : BodySpec.ofJson? j = some x ↔ body.Meets j x := by
  constructor
  · intro h
    unfold BodySpec.ofJson? at h
    split at h
    · rename_i hrecord
      exact ⟨_, hrecord, ofFields?_iff.1 h⟩
    · cases h
  · rintro ⟨slots, hrecord, hmet⟩
    obtain ⟨_, _, _, _, rfl⟩ := List.length_eq_four.1 hmet.length_eq.symm
    rw [fields] at hrecord
    simp only [BodySpec.ofJson?, hrecord]
    exact ofFields?_iff.2 hmet

theorem read_hierarchy_iff {x : HierarchySpec} :
    HierarchySpec.ofJson? j = some x ↔ hierarchy.Meets j x := by
  constructor
  · intro h
    unfold HierarchySpec.ofJson? at h
    split at h
    · rename_i hrecord
      simp only [Option.bind_eq_bind, Option.bind_eq_some_iff, Option.pure_def,
        Option.some.injEq] at h
      obtain ⟨_, hleft, _, hoperator, _, hright, rfl⟩ := h
      exact ⟨_, hrecord, .cons hleft (.cons hoperator (.cons hright .nil))⟩
    · cases h
  · rintro ⟨slots, hrecord, hmet⟩
    simp only [demands, List.forall₂_cons_left_iff, List.forall₂_nil_left_iff, Demand.met_required,
      Demand.met_requiredRecord, read] at hmet
    obtain ⟨_, _, hleft, ⟨_, _, hoperator, ⟨_, _, hright, rfl, rfl⟩, rfl⟩, rfl⟩ := hmet
    rw [fields] at hrecord
    simp only [HierarchySpec.ofJson?, hrecord, hleft, hoperator, hright]
    rfl

theorem read_scope_iff {x : Scope} : Scope.ofJson? j = some x ↔ scope.Meets j x := by
  constructor
  · intro h
    unfold Scope.ofJson? at h
    split at h
    · rename_i hrecord
      simp only [Option.bind_eq_bind, Option.bind_eq_some_iff, Option.pure_def,
        Option.some.injEq] at h
      obtain ⟨_, hblocks, _, hpages, _, hjournals, rfl⟩ := h
      exact ⟨_, hrecord, .cons hblocks (.cons hpages (.cons hjournals .nil))⟩
    · cases h
  · rintro ⟨slots, hrecord, hmet⟩
    simp only [demands, List.forall₂_cons_left_iff, List.forall₂_nil_left_iff,
      Demand.met_defaulted] at hmet
    obtain ⟨_, _, hblocks, ⟨_, _, hpages, ⟨_, _, hjournals, rfl, rfl⟩, rfl⟩, rfl⟩ := hmet
    rw [fields] at hrecord
    simp only [Scope.ofJson?, hrecord, hblocks, hpages, hjournals]
    rfl

/-- A request makes one more demand: what is kept whole of it is sound. -/
theorem read_request_iff {x : Request} :
    Request.ofJson? j = some x ↔ Request.isKept j = true ∧ request.Meets j x := by
  constructor
  · intro h
    unfold Request.ofJson? at h
    split at h
    · split at h
      · rename_i hkept
        split at h
        · rename_i hfields
          simp only [Option.bind_eq_bind, Option.bind_eq_some_iff, Option.pure_def,
            Option.some.injEq] at h
          obtain ⟨_, hversion, _, hentity, _, hbody, _, hhierarchy, _, hscope, rfl⟩ := h
          exact ⟨hkept, _, hfields, .cons hversion (.cons hentity (.cons hhierarchy (.cons hscope
            (ofFields?_iff.1 hbody))))⟩
        · cases h
      · cases h
    · cases h
  · rintro ⟨hkept, slots, hrecord, hmet⟩
    cases j with
    | obj entries =>
      simp only [demands, List.cons_append, List.nil_append, List.forall₂_cons_left_iff,
        Demand.met_defaulted, Demand.met_optional, Demand.met_optionalRecords, Content.read,
        read] at hmet
      obtain ⟨_, _, hversion, ⟨_, _, hentity, ⟨_, _, hhierarchy, ⟨_, _, hscope, hbody, rfl⟩, rfl⟩,
        rfl⟩, rfl⟩ := hmet
      obtain ⟨_, _, _, _, rfl⟩ := List.length_eq_four.1 hbody.length_eq.symm
      have hbody := ofFields?_iff.2 hbody
      have hkept : Request.keptSound entries = true := hkept
      rw [Json.record?, fields] at hrecord
      simp only [Request.ofJson?, hkept, if_true, hrecord, hversion, hentity, hbody, hhierarchy,
        hscope]
      rfl
    | _ => simp [Request.isKept] at hkept

end Kinds

/-- Whether what a record keeps whole can be, which only a request asks. -/
def keeps : Record → Json → Bool
  | request, j => Request.isKept j
  | _, _ => true

/-- No other record keeps anything whole. -/
theorem keeps_of_ne_request {r : Record} (h : r ≠ request) (j : Json) : r.keeps j = true := by
  cases r with
  | request => exact absurd rfl h
  | _ => rfl

/-- A record reads as a value exactly if what it gives to each field is what the value demands. -/
theorem read_eq_some_iff {r : Record} {j : Json} {x : r.Value} :
    r.read j = some x ↔ r.keeps j = true ∧ r.Meets j x := by
  cases r with
  | request => exact read_request_iff
  | hierarchy => exact read_hierarchy_iff.trans (and_iff_right rfl).symm
  | scope => exact read_scope_iff.trans (and_iff_right rfl).symm
  | body => exact read_body_iff.trans (and_iff_right rfl).symm
  | group => exact read_group_iff.trans (and_iff_right rfl).symm
  | condition => exact read_condition_iff.trans (and_iff_right rfl).symm

end Record

end OutlineQuery
