import Mathlib.Data.List.Basic
import OutlineQuery.Request.Resolution

/-!
What a request means, told from the request as it is written: which groups and conditions are kept,
and what is to be reported about the rest, in the order of the request. Resolution gives exactly
that, and fails exactly where a request is not acceptable.
-/
namespace OutlineQuery

theorem except_bind_eq_ok_iff {ε α β : Type} {x : Except ε α} {f : α → Except ε β} {b : β} :
    (x >>= f) = .ok b ↔ ∃ a, x = .ok a ∧ f a = .ok b := by
  cases x with
  | error e => simp [bind, Except.bind]
  | ok a => simp [bind, Except.bind]

section Names

variable {α : Type} {all : List α} {names : α → List String} {ofString? : String → Option α}

/-- A name is missing, or it is one of the names of something. -/
def Known (names : α → List String) (raw : Option String) : Prop :=
  ∀ name ∈ raw, ∃ a, Text.canonicalName name ∈ names a

/-- A name, if it is given and is none of the names of anything. -/
def unknownName? (all : List α) (names : α → List String) (raw : Option String) : Option String :=
  raw.filter fun name => !(all.flatMap names).contains (Text.canonicalName name)

theorem known_none : Known names none := by
  simp [Known]

theorem known_some_iff (h : ∀ s a, ofString? s = some a ↔ Text.canonicalName s ∈ names a)
    {name : String} : Known names (some name) ↔ (ofString? name).isSome = true := by
  simp [Known, Option.isSome_iff_exists, h]

/-- Where the names of everything are those that are recognised, the names that are not recognised
are the unknown ones. -/
theorem unknownName?_eq (hall : ∀ a, a ∈ all)
    (h : ∀ s a, ofString? s = some a ↔ Text.canonicalName s ∈ names a) (name : String) :
    unknownName? all names (some name) = (ofString? name).elim (some name) fun _ => none := by
  have hcontains : (all.flatMap names).contains (Text.canonicalName name) =
      (ofString? name).isSome := by
    rw [Bool.eq_iff_iff, List.contains_iff_mem, List.mem_flatMap, Option.isSome_iff_exists]
    constructor
    · rintro ⟨a, -, ha⟩
      exact ⟨a, (h name a).2 ha⟩
    · rintro ⟨a, ha⟩
      exact ⟨a, hall a, (h name a).1 ha⟩
  rw [unknownName?, Option.filter_some, hcontains]
  cases ofString? name <;> rfl

end Names

namespace Combinator

def names : Combinator → List String
  | and => ["and", "&&", "all"]
  | or => ["or", "||", "any"]

/-- The combinator that a name means, and AND if there is none. -/
def meant (raw : Option String) : Combinator :=
  (raw.bind ofString?).getD .and

theorem ofString?_eq_some_iff (s : String) (k : Combinator) :
    ofString? s = some k ↔ Text.canonicalName s ∈ k.names := by
  unfold ofString?
  split <;> cases k <;> simp_all [names]

/-- A combinator is resolved to what it means unless its name is not known. -/
theorem resolve_eq_ok_iff {place : String} {raw : Option String} {k : Combinator} :
    resolve place raw = .ok k ↔ Known names raw ∧ k = meant raw := by
  cases raw with
  | none => simp [resolve, known_none, meant, eq_comm]
  | some name =>
    rw [known_some_iff ofString?_eq_some_iff]
    cases h : ofString? name <;> simp [resolve, meant, h, eq_comm]

end Combinator

namespace Entity

def names : Entity → List String
  | block => ["block", "blocks"]
  | page => ["page", "pages"]

/-- The entity that a name means, and blocks if there is none. -/
def meant (raw : Option String) : Entity :=
  (raw.bind ofString?).getD .block

theorem ofString?_eq_some_iff (s : String) (e : Entity) :
    ofString? s = some e ↔ Text.canonicalName s ∈ e.names := by
  unfold ofString?
  split <;> cases e <;> simp_all [names]

theorem resolveEntity_eq_ok_iff {raw : Option String} {e : Entity} :
    Request.resolveEntity raw = .ok e ↔ Known names raw ∧ e = meant raw := by
  cases raw with
  | none => simp [Request.resolveEntity, known_none, meant, eq_comm]
  | some name =>
    rw [known_some_iff ofString?_eq_some_iff]
    cases h : ofString? name <;> simp [Request.resolveEntity, meant, h, eq_comm]

/-- Blocks are meant if no entity is named or one of their names is. -/
theorem meant_eq_block_iff {raw : Option String} (h : Known names raw) :
    meant raw = .block ↔ ∀ name ∈ raw, Text.canonicalName name ∈ names .block := by
  cases raw with
  | none => simp [meant]
  | some name =>
    obtain ⟨e, he⟩ := Option.isSome_iff_exists.1 ((known_some_iff ofString?_eq_some_iff).1 h)
    simp [meant, ← ofString?_eq_some_iff, he]

end Entity

namespace Kind

def names : Kind → List String
  | text => ["text", "literal", "keyword"]
  | pageReference => ["page_reference", "page_ref", "page", "tag", "reference"]
  | blockReference => ["block_reference", "block_ref", "block"]
  | pattern => ["pattern", "regex", "regexp"]

theorem ofString?_eq_some_iff (s : String) (k : Kind) :
    ofString? s = some k ↔ Text.canonicalName s ∈ k.names := by
  unfold ofString?
  split <;> cases k <;> simp_all [names]

theorem mem_all (k : Kind) : k ∈ all := by
  cases k <;> decide

end Kind

namespace MatchMode

def names : MatchMode → List String
  | exact => ["exact", "equals"]
  | contains => ["contains", "substring"]
  | pattern => ["pattern", "regex"]

theorem ofString?_eq_some_iff (s : String) (mode : MatchMode) :
    ofString? s = some mode ↔ Text.canonicalName s ∈ mode.names := by
  unfold ofString?
  split <;> cases mode <;> simp_all [names]

theorem mem_all (mode : MatchMode) : mode ∈ all := by
  cases mode <;> decide

end MatchMode

namespace ConditionSpec

/-- The kind that is meant: an unknown one is text. -/
def kindMeant (c : ConditionSpec) : Kind :=
  (c.kind.bind Kind.ofString?).getD .text

/-- The mode that is meant: an unknown one is the default of the kind. -/
def modeMeant (c : ConditionSpec) : MatchMode :=
  (c.mode.bind MatchMode.ofString?).getD c.kindMeant.defaultMode

/-- The condition that is meant, if it says something. -/
def meant (c : ConditionSpec) : Condition :=
  ⟨c.kindMeant, c.value, c.modeMeant, c.negated, resolveWeight c.weight,
    resolveExpansion c.expansion⟩

def unknownKind? (c : ConditionSpec) : Option String :=
  unknownName? Kind.all Kind.names c.kind

def unknownMode? (c : ConditionSpec) : Option String :=
  unknownName? MatchMode.all MatchMode.names c.mode

def isSuspect (c : ConditionSpec) : Bool :=
  c.meant.isRaw && !Regex.isAccepted c.value

def notes (place : String) (c : ConditionSpec) : List Diagnostic :=
  if Text.isBlankText c.value then
    [.warn .emptyValue (place ++ ": empty value; condition skipped")]
  else
    (c.unknownKind?.toList.map fun name =>
      .warn .unknownKind (place ++ ": unknown kind '" ++ name ++ "'; treated as text")) ++
    (c.unknownMode?.toList.map fun name =>
      .warn .unknownKind (place ++ ": unknown match mode '" ++ name ++ "'; using " ++
        c.kindMeant.defaultMode.title)) ++
    if c.isSuspect then
      [.warn .suspectPattern
        (place ++ ": pattern does not compile locally (<regex>); the engine may reject it")]
    else []

def usable (cs : List ConditionSpec) : List ConditionSpec :=
  cs.filter (·.isUsable)

def placeIn (group : String) (i : Nat) : String :=
  s!"{group}.conditions[{i}]"

/-- A kind is always resolved; a name that is not known is noted. -/
theorem resolveKind_eq (place : String) (c : ConditionSpec) :
    resolveKind place c.kind = ⟨c.kindMeant, c.unknownKind?.toList.map fun name =>
      .warn .unknownKind (place ++ ": unknown kind '" ++ name ++ "'; treated as text")⟩ := by
  cases hkind : c.kind with
  | none => simp [resolveKind, kindMeant, unknownKind?, unknownName?, hkind]
  | some name =>
    have hunknown := unknownName?_eq Kind.mem_all Kind.ofString?_eq_some_iff name
    cases h : Kind.ofString? name <;>
      simp [resolveKind, kindMeant, unknownKind?, hunknown, hkind, h]

/-- A mode is always resolved too, to the default of the kind if its name is not known. -/
theorem resolveMode_eq (place : String) (c : ConditionSpec) :
    resolveMode place c.kindMeant c.mode = ⟨c.modeMeant, c.unknownMode?.toList.map fun name =>
      .warn .unknownKind (place ++ ": unknown match mode '" ++ name ++ "'; using " ++
        c.kindMeant.defaultMode.title)⟩ := by
  cases hmode : c.mode with
  | none => simp [resolveMode, modeMeant, unknownMode?, unknownName?, hmode]
  | some name =>
    have hunknown := unknownName?_eq MatchMode.mem_all MatchMode.ofString?_eq_some_iff name
    cases h : MatchMode.ofString? name <;>
      simp [resolveMode, modeMeant, unknownMode?, hunknown, hmode, h]

/-- A condition is kept as what it means if it can be used, and what is noted about it is told
beforehand either way. -/
theorem resolve_eq (place : String) (c : ConditionSpec) :
    c.resolve place = ⟨if c.isUsable then some c.meant else none, c.notes place⟩ := by
  unfold resolve notes
  cases hblank : Text.isBlankText c.value with
  | true => simp [isUsable, hblank]
  | false =>
    simp only [isUsable, hblank, Bool.not_false, if_true, Bool.false_eq_true, if_false,
      resolveKind_eq, resolveMode_eq]
    rfl

/-- Conditions are resolved one by one; the number in the place counts those left out too. -/
theorem resolveAll_eq (place : String) (i : Nat) (cs : List ConditionSpec) :
    resolveAll place i cs =
      ⟨(usable cs).map meant, (cs.zipIdx i).flatMap fun c => c.1.notes (placeIn place c.2)⟩ := by
  induction cs generalizing i with
  | nil => rfl
  | cons c rest ih =>
    have hfirst : (if c.isUsable then some c.meant else none).toList ++ (usable rest).map meant =
        (usable (c :: rest)).map meant := by
      cases h : c.isUsable <;> simp [usable, h]
    rw [resolveAll, ih, resolve_eq, hfirst]
    rfl

end ConditionSpec

namespace GroupSpec

/-- Whether some condition of a group says something. -/
def isUsable (g : GroupSpec) : Bool :=
  g.conditions.any (·.isUsable)

/-- The group that is meant, if it says something. -/
def meant (g : GroupSpec) : Group :=
  ⟨(ConditionSpec.usable g.conditions).map ConditionSpec.meant, .meant g.combinator⟩

/-- What is to be reported about a group at a place: first about its conditions, then about the
group itself. -/
def notes (place : String) (g : GroupSpec) : List Diagnostic :=
  (g.conditions.zipIdx.flatMap fun c => c.1.notes (ConditionSpec.placeIn place c.2)) ++
    if g.isUsable then []
    else [.warn .emptyGroup (place ++ ": no usable conditions; group skipped")]

theorem isEmpty_usable (g : GroupSpec) :
    ((ConditionSpec.usable g.conditions).map ConditionSpec.meant).isEmpty = !g.isUsable := by
  cases h : g.isUsable with
  | true =>
    obtain ⟨c, hc, hcu⟩ := List.any_eq_true.1 h
    have hne : ConditionSpec.usable g.conditions ≠ [] :=
      List.ne_nil_of_mem (List.mem_filter.2 ⟨hc, hcu⟩)
    simpa using hne
  | false =>
    have hnone : ConditionSpec.usable g.conditions = [] :=
      List.filter_eq_nil_iff.2 (List.any_eq_false.1 h)
    simp [hnone]

/-- Of a group only the combinator can fail. -/
theorem resolve_eq (place : String) (g : GroupSpec) :
    g.resolve place = Combinator.resolve place g.combinator >>= fun k =>
      .ok ⟨if g.isUsable then
        some ⟨(ConditionSpec.usable g.conditions).map ConditionSpec.meant, k⟩ else none,
        g.notes place⟩ := by
  unfold resolve notes
  -- The combinator is asked for first, also if no condition is kept.
  refine congrArg _ (funext fun k => ?_)
  simp only [ConditionSpec.resolveAll_eq, isEmpty_usable]
  cases g.isUsable with
  | true => simp [pure, Except.pure]
  | false => rfl

/-- A group is resolved to what it means, or left out if none of its conditions can be used. -/
theorem resolve_eq_ok_iff {place : String} {g : GroupSpec} {n : Noted (Option Group)} :
    g.resolve place = .ok n ↔ Known Combinator.names g.combinator ∧
      n = ⟨if g.isUsable then some g.meant else none, g.notes place⟩ := by
  simp only [resolve_eq, except_bind_eq_ok_iff, Combinator.resolve_eq_ok_iff, Except.ok.injEq]
  constructor
  · rintro ⟨k, ⟨hknown, rfl⟩, rfl⟩
    exact ⟨hknown, rfl⟩
  · rintro ⟨hknown, rfl⟩
    exact ⟨_, ⟨hknown, rfl⟩, rfl⟩

def usable (gs : List GroupSpec) : List GroupSpec :=
  gs.filter (·.isUsable)

/-- Leaving out groups loses no condition: theirs are left out anyway. -/
theorem flatMap_conditions_meant (gs : List GroupSpec) :
    ((usable gs).map meant).flatMap (·.conditions) =
      (ConditionSpec.usable (gs.flatMap (·.conditions))).map ConditionSpec.meant := by
  induction gs with
  | nil => rfl
  | cons g rest ih =>
    rw [List.flatMap_cons, ConditionSpec.usable, List.filter_append, List.map_append]
    refine Eq.trans ?_ (congrArg (g.meant.conditions ++ ·) ih)
    cases h : g.isUsable with
    | true => simp [usable, h]
    | false =>
      -- A group that is left out has no condition that is kept.
      have hnone : g.meant.conditions = [] := by simpa [meant, h] using g.isEmpty_usable
      simp [usable, h, hnone]

/-- Groups are resolved one by one, also those left out, so their combinators must be known. -/
theorem resolveAll_eq_ok_iff {place : Nat → String} {i : Nat} {gs : List GroupSpec}
    {n : Noted (List Group)} :
    resolveAll place i gs = .ok n ↔ (∀ g ∈ gs, Known Combinator.names g.combinator) ∧
      n = ⟨(usable gs).map meant, (gs.zipIdx i).flatMap fun g => g.1.notes (place g.2)⟩ := by
  induction gs generalizing i n with
  | nil => simp [resolveAll, usable, eq_comm]
  | cons g rest ih =>
    have hkept : (if g.isUsable then some g.meant else none).toList ++ (usable rest).map meant =
        (usable (g :: rest)).map meant := by
      cases h : g.isUsable <;> simp [usable, h]
    simp only [resolveAll, except_bind_eq_ok_iff, resolve_eq_ok_iff, ih, List.forall_mem_cons]
    constructor
    · rintro ⟨first, ⟨hfirst, rfl⟩, others, ⟨hothers, rfl⟩, h⟩
      obtain rfl := Except.ok.inj h
      refine ⟨⟨hfirst, hothers⟩, ?_⟩
      rw [hkept]
      rfl
    · rintro ⟨⟨hfirst, hothers⟩, rfl⟩
      refine ⟨_, ⟨hfirst, rfl⟩, _, ⟨hothers, rfl⟩, ?_⟩
      rw [hkept]
      rfl

end GroupSpec

namespace BodySpec

def groupPlace (place : String) (i : Nat) : String :=
  joinPath place s!"groups[{i}]"

/-- The groups of a group set, each with its place. A list of conditions is one group. -/
def sites (place : String) (b : BodySpec) : List (String × GroupSpec) :=
  match b.conditions, b.groups with
  | some conditions, none => [(joinPath place "conditions", ⟨conditions, b.combinator⟩)]
  | none, some groups => groups.zipIdx.map fun g => (groupPlace place g.2, g.1)
  | _, _ => []

def groupSpecs (b : BodySpec) : List GroupSpec :=
  (b.sites "").map Prod.snd

def conditionSpecs (b : BodySpec) : List ConditionSpec :=
  b.groupSpecs.flatMap (·.conditions)

/-- The name for how the groups combine, which says something only where groups are given. -/
def setCombinator (b : BodySpec) : Option String :=
  b.groups.bind fun _ => b.groupCombinator

/-- The group set that is meant. -/
def meant (b : BodySpec) : GroupSet :=
  ⟨(GroupSpec.usable b.groupSpecs).map GroupSpec.meant, .meant b.setCombinator⟩

def notes (place : String) (b : BodySpec) : List Diagnostic :=
  (b.sites place).flatMap fun site => site.2.notes site.1

structure Acceptable (b : BodySpec) : Prop where
  /-- There is a list of conditions or a list of groups, and not both. -/
  one : b.conditions.isSome ≠ b.groups.isSome
  known : ∀ raw ∈ b.setCombinator :: b.groupSpecs.map (·.combinator), Known Combinator.names raw
  usable : ∃ c ∈ b.conditionSpecs, Text.isBlankText c.value = false

variable {b : BodySpec} {place : String} {n : Noted GroupSet}

section Shapes

variable {cs : List ConditionSpec} {gs : List GroupSpec}

theorem sites_of_conditions (hcs : b.conditions = some cs) (hgroups : b.groups = none) :
    b.sites place = [(joinPath place "conditions", ⟨cs, b.combinator⟩)] := by
  simp [sites, hcs, hgroups]

theorem sites_of_groups (hcs : b.conditions = none) (hgroups : b.groups = some gs) :
    b.sites place = gs.zipIdx.map fun g => (groupPlace place g.2, g.1) := by
  simp [sites, hcs, hgroups]

theorem groupSpecs_of_conditions (hcs : b.conditions = some cs) (hgroups : b.groups = none) :
    b.groupSpecs = [⟨cs, b.combinator⟩] := by
  rw [groupSpecs, sites_of_conditions hcs hgroups, List.map_singleton]

theorem groupSpecs_of_groups (hcs : b.conditions = none) (hgroups : b.groups = some gs) :
    b.groupSpecs = gs := by
  rw [groupSpecs, sites_of_groups hcs hgroups, List.map_map]
  exact List.zipIdx_map_fst 0 gs

/-- A list of conditions is one group; how groups combine is not looked at. -/
theorem resolveGroups_of_conditions (hcs : b.conditions = some cs) (hgroups : b.groups = none) :
    b.resolveGroups place = .ok n ↔
      Known Combinator.names b.combinator ∧ n = ⟨b.meant, b.notes place⟩ := by
  -- The list is one group, and how groups combine is not asked.
  let g : GroupSpec := ⟨cs, b.combinator⟩
  have hmeant : b.meant = ⟨(if g.isUsable then some g.meant else none).toList, .and⟩ := by
    rw [meant, groupSpecs_of_conditions hcs hgroups, setCombinator, hgroups]
    cases h : g.isUsable <;> simp [GroupSpec.usable, g, h, Combinator.meant]
  have hnotes : b.notes place = g.notes (joinPath place "conditions") := by
    rw [notes, sites_of_conditions hcs hgroups, List.flatMap_singleton]
  simp only [resolveGroups, hcs, hgroups, except_bind_eq_ok_iff, GroupSpec.resolve_eq_ok_iff]
  rw [hmeant, hnotes]
  constructor
  · rintro ⟨group, ⟨hknown, rfl⟩, h⟩
    exact ⟨hknown, (Except.ok.inj h).symm⟩
  · rintro ⟨hknown, rfl⟩
    exact ⟨_, ⟨hknown, rfl⟩, rfl⟩

/-- Of a list of groups all combinators are looked at. -/
theorem resolveGroups_of_groups (hcs : b.conditions = none) (hgroups : b.groups = some gs) :
    b.resolveGroups place = .ok n ↔ Known Combinator.names b.groupCombinator ∧
      (∀ g ∈ gs, Known Combinator.names g.combinator) ∧ n = ⟨b.meant, b.notes place⟩ := by
  have hmeant : b.meant =
      ⟨(GroupSpec.usable gs).map GroupSpec.meant, .meant b.groupCombinator⟩ := by
    rw [meant, groupSpecs_of_groups hcs hgroups, setCombinator, hgroups, Option.bind_some]
  have hnotes : b.notes place = gs.zipIdx.flatMap fun g => g.1.notes (groupPlace place g.2) := by
    rw [notes, sites_of_groups hcs hgroups, List.flatMap_map]
  simp only [resolveGroups, hcs, hgroups, except_bind_eq_ok_iff, Combinator.resolve_eq_ok_iff,
    GroupSpec.resolveAll_eq_ok_iff]
  rw [hmeant, hnotes]
  constructor
  · rintro ⟨k, ⟨hset, rfl⟩, kept, ⟨hknown, rfl⟩, h⟩
    exact ⟨hset, hknown, (Except.ok.inj h).symm⟩
  · rintro ⟨hset, hknown, rfl⟩
    exact ⟨_, ⟨hset, rfl⟩, _, ⟨hknown, rfl⟩, rfl⟩

end Shapes

theorem map_snd_sites (place : String) (b : BodySpec) :
    (b.sites place).map Prod.snd = b.groupSpecs := by
  unfold groupSpecs sites
  split <;> simp

/-- A body has conditions or groups and not both, and knows its combinators. -/
theorem resolveGroups_eq_ok_iff :
    b.resolveGroups place = .ok n ↔ b.conditions.isSome ≠ b.groups.isSome ∧
      (∀ raw ∈ b.setCombinator :: b.groupSpecs.map (·.combinator), Known Combinator.names raw) ∧
      n = ⟨b.meant, b.notes place⟩ := by
  cases hcs : b.conditions with
  | none =>
    cases hgroups : b.groups with
    | none => simp [resolveGroups, hcs, hgroups]
    | some gs =>
      rw [resolveGroups_of_groups hcs hgroups]
      simp [setCombinator, hgroups, groupSpecs_of_groups hcs hgroups, and_assoc]
  | some cs =>
    cases hgroups : b.groups with
    | none =>
      rw [resolveGroups_of_conditions hcs hgroups]
      simp [setCombinator, hgroups, known_none, groupSpecs_of_conditions hcs hgroups]
    | some gs => simp [resolveGroups, hcs, hgroups]

/-- Nothing is left of a body whose values are all blank. -/
theorem meant_groups_eq_nil_iff (b : BodySpec) :
    b.meant.groups = [] ↔ ¬∃ c ∈ b.conditionSpecs, Text.isBlankText c.value = false := by
  simp only [meant, GroupSpec.usable, GroupSpec.isUsable, conditionSpecs, ConditionSpec.isUsable,
    List.map_eq_nil_iff, List.filter_eq_nil_iff, List.any_eq_true, Bool.not_eq_true']
  constructor
  · rintro hnone ⟨c, hc, hvalue⟩
    obtain ⟨g, hg, hcg⟩ := List.mem_flatMap.1 hc
    exact hnone g hg ⟨c, hcg, hvalue⟩
  · rintro hnone g hg ⟨c, hcg, hvalue⟩
    exact hnone ⟨c, List.mem_flatMap.2 ⟨g, hg, hcg⟩, hvalue⟩

theorem meant_conditions (b : BodySpec) :
    b.meant.conditions = (ConditionSpec.usable b.conditionSpecs).map ConditionSpec.meant :=
  GroupSpec.flatMap_conditions_meant b.groupSpecs

theorem Acceptable.isEmpty_eq_false (hb : b.Acceptable) : b.isEmpty = false := by
  have hone := hb.one
  unfold isEmpty
  cases hcs : b.conditions <;> cases hgroups : b.groups <;> simp_all

/-- A body is resolved to what it means if it is acceptable, with the notes of all its
conditions. -/
theorem resolve_eq_ok_iff :
    b.resolve place = .ok n ↔ b.Acceptable ∧ n = ⟨b.meant, b.notes place⟩ := by
  simp only [resolve, except_bind_eq_ok_iff, resolveGroups_eq_ok_iff]
  constructor
  · rintro ⟨set, ⟨hone, hknown, rfl⟩, h⟩
    by_cases hnone : b.meant.groups = []
    · simp [hnone] at h
    · rw [if_neg (by simpa using hnone)] at h
      rw [meant_groups_eq_nil_iff, not_not] at hnone
      exact ⟨⟨hone, hknown, hnone⟩, (Except.ok.inj h).symm⟩
  · rintro ⟨hb, rfl⟩
    have hsome : b.meant.groups ≠ [] := by
      rw [ne_eq, meant_groups_eq_nil_iff, not_not]
      exact hb.usable
    refine ⟨_, ⟨hb.one, hb.known, rfl⟩, ?_⟩
    rw [if_neg (by simpa using hsome)]
    rfl

end BodySpec

/-- A hierarchy is resolved side by side, the left one first, and knows its operator. -/
theorem HierarchySpec.resolve_eq_ok_iff {h : HierarchySpec} {n : Noted Relation} :
    h.resolve = .ok n ↔ h.left.Acceptable ∧ h.right.Acceptable ∧
      ∃ operator, Operator.ofString? h.operator = some operator ∧
        n = ⟨⟨h.left.meant, operator, h.right.meant⟩,
          h.left.notes "hierarchy.left" ++ h.right.notes "hierarchy.right"⟩ := by
  unfold resolve
  cases hop : Operator.ofString? h.operator with
  | none => simp
  | some operator =>
    simp only [except_bind_eq_ok_iff, BodySpec.resolve_eq_ok_iff, Option.some.injEq]
    constructor
    · rintro ⟨left, ⟨hleft, rfl⟩, right, ⟨hright, rfl⟩, hn⟩
      exact ⟨hleft, hright, operator, rfl, (Except.ok.inj hn).symm⟩
    · rintro ⟨hleft, hright, _, rfl, rfl⟩
      exact ⟨_, ⟨hleft, rfl⟩, _, ⟨hright, rfl⟩, rfl⟩

/-- The group sets of what a search tests. -/
def Search.Body.sets : Search.Body → List GroupSet
  | .groups set => [set]
  | .hierarchy r => [r.left, r.right]

theorem Search.Body.conditionCount_eq_length (b : Search.Body) :
    b.conditionCount = (b.sets.flatMap (·.conditions)).length := by
  cases b <;> simp [conditionCount, sets, GroupSet.conditionCount]

namespace Request

/-- The group sets of a request as written, each with its place. -/
def sides (r : Request) : List (String × BodySpec) :=
  match r.hierarchy with
  | none => [("", r.body)]
  | some h => [("hierarchy.left", h.left), ("hierarchy.right", h.right)]

def groupSpecs (r : Request) : List GroupSpec :=
  r.sides.flatMap (·.2.groupSpecs)

def conditionSpecs (r : Request) : List ConditionSpec :=
  r.groupSpecs.flatMap (·.conditions)

/-- What is meant to be tested, if the operator is one that there is. -/
def bodyMeant? (r : Request) : Option Search.Body :=
  match r.hierarchy with
  | none => some (.groups r.body.meant)
  | some h => (Operator.ofString? h.operator).map fun operator =>
    .hierarchy ⟨h.left.meant, operator, h.right.meant⟩

def notes (r : Request) : List Diagnostic :=
  r.sides.flatMap fun side => side.2.notes side.1

variable {r : Request} {body : Search.Body}

theorem sets_of_bodyMeant? (h : r.bodyMeant? = some body) :
    body.sets = r.sides.map (·.2.meant) := by
  unfold bodyMeant? at h
  unfold sides
  cases hh : r.hierarchy with
  | none =>
    rw [hh] at h
    obtain rfl := Option.some.inj h
    rfl
  | some spec =>
    rw [hh] at h
    obtain ⟨operator, -, rfl⟩ := Option.map_eq_some_iff.1 h
    rfl

theorem conditionSpecs_eq_flatMap_sides (r : Request) :
    r.conditionSpecs = r.sides.flatMap (·.2.conditionSpecs) :=
  List.flatMap_assoc

/-- The conditions of a search are those of the request that can be used, in order. -/
theorem conditions_of_bodyMeant? (h : r.bodyMeant? = some body) :
    body.sets.flatMap (·.conditions) =
      (ConditionSpec.usable r.conditionSpecs).map ConditionSpec.meant := by
  simp only [sets_of_bodyMeant? h, List.flatMap_map, BodySpec.meant_conditions,
    conditionSpecs_eq_flatMap_sides, ConditionSpec.usable, List.filter_flatMap, List.map_flatMap]

/-- Only an operator can leave a request without meaning. -/
theorem exists_bodyMeant?_iff (r : Request) : (∃ body, r.bodyMeant? = some body) ↔
    ∀ h ∈ r.hierarchy, (Operator.ofString? h.operator).isSome = true := by
  unfold bodyMeant?
  cases r.hierarchy with
  | none => simp
  | some h => simp [Option.isSome_iff_exists]

/-- A request gives what it means for an entity exactly if its group sets can be accepted and a
relation stands alone and is of blocks. -/
theorem resolveBody_eq_ok_iff {e : Entity} {n : Noted Search.Body} :
    r.resolveBody e = .ok n ↔ (∀ h ∈ r.hierarchy, r.body.isEmpty = true ∧ e = .block) ∧
      (∀ side ∈ r.sides, side.2.Acceptable) ∧ r.bodyMeant? = some n.value ∧
      n.notes = r.notes := by
  obtain ⟨value, notes'⟩ := n
  unfold resolveBody bodyMeant? notes sides
  cases hh : r.hierarchy with
  | none =>
    cases hempty : r.body.isEmpty with
    | true =>
      -- There is nothing to test, and a group set of nothing cannot be accepted either.
      have hnone : ¬r.body.Acceptable := fun hb => by simp [hb.isEmpty_eq_false] at hempty
      simp [hnone]
    | false =>
      simp only [except_bind_eq_ok_iff, BodySpec.resolve_eq_ok_iff, and_assoc, exists_and_left,
        exists_eq_left]
      simp [pure, Except.pure, eq_comm]
  | some h =>
    cases hempty : r.body.isEmpty with
    | false => simp
    | true =>
      cases e with
      | page => simp
      | block =>
        simp only [except_bind_eq_ok_iff, HierarchySpec.resolve_eq_ok_iff]
        cases Operator.ofString? h.operator with
        | none => simp
        | some operator => simp [pure, Except.pure, and_assoc, eq_comm]

end Request

end OutlineQuery
