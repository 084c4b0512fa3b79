import OutlineQuery.Proofs.Compiled.Annotations
import OutlineQuery.Proofs.Request.Meaning
import OutlineQuery.Request.Compilation

/-!
The weights and expansions of a request have no part in compiling it: what comes out, be it an error
or a compiled search with its reports, is the same whatever they are.
-/
namespace OutlineQuery

section Mapping

variable {ε α β γ : Type}

theorem except_map_bind (x : Except ε α) (f : α → β) (g : β → Except ε γ) :
    (x.map f >>= g) = x >>= fun a => g (f a) := by
  cases x <;> rfl

theorem except_bind_map (x : Except ε α) (g : α → Except ε β) (f : β → γ) :
    (x >>= g).map f = x >>= fun a => (g a).map f := by
  cases x <;> rfl

/-- A value changed, and what is reported about it kept. -/
def Noted.map (f : α → β) (n : Noted α) : Noted β :=
  ⟨f n.value, n.notes⟩

end Mapping

def ConditionSpec.bare (c : ConditionSpec) : ConditionSpec :=
  { c with weight := none, expansion := none }

def GroupSpec.bare (g : GroupSpec) : GroupSpec :=
  { g with conditions := g.conditions.map ConditionSpec.bare }

def BodySpec.bare (b : BodySpec) : BodySpec :=
  { b with
    conditions := b.conditions.map (·.map ConditionSpec.bare)
    groups := b.groups.map (·.map GroupSpec.bare) }

def HierarchySpec.bare (h : HierarchySpec) : HierarchySpec :=
  { h with left := h.left.bare, right := h.right.bare }

/-- A request without the weights and expansions of its conditions. -/
def Request.bare (r : Request) : Request :=
  { r with body := r.body.bare, hierarchy := r.hierarchy.map HierarchySpec.bare }

namespace ConditionSpec

theorem isUsable_bare (c : ConditionSpec) : c.bare.isUsable = c.isUsable := rfl

theorem meant_bare (c : ConditionSpec) : c.bare.meant = c.meant.bare := rfl

theorem notes_bare (place : String) (c : ConditionSpec) : c.bare.notes place = c.notes place := rfl

/-- Which conditions are left out depends on their values only. -/
theorem usable_map_bare (cs : List ConditionSpec) :
    (usable (cs.map bare)).map meant = ((usable cs).map meant).map Condition.bare := by
  simp only [usable, List.filter_map, List.map_map, Function.comp_def, isUsable_bare, meant_bare]

end ConditionSpec

namespace GroupSpec

theorem isUsable_bare (g : GroupSpec) : g.bare.isUsable = g.isUsable := by
  simp only [isUsable, bare, List.any_map, Function.comp_def, ConditionSpec.isUsable_bare]

theorem notes_bare (place : String) (g : GroupSpec) : g.bare.notes place = g.notes place := by
  simp only [notes, isUsable_bare]
  simp only [bare, List.zipIdx_map, List.flatMap_map, Prod.map_fst, Prod.map_snd, id_eq,
    ConditionSpec.notes_bare]

/-- A group without annotations is resolved to the group without annotations, with the same notes
and errors. -/
theorem resolve_bare (place : String) (g : GroupSpec) :
    g.bare.resolve place = (g.resolve place).map (Noted.map (Option.map Group.bare)) := by
  rw [resolve_eq, resolve_eq, except_bind_map, notes_bare, isUsable_bare]
  refine congrArg _ (funext fun k => ?_)
  simp only [bare, ConditionSpec.usable_map_bare, Except.map, Noted.map]
  split <;> rfl

/-- The first group that fails is the same one. -/
theorem resolveAll_bare (place : Nat → String) (i : Nat) (gs : List GroupSpec) :
    resolveAll place i (gs.map bare) =
      (resolveAll place i gs).map (Noted.map (List.map Group.bare)) := by
  induction gs generalizing i with
  | nil => rfl
  | cons g rest ih =>
    simp only [List.map_cons, resolveAll, resolve_bare, ih, except_map_bind, except_bind_map]
    refine congrArg _ (funext fun first => congrArg _ (funext fun others => ?_))
    simp only [pure, Except.pure, Except.map, Noted.map, List.map_append, Option.toList_map]

end GroupSpec

namespace BodySpec

theorem resolveGroups_bare (place : String) (b : BodySpec) :
    b.bare.resolveGroups place = (b.resolveGroups place).map (Noted.map GroupSet.bare) := by
  obtain ⟨conditions, combinator, groups, groupCombinator⟩ := b
  rcases conditions with _ | conditions <;> rcases groups with _ | groups
  · rfl
  · simp only [bare, resolveGroups, Option.map_none, Option.map_some, GroupSpec.resolveAll_bare,
      except_map_bind, except_bind_map]
    rfl
  · have hgroup := GroupSpec.resolve_bare (joinPath place "conditions") ⟨conditions, combinator⟩
    simp only [GroupSpec.bare] at hgroup
    simp only [bare, resolveGroups, Option.map_none, Option.map_some, hgroup, except_map_bind,
      except_bind_map]
    refine congrArg _ (funext fun group => ?_)
    simp only [pure, Except.pure, Except.map, Noted.map, GroupSet.bare, Option.toList_map]
  · rfl

theorem resolve_bare (place : String) (b : BodySpec) :
    b.bare.resolve place = (b.resolve place).map (Noted.map GroupSet.bare) := by
  simp only [resolve, resolveGroups_bare, except_map_bind, except_bind_map]
  refine congrArg _ (funext fun set => ?_)
  simp only [Noted.map, GroupSet.bare, List.isEmpty_map]
  split <;> rfl

theorem isEmpty_bare (b : BodySpec) : b.bare.isEmpty = b.isEmpty := by
  simp only [isEmpty, bare, Option.isNone_map]

end BodySpec

theorem HierarchySpec.resolve_bare (h : HierarchySpec) :
    h.bare.resolve = h.resolve.map
      (Noted.map fun r => { r with left := r.left.bare, right := r.right.bare }) := by
  have hoperator : h.bare.operator = h.operator := rfl
  unfold resolve
  rw [hoperator]
  cases Operator.ofString? h.operator with
  | none => rfl
  | some operator =>
    simp only [bare, BodySpec.resolve_bare, except_map_bind, except_bind_map]
    rfl

namespace Request

/-- A request without annotations has the body without annotations. -/
theorem resolveBody_bare (r : Request) (e : Entity) :
    r.bare.resolveBody e = (r.resolveBody e).map (Noted.map Search.Body.bare) := by
  obtain ⟨version, entity, body, hierarchy, scope⟩ := r
  rcases hierarchy with _ | h <;> simp only [resolveBody, bare, Option.map_none, Option.map_some,
    BodySpec.isEmpty_bare] <;> cases body.isEmpty
  · simp only [BodySpec.resolve_bare, except_map_bind, except_bind_map]
    rfl
  · rfl
  · rfl
  · cases e with
    | page => rfl
    | block =>
      simp only [HierarchySpec.resolve_bare, except_map_bind, except_bind_map]
      rfl

/-- Resolving and dropping annotations can be done in either order. -/
theorem resolve_bare (config : Config) (r : Request) :
    r.bare.resolve config = (r.resolve config).map (Noted.map Search.bare) := by
  have hentity : r.bare.entity = r.entity := rfl
  have hscope : r.bare.scope = r.scope := rfl
  have hversion : r.bare.version = r.version := rfl
  simp only [resolve, hentity, hscope, hversion]
  split
  · rfl
  · simp only [resolveBody_bare, except_map_bind, except_bind_map]
    refine congrArg _ (funext fun e => congrArg _ (funext fun body => ?_))
    simp only [Noted.map, Search.Body.conditionCount_bare]
    split <;> rfl

/-- A request is compiled as if it had no annotations. -/
theorem compile_bare (config : Config) (r : Request) : r.bare.compile config = r.compile config := by
  simp only [compile, resolve_bare, except_map_bind, Noted.map, Compiled.ofSearch_bare]

/-- Requests that differ at most in the weights and expansions of their conditions compile to the
same, or fail with the same error. -/
theorem compile_eq_of_bare_eq (config : Config) (r r' : Request) (h : r.bare = r'.bare) :
    r.compile config = r'.compile config := by
  rw [← compile_bare config r, h, compile_bare]

def annotated (value : String) (negated : Bool) (weight : Option Binary64)
    (expansion : Option String) : ConditionSpec :=
  ⟨some "page", value, none, negated, weight, expansion⟩

/-- A relation between a disjunction that has its members merged and a list of groups, with some
annotations on both sides. -/
def annotatedRelation (weight : Option Binary64) (expansion : Option String) : Request :=
  ⟨1, none, ⟨none, none, none, none⟩,
    some ⟨⟨some [annotated "a" false weight expansion, annotated "b" false none expansion,
      annotated "c" true weight none], some "or", none, none⟩, "child of",
      ⟨none, none, some [⟨[annotated "d" false weight expansion, annotated " " false weight none],
        none⟩], none⟩⟩, none⟩

theorem compile_eq_of_bare_eq_annotatedRelation :
    let r := annotatedRelation none none
    let r' := annotatedRelation (some ⟨0x7ff8000000000000⟩) (some "synonyms")
    r ≠ r' ∧ r.bare = r'.bare ∧ ∃ c, r.compile .default = .ok c ∧ r'.compile .default = .ok c ∧
      c.merges = 1 := by
  intro r r'
  have hbare : r.bare = r'.bare := by decide
  have hok : ∃ c, r.compile .default = .ok c ∧ c.merges = 1 := ⟨_, rfl, rfl⟩
  obtain ⟨c, hc, hmerges⟩ := hok
  exact ⟨by decide, hbare, c, hc, compile_eq_of_bare_eq .default r r' hbare ▸ hc, hmerges⟩

end Request

end OutlineQuery
