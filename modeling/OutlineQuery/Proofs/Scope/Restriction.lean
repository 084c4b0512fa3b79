import OutlineQuery.Proofs.Datalog.Semantics
import OutlineQuery.Scope.Restriction

/-!
What restricting a query to a scope means. A list of identifiers stands for the set of its trimmed
entries that are not blank; it admits what is in the set, and everything if the set is empty.
-/
namespace OutlineQuery.Scope

open Datalog (Var Clause Query Value Interpretation Builtins Store)
open Datalog.Clause (Holds HoldsAll holdsAll_iff)

/-- The identifiers that a list stands for. -/
def Lists (ids : List String) (id : String) : Prop :=
  id ≠ "" ∧ ∃ entry ∈ ids, Text.trim entry = id

/-- Whether a list admits an identifier. -/
def Admits (ids : List String) (id : String) : Prop :=
  (∃ other, Lists ids other) → Lists ids id

/-- The set holds the identifiers that are listed, trimmed and not blank. -/
theorem mem_identifiers {ids : List String} {id : String} : id ∈ identifiers ids ↔ Lists ids id := by
  simp only [identifiers, Text.StringSet.mem_ofList, List.mem_filter, List.mem_map, Lists]
  constructor
  · rintro ⟨hentry, hid⟩
    exact ⟨by simpa using hid, hentry⟩
  · rintro ⟨hid, hentry⟩
    exact ⟨hentry, by simpa using hid⟩

theorem mem_identifiers_toList {ids : List String} {id : String} :
    id ∈ (identifiers ids).toList ↔ Lists ids id :=
  mem_identifiers

/-- There is a test unless nothing is listed. -/
theorem membership?_eq_none_iff {id : Var} {ids : List String} :
    membership? id ids = none ↔ ¬∃ other, Lists ids other := by
  have hempty : (identifiers ids).toList = [] ↔ ¬∃ other, Lists ids other := by
    rw [List.eq_nil_iff_forall_not_mem, not_exists]
    exact forall_congr' fun other => not_congr mem_identifiers_toList
  rw [← hempty, membership?]
  split <;> simp_all

variable {α : Type} {I : Interpretation α} {scope : List Var} {σ : Var → Value α}

/-- The test of an identifier says that the list has it, whether it compares or looks it up. -/
theorem holds_membership_iff {id : Var} {ids : List String} {c : Clause}
    (hc : membership? id ids = some c) :
    Holds I c scope σ ↔ ∃ s, Lists ids s ∧ σ id = .text s := by
  unfold membership? at hc
  split at hc
  · cases hc
  · rename_i only honly
    cases hc
    have hlists (s : String) : Lists ids s ↔ s = only := by
      rw [← mem_identifiers_toList, honly, List.mem_singleton]
    simp [Holds, Datalog.Term.value, Builtins.Accepts, hlists]
  · cases hc
    simp only [Holds, Datalog.Term.value, Builtins.Accepts, List.map_cons, List.map_nil]
    simp [mem_identifiers]

theorem holds_idClause_iff {entity : Var} :
    Holds I (idClause entity) scope σ ↔
      σ (idVar entity) = .text (I.builtins.str (σ (uuidVar entity))) := by
  simp only [idClause, Holds, Datalog.Term.value, Builtins.value?, List.map_cons, List.map_nil]
  simp [eq_comm]

/-- What restricting an entity to a list asks of a valuation: the entity has its uuid, unless the
query says so already; its identifier is the uuid as text; and the list has it. -/
def Restricted (I : Interpretation α) (σ : Var → Value α) (present : Var → Bool) (entity : Var)
    (ids : List String) : Prop :=
  (∃ other, Lists ids other) →
    (present (uuidVar entity) = false →
      I.store.Has (σ entity) Datalog.Attr.uuid (σ (uuidVar entity))) ∧
    σ (idVar entity) = .text (I.builtins.str (σ (uuidVar entity))) ∧
    Lists ids (I.builtins.str (σ (uuidVar entity)))

/-- The clauses of a restriction hold of the entities that are listed. -/
theorem holdsAll_restriction_iff {present : Var → Bool} {entity : Var} {ids : List String}
    (hid : present (idVar entity) = false) :
    HoldsAll I (restriction present entity ids) scope σ ↔ Restricted I σ present entity ids := by
  have huuid : Holds I (uuidClause entity) scope σ ↔
      I.store.Has (σ entity) Datalog.Attr.uuid (σ (uuidVar entity)) := Iff.rfl
  unfold restriction Restricted
  split
  · rename_i hnone
    simp [holdsAll_iff, membership?_eq_none_iff.1 hnone]
  · rename_i test htest
    have hsome : ∃ other, Lists ids other := by
      apply Classical.byContradiction
      intro hno
      rw [membership?_eq_none_iff.2 hno] at htest
      cases htest
    -- Given what the identifier is, that the list has it is what the test says.
    have hcond (hval : σ (idVar entity) = .text (I.builtins.str (σ (uuidVar entity)))) :
        Holds I test scope σ ↔ Lists ids (I.builtins.str (σ (uuidVar entity))) := by
      rw [holds_membership_iff htest, hval]
      simp
    rw [Datalog.Clause.holdsAll_append]
    simp only [hsome, forall_const, idClauses, hid, Bool.false_eq_true, if_false]
    rcases hu : present (uuidVar entity) with _ | _
    · simp only [Bool.false_eq_true, if_false, HoldsAll, and_true, huuid, holds_idClause_iff,
        forall_const]
      rw [and_assoc]
      exact and_congr_right fun _ => and_congr_right hcond
    · simp only [if_true, HoldsAll, and_true, holds_idClause_iff, Bool.true_eq_false,
        false_implies, true_and]
      exact and_congr_right hcond

/-- Excluding journals leaves the pages that are not marked as journals. -/
theorem holds_journalExclusion_iff {page : Var} (hpage : page ∈ scope) :
    Holds I (journalExclusion page) scope σ ↔
      ¬I.store.Has (σ page) Datalog.Attr.journal (.bool true) := by
  have hvars : Clause.varsAll [.triple page Datalog.Attr.journal (.bool true)] ⊆ scope := by
    simp [Clause.varsAll, Clause.vars, Datalog.Term.var?, hpage]
  rw [journalExclusion, Datalog.Clause.holds_absent_iff hvars, holdsAll_iff]
  simp [Holds, Datalog.Term.value]

theorem restriction_nil (present : Var → Bool) (entity : Var) : restriction present entity [] = [] :=
  rfl

/-- Whichever form it has, a test of an identifier is a call about it alone. -/
theorem exists_call_of_membership? {id : Var} {ids : List String} {c : Clause}
    (hc : membership? id ids = some c) :
    ∃ call, c = .test call ∧ call.vars = [id] ∧ call.func ∈ ["=", "contains?"] := by
  unfold membership? at hc
  split at hc <;> cases hc
  · exact ⟨_, rfl, rfl, by simp⟩
  · exact ⟨_, rfl, rfl, by simp⟩

/-- A restriction reads the uuid, computes the identifier, and tests it. -/
theorem mem_restriction_cases {present : Var → Bool} {entity : Var} {ids : List String}
    {c : Clause} (hc : c ∈ restriction present entity ids) :
    c = uuidClause entity ∨ c = idClause entity ∨ membership? (idVar entity) ids = some c := by
  unfold restriction at hc
  split at hc
  · cases hc
  · rename_i test htest
    rcases List.mem_append.1 hc with hc | hc
    · have hmem : c = uuidClause entity ∨ c = idClause entity := by
        unfold idClauses at hc
        split at hc
        · cases hc
        · split at hc <;> simp_all
      exact hmem.imp_right .inl
    · rw [List.mem_singleton.1 hc]
      exact .inr (.inr htest)

/-- The variables of an entity: its own, that of its uuid and that of its identifier. -/
def Owns (entity v : Var) : Prop :=
  v = entity ∨ v = uuidVar entity ∨ v = idVar entity

/-- Restricting an entity brings in no variable but its own. -/
theorem owns_of_mem_restriction {present : Var → Bool} {entity v : Var} {ids : List String}
    {c : Clause} (hc : c ∈ restriction present entity ids) (hv : v ∈ c.vars) : Owns entity v := by
  rcases mem_restriction_cases hc with rfl | rfl | htest
  · simp [uuidClause, Clause.vars, Datalog.Term.var?] at hv
    exact hv.imp_right .inl
  · simp [idClause, Clause.vars, Datalog.Call.vars, Datalog.Term.var?] at hv
    exact .inr hv
  · obtain ⟨call, rfl, hvars, -⟩ := exists_call_of_membership? htest
    rw [Clause.vars, hvars] at hv
    exact .inr (.inr (List.mem_singleton.1 hv))

/-- What a scope adds to a query: a restriction of the block, if the query has one, then one of the
page, then the exclusion of journals. -/
def additions (q : Query) (target : Target) (s : Scope) : List Clause :=
  let blocks := target.block.elim [] (restriction q.mentions · s.blockIds)
  blocks ++ restriction (q.append blocks).mentions target.page s.pageIds ++
    if s.excludeJournals then [journalExclusion target.page] else []

/-- Injecting a scope adds its clauses at the end of the query. -/
theorem inject_value (q : Query) (target : Target) (s : Scope) :
    (inject q target s).value = q.append (additions q target s) := by
  have hblocks : (restrictBlock q target s.blockIds).value =
      q.append (target.block.elim [] (restriction q.mentions · s.blockIds)) := by
    unfold restrictBlock
    split
    · rename_i block hblock
      simp [hblock, restrict]
    · rename_i hblock
      simp [hblock, Query.append]
  unfold inject additions
  split
  · rename_i hempty
    obtain ⟨⟨hb, hp⟩, hj⟩ : (s.blockIds = [] ∧ s.pageIds = []) ∧ s.excludeJournals = false := by
      simpa [isEmpty] using hempty
    cases target.block <;> simp [hb, hp, hj, restriction_nil, Query.append]
  · simp only [hblocks, restrict, Query.push]
    split <;> simp [Query.append]

theorem mentions_append {q : Query} {cs : List Clause} {v : Var} :
    (q.append cs).mentions v = (q.mentions v || cs.any (·.vars.contains v)) := by
  simp [Query.mentions, Query.append]

theorem mentions_eq_false_iff {q : Query} {v : Var} :
    q.mentions v = false ↔ ∀ c ∈ q.clauses, v ∉ c.vars := by
  simp [Query.mentions]

/-- What a scope asks of a valuation, where the query has no identifiers yet and the variables of
its block are not those of its page. -/
theorem holdsAll_additions_iff {q : Query} {target : Target} {s : Scope}
    (hpage : target.page ∈ scope) (hpid : q.mentions (idVar target.page) = false)
    (hblock : ∀ b ∈ target.block, q.mentions (idVar b) = false ∧
      ¬Owns b (idVar target.page) ∧ ¬Owns b (uuidVar target.page)) :
    HoldsAll I (additions q target s) scope σ ↔
      (∀ b ∈ target.block, Restricted I σ q.mentions b s.blockIds) ∧
        Restricted I σ q.mentions target.page s.pageIds ∧
        (s.excludeJournals = true →
          ¬I.store.Has (σ target.page) Datalog.Attr.journal (.bool true)) := by
  obtain ⟨block, page⟩ := target
  -- Restricting the block brings in none of the page's variables.
  have hkeep (v : Var) (hv : ∀ b ∈ block, ¬Owns b v) :
      (q.append (block.elim [] (restriction q.mentions · s.blockIds))).mentions v =
        q.mentions v := by
    rw [mentions_append, Bool.or_eq_left_iff_imp]
    intro hany
    obtain ⟨c, hc, hvc⟩ := List.any_eq_true.1 hany
    cases block with
    | none => cases hc
    | some b => exact absurd (owns_of_mem_restriction hc (List.contains_iff_mem.1 hvc)) (hv b rfl)
  have hid := hkeep (idVar page) fun b hb => (hblock b hb).2.1
  have huuid := hkeep (uuidVar page) fun b hb => (hblock b hb).2.2
  have hblocks : HoldsAll I (block.elim [] (restriction q.mentions · s.blockIds)) scope σ ↔
      ∀ b ∈ block, Restricted I σ q.mentions b s.blockIds := by
    cases block with
    | none => simp [holdsAll_iff]
    | some b => simpa using holdsAll_restriction_iff (hblock b rfl).1
  have hjournals : HoldsAll I (if s.excludeJournals then [journalExclusion page] else []) scope σ ↔
      (s.excludeJournals = true → ¬I.store.Has (σ page) Datalog.Attr.journal (.bool true)) := by
    split
    · rename_i hj
      simp [holdsAll_iff, holds_journalExclusion_iff hpage, hj]
    · rename_i hj
      simp [holdsAll_iff, hj]
  rw [additions, Datalog.Clause.holdsAll_append, Datalog.Clause.holdsAll_append, hblocks,
    holdsAll_restriction_iff (hid.trans hpid), hjournals, and_assoc]
  simp only [Restricted, huuid]

end OutlineQuery.Scope
