import OutlineQuery.Proofs.Datalog.Scoping
import OutlineQuery.Proofs.Scope.Restriction

/-!
Whether the identifiers that a scope tests have a value. A restriction gives the identifier of its
entity a value unless the query has that variable already, and there every occurrence counts: one
that is local to a negation or to a branch passes for a binding.
-/
namespace OutlineQuery

open Datalog (Var Clause Query)

namespace Datalog

/-- The variable that a clause gives a value: the result of a call, or what an entity has. -/
def Clause.given? : Clause → Option Var
  | .triple _ _ value => value.var?
  | .binding _ out => some out
  | _ => none

def Clause.isTest : Clause → Bool
  | .test _ => true
  | _ => false

namespace Query

/-- Some clause of the query itself, not one nested in another, gives the variable a value. -/
def Gives (q : Query) (v : Var) : Prop :=
  ∃ c ∈ q.clauses, c.given? = some v

instance (q : Query) (v : Var) : Decidable (q.Gives v) :=
  inferInstanceAs (Decidable (∃ c ∈ q.clauses, c.given? = some v))

/-- If the query has the variable anywhere, it gives it a value. -/
def Grounds (q : Query) (v : Var) : Prop :=
  q.mentions v = true → q.Gives v

variable {q : Query} {cs : List Clause} {v : Var}

/-- Clauses that are added give what they give, and the query still gives what it did. -/
theorem gives_append : (q.append cs).Gives v ↔ q.Gives v ∨ ∃ c ∈ cs, c.given? = some v := by
  simp only [Gives, append, List.mem_append, or_and_right, exists_or]

theorem mentions_append_of_mentions (h : q.mentions v = true) :
    (q.append cs).mentions v = true := by
  rw [Scope.mentions_append, h, Bool.true_or]

/-- To ground a variable that the query has is to give it a value. -/
theorem gives_iff_grounds (h : q.mentions v = true) : q.Gives v ↔ q.Grounds v :=
  ⟨fun hgives _ => hgives, fun hgrounds => hgrounds h⟩

end Query

end Datalog

namespace Scope

open Datalog.Query (gives_append mentions_append_of_mentions gives_iff_grounds)

/-- An identifier is never taken for a uuid. -/
theorem idVar_ne_uuidVar (e e' : Var) : idVar e ≠ uuidVar e' := by
  intro h
  have hends := congrArg (fun v : Var => v.name.toList.reverse) h
  simp [idVar, uuidVar, Var.extend] at hends

variable {q : Query} {entity e v : Var} {ids : List String} {present : Var → Bool}

/-- The preparation of a test gives the identifier a value, and the uuid for it, as far as these are
not there. -/
theorem gives_idClauses_iff :
    (∃ c ∈ idClauses present entity, c.given? = some v) ↔ present (idVar entity) = false ∧
      (v = idVar entity ∨ present (uuidVar entity) = false ∧ v = uuidVar entity) := by
  have huuid : (uuidClause entity).given? = some v ↔ v = uuidVar entity := by
    simp [uuidClause, Clause.given?, Datalog.Term.var?, eq_comm]
  have hid : (idClause entity).given? = some v ↔ v = idVar entity := by
    simp [idClause, Clause.given?, eq_comm]
  unfold idClauses
  cases present (idVar entity) with
  | true => simp
  | false =>
    cases present (uuidVar entity) with
    | true => simp [hid]
    | false => simp [huuid, hid, or_comm]

/-- The test of an identifier uses it and gives nothing. -/
theorem isTest_of_membership? {id : Var} {c : Clause} (h : membership? id ids = some c) :
    c.isTest = true ∧ c.vars = [id] ∧ c.given? = none := by
  obtain ⟨call, rfl, hvars, -⟩ := exists_call_of_membership? h
  exact ⟨rfl, hvars, rfl⟩

theorem filter_isTest_idClauses : (idClauses present entity).filter Clause.isTest = [] := by
  unfold idClauses
  split
  · rfl
  · split <;> rfl

/-- A restriction has one test or none. -/
theorem filter_isTest_restriction :
    (restriction present entity ids).filter Clause.isTest =
      (membership? (idVar entity) ids).toList := by
  unfold restriction
  split
  · rename_i hnone
    rw [hnone]
    rfl
  · rename_i test htest
    have hone := (isTest_of_membership? htest).1
    rw [List.filter_append, filter_isTest_idClauses, htest, List.filter_singleton, hone]
    rfl

theorem gives_restriction_iff :
    (∃ c ∈ restriction present entity ids, c.given? = some v) ↔
      membership? (idVar entity) ids ≠ none ∧
        ∃ c ∈ idClauses present entity, c.given? = some v := by
  unfold restriction
  split
  · rename_i hnone
    simp [hnone]
  · rename_i test htest
    have hidle := (isTest_of_membership? htest).2.2
    simp [htest, hidle, or_and_right, exists_or]

/-- Restricting an entity of the query does not change whether an identifier, its own or another,
has a value where it occurs. -/
theorem grounds_restrict_iff (hentity : q.mentions entity = true) :
    (restrict q entity ids).Grounds (idVar e) ↔ q.Grounds (idVar e) := by
  unfold restrict
  by_cases hmentions : q.mentions (idVar e) = true
  · -- The query has the identifier, so the restriction adds nothing that gives it a value.
    rw [← gives_iff_grounds hmentions, ← gives_iff_grounds (mentions_append_of_mentions hmentions),
      gives_append, or_iff_left]
    rw [gives_restriction_iff, gives_idClauses_iff]
    rintro ⟨-, hfree, hid | ⟨-, huuid⟩⟩
    · rw [hid, hfree] at hmentions
      cases hmentions
    · exact idVar_ne_uuidVar e entity huuid
  · have hgrounds : q.Grounds (idVar e) := fun h => absurd h hmentions
    rw [iff_true_right hgrounds]
    intro hnew
    rw [mentions_append, Bool.or_eq_true, or_iff_right hmentions] at hnew
    obtain ⟨c, hc, hv⟩ := List.any_eq_true.1 hnew
    -- The restriction brings the identifier in, so it is that of its own entity.
    rcases owns_of_mem_restriction hc (List.contains_iff_mem.1 hv) with hself | huuid | hid
    · rw [hself] at hmentions
      exact absurd hentity hmentions
    · exact absurd huuid (idVar_ne_uuidVar e entity)
    · have hsome : membership? (idVar entity) ids ≠ none := by
        intro hnone
        rw [restriction, hnone] at hc
        cases hc
      rw [hid] at hmentions ⊢
      refine gives_append.2 (.inr (gives_restriction_iff.2 ⟨hsome, gives_idClauses_iff.2 ?_⟩))
      exact ⟨by simpa using hmentions, .inl rfl⟩

/-- Restricts some entities, one after another. -/
def restrictAll (q : Query) (ts : List (Var × List String)) : Query :=
  ts.foldl (fun q t => restrict q t.1 t.2) q

variable {ts : List (Var × List String)}

/-- Restrictions of entities that a query mentions ground no identifier that was not grounded. -/
theorem grounds_restrictAll_iff (h : ∀ t ∈ ts, q.mentions t.1 = true) :
    (restrictAll q ts).Grounds (idVar e) ↔ q.Grounds (idVar e) := by
  induction ts generalizing q with
  | nil => rfl
  | cons t rest ih =>
    obtain ⟨hfirst, hrest⟩ := List.forall_mem_cons.1 h
    have hlater : ∀ u ∈ rest, (restrict q t.1 t.2).mentions u.1 = true :=
      fun u hu => mentions_append_of_mentions (hrest u hu)
    exact (ih hlater).trans (grounds_restrict_iff hfirst)

/-- Restrictions only append, and the tests among what they append are those of the identifiers. -/
theorem exists_restrictAll_eq_append (q : Query) (ts : List (Var × List String)) :
    ∃ added, restrictAll q ts = q.append added ∧
      added.filter Clause.isTest =
        ts.filterMap fun t => membership? (idVar t.1) t.2 := by
  induction ts generalizing q with
  | nil => exact ⟨[], by simp [restrictAll, Query.append], rfl⟩
  | cons t rest ih =>
    obtain ⟨added, heq, htests⟩ := ih (restrict q t.1 t.2)
    refine ⟨restriction q.mentions t.1 t.2 ++ added, ?_, ?_⟩
    · rw [restrictAll, List.foldl_cons, ← restrictAll, heq, restrict]
      simp [Query.append]
    · rw [List.filter_append, filter_isTest_restriction, htests, List.filterMap_cons]
      cases membership? (idVar t.1) t.2 <;> rfl

namespace Target

def vars (target : Target) : List Var :=
  target.block.toList ++ [target.page]

/-- The variables that a scope is about, each with its identifiers. -/
def entities (target : Target) (s : Scope) : List (Var × List String) :=
  target.block.toList.map (·, s.blockIds) ++ [(target.page, s.pageIds)]

theorem mem_vars_of_mem_entities {target : Target} {s : Scope} {t : Var × List String}
    (h : t ∈ target.entities s) : t.1 ∈ target.vars := by
  rcases List.mem_append.1 h with hblock | hpage
  · obtain ⟨block, hmem, rfl⟩ := List.mem_map.1 hblock
    exact List.mem_append_left _ hmem
  · obtain rfl := List.mem_singleton.1 hpage
    exact List.mem_append_right _ (List.mem_singleton_self _)

end Target

/-- A scope restricts entity after entity and excludes journals last. -/
theorem inject_value_eq_restrictAll (q : Query) (target : Target) (s : Scope) :
    (inject q target s).value = (restrictAll q (target.entities s)).append
      (if s.excludeJournals then [journalExclusion target.page] else []) := by
  rw [inject_value]
  obtain ⟨block, page⟩ := target
  cases block with
  | none => simp [additions, restrictAll, Target.entities, restrict, Query.append]
  | some b => simp [additions, restrictAll, Target.entities, restrict, Query.append]

/-- Excluding journals gives no variable a value and brings none in. -/
theorem grounds_append_journal_iff {page : Var} (hpage : q.mentions page = true) (j : Bool) :
    (q.append (if j then [journalExclusion page] else [])).Grounds v ↔ q.Grounds v := by
  have hgives : (q.append (if j then [journalExclusion page] else [])).Gives v ↔ q.Gives v := by
    rw [gives_append, or_iff_left]
    rintro ⟨c, hc, hgives⟩
    have hjournal : c = journalExclusion page := by
      cases j <;> simp_all
    rw [hjournal] at hgives
    cases hgives
  have hmentions : (q.append (if j then [journalExclusion page] else [])).mentions v =
      q.mentions v := by
    rw [mentions_append, Bool.or_eq_left_iff_imp]
    cases j with
    | false => simp
    | true =>
      intro hv
      have hself : v = page := by
        simpa [journalExclusion, Clause.vars, Clause.varsAll, Datalog.Term.var?] using hv
      rw [hself, hpage]
  rw [Query.Grounds, Query.Grounds, hgives, hmentions]

/-- If all targets are mentioned, injecting grounds no identifier that was not grounded. -/
theorem grounds_inject_iff {target : Target} {s : Scope}
    (hvars : ∀ v ∈ target.vars, q.mentions v = true) :
    (inject q target s).value.Grounds (idVar e) ↔ q.Grounds (idVar e) := by
  have hentities : ∀ t ∈ target.entities s, q.mentions t.1 = true :=
    fun t ht => hvars t.1 (Target.mem_vars_of_mem_entities ht)
  have hpage : (restrictAll q (target.entities s)).mentions target.page = true := by
    obtain ⟨added, heq, -⟩ := exists_restrictAll_eq_append q (target.entities s)
    rw [heq]
    exact mentions_append_of_mentions (hvars _ (by simp [Target.vars]))
  rw [inject_value_eq_restrictAll, grounds_append_journal_iff hpage,
    grounds_restrictAll_iff hentities]

/-- Injecting only adds clauses, and of these the tests are those of identifiers. -/
theorem exists_inject_eq_append (q : Query) (target : Target) (s : Scope) :
    ∃ added, (inject q target s).value = q.append added ∧
      added.filter Clause.isTest =
        (target.entities s).filterMap fun t => membership? (idVar t.1) t.2 := by
  obtain ⟨added, heq, htests⟩ := exists_restrictAll_eq_append q (target.entities s)
  refine ⟨added ++ if s.excludeJournals then [journalExclusion target.page] else [], ?_, ?_⟩
  · rw [inject_value_eq_restrictAll, heq]
    simp [Query.append]
  · rw [List.filter_append, htests]
    cases s.excludeJournals <;> simp [journalExclusion, Clause.isTest]

/-- What a scope appends to a query, and when all identifiers that it tests have a value: exactly if
none of them occurs in the query without being given one there. Injections leave that as it is. -/
theorem inject_tests (q : Query) (target : Target) (s : Scope)
    (hvars : ∀ v ∈ target.vars, v ∈ q.clauses.flatMap Clause.dataVars) :
    (∃ added, (inject q target s).value = { q with clauses := q.clauses ++ added } ∧
      added.filter Clause.isTest =
        ((target.entities s).filterMap fun t => membership? (idVar t.1) t.2) ∧
      ((∀ c ∈ added, c.isTest = true → ∀ v ∈ c.vars, (inject q target s).value.Gives v) ↔
        ∀ entity ids, (entity, ids) ∈ target.entities s → (∃ id, Lists ids id) →
          q.Grounds (idVar entity))) ∧
    (∀ e, (inject q target s).value.Grounds (idVar e) ↔ q.Grounds (idVar e)) ∧
    (s.isEmpty = true → inject q target s = ⟨q, []⟩) := by
  have hmentions : ∀ v ∈ target.vars, q.mentions v = true :=
    fun v hv => Query.mentions_of_mem_dataVars (hvars v hv)
  have hgrounds (e : Var) := grounds_inject_iff (e := e) (s := s) hmentions
  refine ⟨?_, hgrounds, fun hempty => by rw [inject, hempty, if_pos rfl]⟩
  obtain ⟨added, heq, htests⟩ := exists_inject_eq_append q target s
  -- A test that was added is a test of identifiers that are listed, and the other way round.
  have hmem (c : Clause) : c ∈ added ∧ c.isTest = true ↔
      ∃ t ∈ target.entities s, membership? (idVar t.1) t.2 = some c := by
    rw [← List.mem_filter, htests, List.mem_filterMap]
  refine ⟨added, heq, htests, ?_⟩
  constructor
  · intro hgives entity ids hentity hentry
    obtain ⟨test, htest⟩ : ∃ test, membership? (idVar entity) ids = some test := by
      rw [← Option.ne_none_iff_exists', ne_eq, membership?_eq_none_iff, not_not]
      exact hentry
    obtain ⟨hadded, hisTest⟩ := (hmem test).2 ⟨(entity, ids), hentity, htest⟩
    have hvar : idVar entity ∈ test.vars := by
      rw [(isTest_of_membership? htest).2.1]
      exact List.mem_singleton_self _
    exact (hgrounds entity).1 fun _ => hgives test hadded hisTest _ hvar
  · intro hall c hc htest v hv
    obtain ⟨⟨entity, ids⟩, hentity, hmember⟩ := (hmem c).1 ⟨hc, htest⟩
    have hentry : ∃ id, Lists ids id := by
      by_contra hnone
      rw [membership?_eq_none_iff.2 hnone] at hmember
      cases hmember
    have hself : v = idVar entity := by
      rw [(isTest_of_membership? hmember).2.1] at hv
      exact List.mem_singleton.1 hv
    -- Only a variable that is mentioned can lack a ground, and the test mentions it.
    have hoccurs : (inject q target s).value.mentions v = true := by
      rw [heq]
      exact Query.mentions_iff.2 ⟨c, List.mem_append_right _ hc, hv⟩
    rw [hself] at hoccurs ⊢
    exact (hgrounds entity).2 (hall entity ids hentity hentry) hoccurs

/-- Blocks of pages that have no alias. The alias is local to the negation, and its variable has the
name that the identifier of the page would get. -/
def unaliased : Query :=
  ⟨[⟨"b"⟩], [.triple ⟨"b"⟩ Datalog.Attr.page (.var ⟨"p"⟩),
    .absent [.triple ⟨"p"⟩ ":block/alias" (.var ⟨"p-id"⟩)]], []⟩

theorem inject_tests_unaliased :
    (∀ v ∈ Target.default.vars, v ∈ unaliased.clauses.flatMap Clause.dataVars) ∧
    ∃ added, (inject unaliased .default ⟨["u", " v"], [], true⟩).value =
        { unaliased with clauses := unaliased.clauses ++ added } ∧
      added.filter Clause.isTest =
        [.test ⟨"contains?", [.set (.ofList ["u", "v"]), .var ⟨"b-id"⟩]⟩] ∧
      ∀ c ∈ added, c.isTest = true → ∀ v ∈ c.vars,
        (inject unaliased .default ⟨["u", " v"], [], true⟩).value.Gives v := by
  have hvars : ∀ v ∈ Target.default.vars, v ∈ unaliased.clauses.flatMap Clause.dataVars := by
    decide
  obtain ⟨⟨added, heq, htests, hgives⟩, -⟩ :=
    inject_tests unaliased .default ⟨["u", " v"], [], true⟩ hvars
  refine ⟨hvars, added, heq, htests, hgives.2 ?_⟩
  intro entity ids hentity hentry hoccurs
  rcases List.mem_cons.1 hentity with hblock | hpage
  · obtain ⟨rfl, -⟩ := Prod.mk.inj hblock
    exact absurd hoccurs (by decide)
  · -- There are no pages in the scope.
    obtain ⟨-, rfl⟩ := Prod.mk.inj (List.mem_singleton.1 hpage)
    obtain ⟨id, -, entry, hentry, -⟩ := hentry
    cases hentry

/-- Blocks with some reference. Which one is local to the only branch, and its variable has the name
that the identifier of the block would get. -/
def referring : Query :=
  ⟨[⟨"b"⟩], [.triple ⟨"b"⟩ Datalog.Attr.page (.var ⟨"p"⟩),
    .orJoin [⟨"b"⟩] [.triple ⟨"b"⟩ ":block/refs" (.var ⟨"b-id"⟩)]], []⟩

/-- A variable that is local to a negation or to a branch passes for a binding: the identifier is
tested, and nothing gives it a value. -/
theorem local_variable_passes_for_binding :
    ((∀ v ∈ Target.default.vars, v ∈ unaliased.clauses.flatMap Clause.dataVars) ∧
      inject unaliased .default ⟨[], ["u"], false⟩ =
        ⟨unaliased.push (.test ⟨"=", [.var ⟨"p-id"⟩, .str "u"]⟩), []⟩ ∧
      ¬(inject unaliased .default ⟨[], ["u"], false⟩).value.Gives ⟨"p-id"⟩) ∧
    (∀ v ∈ Target.default.vars, v ∈ referring.clauses.flatMap Clause.dataVars) ∧
      inject referring .default ⟨["u"], [], false⟩ =
        ⟨referring.push (.test ⟨"=", [.var ⟨"b-id"⟩, .str "u"]⟩), []⟩ ∧
      ¬(inject referring .default ⟨["u"], [], false⟩).value.Gives ⟨"b-id"⟩ :=
  ⟨⟨by decide, rfl, by decide⟩, by decide, rfl, by decide⟩

end Scope

end OutlineQuery
