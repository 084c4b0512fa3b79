import Mathlib.Data.List.Dedup
import OutlineQuery.Proofs.Datalog.Skeleton
import OutlineQuery.Proofs.Group.Shape
import OutlineQuery.Proofs.Plan.Vocabulary

/-!
The structure of the queries of plans depends on the shape of the groups and on how many identifiers
the scope has, and on nothing that a condition or an identifier says.
-/
namespace OutlineQuery

open Datalog (Var Clause Query Token)

namespace PatternTest

/-- What a test contributes to the structure of a query. -/
def outline (t : PatternTest) : Bool × Var :=
  (t.condition.negated, t.re)

/-- Numbered tests of conditions that are negated alike differ in their patterns only. -/
theorem number_outline_eq {cs cs' : List Condition}
    (h : cs.map (·.negated) = cs'.map (·.negated)) (n : Naming) (start : Nat) :
    (number n start cs).map outline = (number n start cs').map outline := by
  induction cs generalizing cs' start with
  | nil =>
    rw [List.map_nil, eq_comm, List.map_eq_nil_iff] at h
    rw [h]
  | cons c cs ih =>
    cases cs' with
    | nil => cases h
    | cons c' cs' =>
      obtain ⟨hsign, hrest⟩ := List.cons.inj h
      have hfirst : outline ⟨c, n.patternVar start⟩ = outline ⟨c', n.patternVar start⟩ :=
        Prod.ext hsign rfl
      rw [number, number, List.map_cons, List.map_cons, ih hrest, hfirst]

theorem re_factorsThrough : re.FactorsThrough outline :=
  fun _ _ h => congrArg Prod.snd h

theorem test_factorsThrough (field : Var) : (test field).FactorsThrough outline := by
  intro t t' h
  obtain ⟨hsign, hre⟩ := Prod.mk.inj h
  rw [test, test, hsign, hre]

/-- Only the literal of the pattern tells two bindings of one variable apart. -/
theorem skeleton_binding_factorsThrough (ignoreCase : Bool) :
    (Clause.skeleton ∘ binding ignoreCase).FactorsThrough outline := by
  intro t t' h
  have hbinding (t : PatternTest) : (t.binding ignoreCase).skeleton =
      (Clause.binding ⟨"re-pattern", [.str ""]⟩ t.re).skeleton := rfl
  rw [Function.comp_apply, Function.comp_apply, hbinding, hbinding, re_factorsThrough h]

theorem skeleton_pair_factorsThrough (ignoreCase : Bool) (field : Var) :
    (fun t : PatternTest => [t.binding ignoreCase, t.test field].map Clause.skeleton).FactorsThrough
      outline := by
  intro t t' h
  have hbinding := skeleton_binding_factorsThrough ignoreCase h
  rw [Function.comp_apply, Function.comp_apply] at hbinding
  simp only [List.map_cons, List.map_nil, hbinding, test_factorsThrough field h]

end PatternTest

/-- Groups of one shape have clauses of one skeleton. -/
theorem skeleton_matchClauses_eq {g g' : Group} (h : g.shape = g'.shape) (ignoreCase : Bool)
    (n : Naming) (field : Var) :
    (matchClauses ignoreCase n field g).map Clause.skeleton =
      (matchClauses ignoreCase n field g').map Clause.skeleton := by
  have htests := PatternTest.number_outline_eq (congrArg Prod.fst h) n 0
  simp only [matchClauses, PatternTest.number_length, Group.length_eq_of_shape h,
    Group.combinator_eq_of_shape h]
  split
  · rw [List.map_flatMap, List.map_flatMap, List.flatMap_def, List.flatMap_def,
      map_eq_of_factorsThrough (PatternTest.skeleton_pair_factorsThrough ignoreCase field) htests]
  · -- The disjunctions are equal: their tests have no literal.
    rw [List.map_append, List.map_append, List.map_map, List.map_map,
      map_eq_of_factorsThrough (PatternTest.skeleton_binding_factorsThrough ignoreCase) htests,
      map_eq_of_factorsThrough PatternTest.re_factorsThrough htests,
      map_eq_of_factorsThrough (PatternTest.test_factorsThrough field) htests]

namespace Scope

def idCount (ids : List String) : Nat :=
  ((ids.map Text.trim).filter (!·.isEmpty)).dedup.length

theorem length_identifiers (ids : List String) : (identifiers ids).toList.length = idCount ids := by
  apply List.Perm.length_eq
  have hnodup : (identifiers ids).toList.Nodup := by
    apply (identifiers ids).ascending.imp
    rintro a _ hlt rfl
    exact String.lt_irrefl a hlt
  rw [List.perm_ext_iff_of_nodup hnodup (List.nodup_dedup _)]
  intro id
  rw [List.mem_dedup, identifiers, Text.StringSet.mem_toList, Text.StringSet.mem_ofList]

/-- A test of identifiers is made of as many literals as there are identifiers. -/
theorem skeleton_membership?_eq {ids ids' : List String} (h : idCount ids = idCount ids')
    (id : Var) :
    (membership? id ids).map Clause.skeleton = (membership? id ids').map Clause.skeleton := by
  rw [← length_identifiers, ← length_identifiers] at h
  have hset := Datalog.Term.map_emptied_set h
  unfold membership?
  rcases hids : (identifiers ids).toList with _ | ⟨a, _ | ⟨b, rest⟩⟩ <;>
    rcases hids' : (identifiers ids').toList with _ | ⟨a', _ | ⟨b', rest'⟩⟩ <;>
    simp only [hids, hids', List.length_cons, List.length_nil] at h
  case nil.nil => rfl
  case cons.nil.cons.nil => rfl
  case cons.cons.cons.cons =>
    simp only [Option.map_some, Clause.skeleton, Clause.tokens, Datalog.Call.tokens,
      List.flatMap_cons, List.map_cons, List.map_append, hset]
  all_goals omega

/-- No identifiers, no test: their number also says whether there are clauses at all. -/
theorem skeleton_tested_eq {ids ids' : List String} (h : idCount ids = idCount ids')
    (needs : List Clause) (entity : Var) :
    (tested needs entity ids).map Clause.skeleton =
      (tested needs entity ids').map Clause.skeleton := by
  have htested (ids : List String) : (tested needs entity ids).map Clause.skeleton =
      ((membership? (idVar entity) ids).map Clause.skeleton).elim []
        fun test => needs.map Clause.skeleton ++ [test] := by
    unfold tested
    cases membership? (idVar entity) ids <;> simp
  rw [htested, htested, skeleton_membership?_eq h]

/-- Scopes that exclude the same and have as many identifiers. -/
structure SameSize (s s' : Scope) : Prop where
  blockIds : idCount s.blockIds = idCount s'.blockIds
  pageIds : idCount s.pageIds = idCount s'.pageIds
  excludeJournals : s.excludeJournals = s'.excludeJournals

variable {s s' : Scope}

theorem skeleton_blockAdditions_eq (h : s.SameSize s') (block page : Var) :
    (blockAdditions block page s).map Clause.skeleton =
      (blockAdditions block page s').map Clause.skeleton := by
  simp only [blockAdditions, journalClauses, List.map_append, skeleton_tested_eq h.blockIds,
    skeleton_tested_eq h.pageIds, h.excludeJournals]

theorem skeleton_pageAdditions_eq (h : s.SameSize s') (page : Var) :
    (pageAdditions page s).map Clause.skeleton = (pageAdditions page s').map Clause.skeleton := by
  simp only [pageAdditions, journalClauses, List.map_append, skeleton_tested_eq h.pageIds,
    h.excludeJournals]

/-- The journals that a configuration excludes are excluded for both scopes. -/
theorem SameSize.effectiveScope (h : s.SameSize s') (config : Config) :
    (Plan.effectiveScope config s).SameSize (Plan.effectiveScope config s') :=
  ⟨h.blockIds, h.pageIds, congrArg (· || config.excludeJournals) h.excludeJournals⟩

end Scope

namespace Plan

variable {s s' : Scope}

theorem skeleton_clauses_eq {g g' : Group} (h : g.shape = g'.shape) (ignoreCase : Bool)
    (n : Naming) (subject : Subject) :
    (subject.clauses ignoreCase n g).map Clause.skeleton =
      (subject.clauses ignoreCase n g').map Clause.skeleton := by
  rw [Subject.clauses, Subject.clauses, List.map_append, List.map_append,
    skeleton_matchClauses_eq h]

/-- Groups of one shape give queries that differ in literals only. -/
theorem emptyLiterals_select_eq {g g' : Group} (hg : g.shape = g'.shape) (hs : s.SameSize s')
    (config : Config) (e : Entity) :
    Datalog.emptyLiterals (select config e g s).query.render =
      Datalog.emptyLiterals (select config e g' s').query.render := by
  apply Query.emptyLiterals_render_eq (wellFormed_select ..) (wellFormed_select ..)
  · rw [(select_find_and_rules config s e g).1, (select_find_and_rules config s' e g').1]
  · rw [(select_find_and_rules config s e g).2, (select_find_and_rules config s' e g').2]
  · have hscope := hs.effectiveScope config
    cases e with
    | block =>
      simp only [select_block_query, unscoped, Query.append, List.map_append,
        skeleton_clauses_eq hg, Scope.skeleton_blockAdditions_eq hscope]
    | page =>
      simp only [select_page_query, unscoped, Query.append, List.map_append,
        skeleton_clauses_eq hg, Scope.skeleton_pageAdditions_eq hscope]

/-- With its literals emptied, the text of a query for pairs depends on shapes and sizes only. -/
theorem emptyLiterals_relate_eq {left left' right right' : Group} (hl : left.shape = left'.shape)
    (hr : right.shape = right'.shape) (hs : s.SameSize s') (config : Config) (op : Operator) :
    Datalog.emptyLiterals (relate config left op right s).query.render =
      Datalog.emptyLiterals (relate config left' op right' s').query.render := by
  apply Query.emptyLiterals_render_eq (wellFormed_relate ..) (wellFormed_relate ..)
  · rw [relate_query_eq, relate_query_eq]
    rfl
  · rw [relate_query_eq, relate_query_eq]
    rfl
  · simp only [relate_query_eq, related, Query.append, List.map_append, skeleton_clauses_eq hl,
      skeleton_clauses_eq hr, Scope.skeleton_blockAdditions_eq (hs.effectiveScope config)]

end Plan

end OutlineQuery
