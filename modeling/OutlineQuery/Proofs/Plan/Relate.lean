import OutlineQuery.Proofs.Hierarchy.Relation
import OutlineQuery.Proofs.Plan.Select

/-!
The rows of a hierarchy query: exactly the pairs of blocks that match their sides, the left one
within the scope, and that stand in the operator's relation.
-/
namespace OutlineQuery

open Datalog (Var Clause Query Value Interpretation Builtins Store)
open Datalog.Clause (Holds HoldsAll holdsAll_append)

variable {α : Type} {f : Builtins α} {store : Store α}

/-- The clause of an operator has no variables but the two blocks. -/
theorem Operator.vars_clause (op : Operator) (left right : Var) :
    (op.clause left right).vars ⊆ [left, right] := by
  cases op <;>
    simp [Operator.clause, Hierarchy.childEdge, Hierarchy.ancestor, Hierarchy.linked,
      Hierarchy.either, Clause.vars, Clause.varsAll, Datalog.Term.var?]

namespace Plan

/-- The query for two related blocks before a scope is added to it. -/
def related (ignoreCase : Bool) (left : Group) (op : Operator) (right : Group) : Query where
  find := (Subject.ofBlock .left).find ++ (Subject.ofBlock .right).find
  clauses := (Subject.ofBlock .left).clauses ignoreCase .left left ++
    (Subject.ofBlock .right).clauses ignoreCase .right right ++
    [op.clause (Naming.left.roleVar .block) (Naming.right.roleVar .block)]
  rules := op.rule?.toList

/-- A scope adds its clauses to the left side of a query for pairs. -/
theorem relate_query (config : Config) (left : Group) (op : Operator) (right : Group)
    (scope : Scope) :
    (relate config left op right scope).query =
      let q := related config.caseInsensitive left op right
      q.append (Scope.additions q (BlockAnswer.target .left) (effectiveScope config scope)) := by
  have hleft : (Subject.ofBlock .left).entity = Naming.left.roleVar .block := by
    rw [Subject.ofBlock_eq Naming.left_plain]
  have hright : (Subject.ofBlock .right).entity = Naming.right.roleVar .block := by
    rw [Subject.ofBlock_eq Naming.right_plain]
  dsimp only [relate]
  rw [Scope.inject_value, hleft, hright, BlockAnswer.target_ofBlock Naming.left_plain]
  cases op <;> rfl

variable (ignoreCase : Bool) (left : Group) (op : Operator) (right : Group)

/-- A variable of the left side that is not in the left clauses is nowhere in the query. -/
theorem mentions_related_eq_false {r : Role} (hr : r = .blockId ∨ r = .pageUuid ∨ r = .pageId) :
    (related ignoreCase left op right).mentions (Naming.left.roleVar r) = false := by
  apply Scope.mentions_eq_false_iff.2
  intro c hc hv
  simp only [related, List.mem_append, List.mem_singleton] at hc
  -- The left side has other roles, the right side another lead, the operator only the two blocks.
  rcases hc with (hc | hc) | rfl
  · obtain ⟨s, hs, hfree⟩ := Subject.role_of_mem_ofBlock Naming.left_plain hc hv
    rw [Naming.roleVar_inj.1 hs] at hr
    simp [hfree] at hr
  · obtain ⟨s, hs, -⟩ := Subject.role_of_mem_ofBlock Naming.right_plain hc hv
    exact Naming.left_ne_right r s hs
  · have hblock := Operator.vars_clause op _ _ hv
    simp only [List.mem_cons, Naming.roleVar_inj, Naming.left_ne_right, List.not_mem_nil,
      or_false] at hblock
    simp [hblock] at hr

theorem unscoped_related :
    BlockAnswer.Unscoped .left (related ignoreCase left op right) := by
  have hfree {r : Role} := mentions_related_eq_false ignoreCase left op right (r := r)
  refine ⟨?_, hfree (by simp), hfree (by simp), hfree (by simp)⟩
  simp [related, Subject.clauses, Query.mentions, Subject.ofBlock_eq Naming.left_plain,
    Clause.vars, Datalog.Term.var?]

theorem page_mem_bound_related :
    Naming.left.roleVar .page ∈
      (related ignoreCase left op right).clauses.flatMap Clause.bound := by
  simp only [related, List.flatMap_append, List.mem_append]
  exact .inl (.inl (Subject.page_mem_bound_ofBlock Naming.left_plain))

theorem map_find_related (σ : Var → Value α) :
    (related ignoreCase left op right).find.map σ =
      (BlockAnswer.ofValuation .left σ).row ++ (BlockAnswer.ofValuation .right σ).row := by
  rw [related, List.map_append, Subject.map_find_ofBlock Naming.left_plain,
    Subject.map_find_ofBlock Naming.right_plain]

variable {ignoreCase left op right}

/-- The clauses of the two sides and of the operator, for the blocks that a valuation chooses. -/
theorem holdsAll_related_iff (hleft : left.conditions ≠ []) (hright : right.conditions ≠ [])
    {scope : List Var} {σ : Var → Value α}
    (hscope : (related ignoreCase left op right).clauses.flatMap Clause.bound ⊆ scope) :
    HoldsAll ((related ignoreCase left op right).interpretation f store)
        (related ignoreCase left op right).clauses scope σ ↔
      ((BlockAnswer.ofValuation .left σ).InStore store ∧
        PatternsBound ignoreCase .left left.conditions σ ∧
        left.combined f.finds ignoreCase (BlockAnswer.ofValuation .left σ).content = true) ∧
      ((BlockAnswer.ofValuation .right σ).InStore store ∧
        PatternsBound ignoreCase .right right.conditions σ ∧
        right.combined f.finds ignoreCase (BlockAnswer.ofValuation .right σ).content = true) ∧
      op.Relates store (BlockAnswer.ofValuation .left σ).block
        (BlockAnswer.ofValuation .right σ).block := by
  simp only [related, List.flatMap_append, List.append_subset] at hscope
  obtain ⟨⟨hboundLeft, hboundRight⟩, -⟩ := hscope
  change HoldsAll _ (_ ++ _ ++ [_]) scope σ ↔ _
  rw [holdsAll_append, holdsAll_append,
    Subject.holdsAll_ofBlock_iff Naming.left_plain hleft hboundLeft,
    Subject.holdsAll_ofBlock_iff Naming.right_plain hright hboundRight, and_assoc]
  simp only [HoldsAll, and_true]
  rw [op.holds_clause_iff rfl]
  rfl

/-- What a hierarchy query asks for: pairs of blocks in the store, the content of each matching its
side and the left one within the scope, that stand in the operator's relation. -/
theorem relate_rows (f : Builtins α) (store : Store α) (config : Config) (left : Group)
    (op : Operator) (right : Group) (hleft : left.conditions ≠ []) (hright : right.conditions ≠ [])
    (scope : Scope) :
    (relate config left op right scope).query.rows f store =
      {row | ∃ l r : BlockAnswer α, row = l.row ++ r.row ∧
        l.InStore store ∧ left.combined f.finds config.caseInsensitive l.content = true ∧
        l.Within f store config scope ∧
        r.InStore store ∧ right.combined f.finds config.caseInsensitive r.content = true ∧
        op.Relates store l.block r.block} := by
  ext row
  have hq := unscoped_related config.caseInsensitive left op right
  have hscope := Query.bound_subset_scope_append (related config.caseInsensitive left op right)
    (Scope.additions (related config.caseInsensitive left op right)
      (BlockAnswer.target .left) (effectiveScope config scope))
  have hpage := hscope (page_mem_bound_related config.caseInsensitive left op right)
  rw [relate_query, Query.mem_rows_append]
  constructor
  · rintro ⟨σ, hclauses, hadded, rfl⟩
    obtain ⟨⟨hl, -, hml⟩, ⟨hr, -, hmr⟩, hop⟩ := (holdsAll_related_iff hleft hright hscope).1 hclauses
    exact ⟨.ofValuation .left σ, .ofValuation .right σ, map_find_related _ _ _ _ σ, hl, hml,
      BlockAnswer.within_of_holdsAll hq hpage hadded, hr, hmr, hop⟩
  · rintro ⟨l, r, rfl, hl, hml, hwithin, hr, hmr, hop⟩
    obtain ⟨w, hw⟩ := hwithin.exists_pageUuid
    -- Nothing is asked of the right page's uuid, so any value will do for it.
    obtain ⟨σ, hσl, hσr⟩ := exists_valuation_sides
      (roleValues f config.caseInsensitive left.conditions l l.pageName w)
      (roleValues f config.caseInsensitive right.conditions r r.pageName r.uuid)
    have hvl := BlockAnswer.ofValuation_eq hσl
    have hvr := BlockAnswer.ofValuation_eq hσr
    refine ⟨σ, (holdsAll_related_iff hleft hright hscope).2 ?_,
      BlockAnswer.holdsAll_of_within hq hpage hσl hwithin hw, ?_⟩
    · rw [hvl, hvr]
      exact ⟨⟨hl, patternsBound_of_roleValues Naming.left_plain hσl, hml⟩,
        ⟨hr, patternsBound_of_roleValues Naming.right_plain hσr, hmr⟩, hop⟩
    · rw [map_find_related, hvl, hvr]

end Plan

/-- Of the two blocks with a `d` that are somewhere under the one with a `c`, the scope leaves the
one outside of journals: it is two steps below. -/
theorem relate_rows_letterStore :
    let rows := (Plan.relate .default ⟨[askFor "d" false], .and⟩ .descendantOf
      ⟨[askFor "c" false], .and⟩ ⟨[], [], true⟩).query.rows letterEngine letterStore
    [.text "u1", .text "ad", .text "Page", .text "u3", .text "c", .text "Page"] ∈ rows ∧
      [.text "u2", .text "bd", .text "Day", .text "u3", .text "c", .text "Page"] ∉ rows := by
  intro rows
  have hrows := Plan.relate_rows letterEngine letterStore .default ⟨[askFor "d" false], .and⟩
    .descendantOf ⟨[askFor "c" false], .and⟩ (by simp) (by simp) ⟨[], [], true⟩
  rw [show rows = _ from hrows]
  constructor
  · refine ⟨⟨.datum 1, .datum 4, .text "u1", .text "ad", .text "Page"⟩,
      ⟨.datum 3, .datum 4, .text "u3", .text "c", .text "Page"⟩, rfl, ?_, ?_, ?_, ?_, ?_, ?_⟩
    · constructor <;> simp [Store.Has, letterStore]
    · decide +kernel
    · refine ⟨?_, ?_, fun _ => by simp [Store.Has, letterStore, Datalog.Attr.journal]⟩
      all_goals
        rintro ⟨other, -, entry, hentry, -⟩
        cases hentry
    · constructor <;> simp [Store.Has, letterStore]
    · decide +kernel
    · have hfirst : letterStore.Child (.datum 1) (.datum 2) := by
        simp [Store.Child, Store.Has, letterStore]
      have hsecond : letterStore.Child (.datum 2) (.datum 3) := by
        simp [Store.Child, Store.Has, letterStore]
      exact .tail (.single hfirst) hsecond
  · rintro ⟨l, r, hrow, hl, -, hwithin, -⟩
    simp only [BlockAnswer.row, List.cons_append, List.cons.injEq] at hrow
    refine hwithin.journal (.inl rfl) ?_
    rw [letterStore_page_second hl hrow.1.symm]
    simp [Store.Has, letterStore]

end OutlineQuery
