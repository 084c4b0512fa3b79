import OutlineQuery.Proofs.Plan.Within

/-!
The rows of a query with one side: exactly the blocks or pages that the conditions and the scope ask
for.
-/
namespace OutlineQuery

open Datalog (Var Clause Query Value Interpretation Builtins Store)
open Datalog.Clause (HoldsAll holdsAll_append)

variable {α : Type} {f : Builtins α} {store : Store α}

namespace Plan

/-- The query for one side before a scope is added to it. -/
def unscoped (ignoreCase : Bool) (g : Group) (subject : Subject) : Query :=
  ⟨subject.find, subject.clauses ignoreCase .root g, []⟩

theorem select_query (config : Config) (e : Entity) (g : Group) (scope : Scope) :
    (select config e g scope).query =
      let subject := Subject.ofEntity e .root
      let q := unscoped config.caseInsensitive g subject
      q.append (Scope.additions q (target e subject) (effectiveScope config scope)) := by
  dsimp only [select]
  rw [Scope.inject_value]
  rfl

theorem unscoped_block (ignoreCase : Bool) (g : Group) :
    BlockAnswer.Unscoped .root (unscoped ignoreCase g (.ofBlock .root)) := by
  have hfree (r : Role) (hr : r = .blockId ∨ r = .pageUuid ∨ r = .pageId) :
      (unscoped ignoreCase g (.ofBlock .root)).mentions (Naming.root.roleVar r) = false := by
    apply Scope.mentions_eq_false_iff.2
    intro c hc hv
    obtain ⟨s, hs, hfree⟩ := Subject.role_of_mem_ofBlock Naming.root_plain hc hv
    rw [Naming.roleVar_inj.1 hs] at hr
    simp [hfree] at hr
  refine ⟨?_, hfree _ (by simp), hfree _ (by simp), hfree _ (by simp)⟩
  simp [unscoped, Subject.clauses, Query.mentions, Subject.ofBlock_eq Naming.root_plain,
    Clause.vars, Datalog.Term.var?]

theorem unscoped_page (ignoreCase : Bool) (g : Group) :
    PageAnswer.Unscoped .root (unscoped ignoreCase g (.ofPage .root)) := by
  constructor
  · simp [unscoped, Subject.clauses, Query.mentions, Subject.ofPage_eq Naming.root_plain,
      Clause.vars, Datalog.Term.var?]
  · apply Scope.mentions_eq_false_iff.2
    intro c hc hv
    obtain ⟨s, hs, hfree⟩ := Subject.role_of_mem_ofPage Naming.root_plain hc hv
    exact hfree (Naming.roleVar_inj.1 hs).symm

/-- The rows of a query for blocks. -/
theorem mem_select_block_rows {config : Config} {g : Group} (hg : g.conditions ≠ [])
    {scope : Scope} {row : List (Value α)} :
    row ∈ (select config .block g scope).query.rows f store ↔
      ∃ a : BlockAnswer α, row = a.row ∧ a.InStore store ∧
        g.combined f.finds config.caseInsensitive a.content = true ∧
        a.Within f store config scope := by
  have hn := Naming.root_plain
  have hq := unscoped_block config.caseInsensitive g
  have hscope := Query.bound_subset_scope_append
    (unscoped config.caseInsensitive g (.ofBlock .root))
    (Scope.additions (unscoped config.caseInsensitive g (.ofBlock .root))
      (BlockAnswer.target .root) (effectiveScope config scope))
  have hpage := hscope (Subject.page_mem_bound_ofBlock hn)
  rw [select_query]
  dsimp only [Subject.ofEntity]
  rw [BlockAnswer.target_ofBlock hn, Query.mem_rows_append]
  constructor
  · rintro ⟨σ, hside, hadded, rfl⟩
    obtain ⟨hstore, -, hholds⟩ := (Subject.holdsAll_ofBlock_iff hn hg hscope).1 hside
    exact ⟨BlockAnswer.ofValuation .root σ, Subject.map_find_ofBlock hn, hstore, hholds,
      BlockAnswer.within_of_holdsAll hq hpage hadded⟩
  · rintro ⟨a, rfl, hstore, hholds, hwithin⟩
    -- The scope may ask for the uuid of the page, which the answer does not have: one is chosen.
    obtain ⟨w, hw⟩ := hwithin.exists_pageUuid
    obtain ⟨σ, hσ⟩ := exists_valuation Naming.root
      (roleValues f config.caseInsensitive g.conditions a a.pageName w)
    have ha := BlockAnswer.ofValuation_eq hσ
    have hside := (Subject.holdsAll_ofBlock_iff (I := (unscoped config.caseInsensitive g
      (.ofBlock .root)).interpretation f store) hn hg hscope).2
      ⟨ha ▸ hstore, patternsBound_of_roleValues hn hσ, ha ▸ hholds⟩
    refine ⟨σ, hside, BlockAnswer.holdsAll_of_within hq hpage hσ hwithin hw, ?_⟩
    rw [unscoped, Subject.map_find_ofBlock hn, ha]

/-- The rows of a query for pages. -/
theorem mem_select_page_rows {config : Config} {g : Group} (hg : g.conditions ≠ [])
    {scope : Scope} {row : List (Value α)} :
    row ∈ (select config .page g scope).query.rows f store ↔
      ∃ a : PageAnswer α, row = a.row ∧ a.InStore store ∧
        g.combined f.finds config.caseInsensitive a.title = true ∧
        a.Within f store config scope := by
  have hn := Naming.root_plain
  have hq := unscoped_page config.caseInsensitive g
  have hscope := Query.bound_subset_scope_append
    (unscoped config.caseInsensitive g (.ofPage .root))
    (Scope.additions (unscoped config.caseInsensitive g (.ofPage .root))
      (PageAnswer.target .root) (effectiveScope config scope))
  have hpage := hscope (Subject.page_mem_bound_ofPage hn)
  rw [select_query]
  dsimp only [Subject.ofEntity]
  rw [PageAnswer.target_ofPage hn, Query.mem_rows_append]
  constructor
  · rintro ⟨σ, hside, hadded, rfl⟩
    obtain ⟨hstore, -, hholds⟩ := (Subject.holdsAll_ofPage_iff hn hg hscope).1 hside
    exact ⟨PageAnswer.ofValuation .root σ, Subject.map_find_ofPage hn, hstore, hholds,
      ((PageAnswer.holdsAll_additions_iff hq hpage).1 hadded).2⟩
  · rintro ⟨a, rfl, hstore, hholds, hwithin⟩
    -- The roles of a block are not in the query, so any values will do for them.
    obtain ⟨σ, hσ⟩ := exists_valuation Naming.root
      (roleValues f config.caseInsensitive g.conditions
        ⟨a.page, a.page, a.uuid, a.title, a.title⟩ a.title a.uuid)
    have ha : PageAnswer.ofValuation .root σ = a := by
      simp only [PageAnswer.ofValuation, hσ, roleValues]
    have hid : σ (Naming.root.roleVar .pageId) =
        .text (f.str (σ (Naming.root.roleVar .pageUuid))) := by
      simp only [hσ, roleValues]
    have hside := (Subject.holdsAll_ofPage_iff (I := (unscoped config.caseInsensitive g
      (.ofPage .root)).interpretation f store) hn hg hscope).2
      ⟨ha ▸ hstore, patternsBound_of_roleValues hn hσ, ha ▸ hholds⟩
    refine ⟨σ, hside,
      (PageAnswer.holdsAll_additions_iff hq hpage).2 ⟨fun _ => hid, ha ▸ hwithin⟩, ?_⟩
    rw [unscoped, Subject.map_find_ofPage hn, ha]

/-- What a query with one side asks for. For blocks: those in the store whose content the conditions
hold of, within the scope. For pages: likewise by their titles. -/
theorem select_rows (f : Builtins α) (store : Store α) (config : Config) (e : Entity) (g : Group)
    (hg : g.conditions ≠ []) (scope : Scope) :
    (select config e g scope).query.rows f store =
      match e with
      | .block => {row | ∃ a : BlockAnswer α, row = a.row ∧ a.InStore store ∧
          g.combined f.finds config.caseInsensitive a.content = true ∧
          a.Within f store config scope}
      | .page => {row | ∃ a : PageAnswer α, row = a.row ∧ a.InStore store ∧
          g.combined f.finds config.caseInsensitive a.title = true ∧
          a.Within f store config scope} := by
  ext row
  cases e with
  | block => exact mem_select_block_rows hg
  | page => exact mem_select_page_rows hg

end Plan

/-- A matcher for patterns that ask for one letter: some letter of the source, but for that of the
switch, is in the text. -/
def findsLetter (source text : String) : Bool :=
  source.toList.any fun c => c.isAlpha && c != 'i' && text.toList.contains c

def letterEngine : Builtins Nat where
  finds source v :=
    match v with
    | .text s => findsLetter source s
    | _ => false
  str v :=
    match v with
    | .text s => s
    | .datum i => toString i
    | _ => ""

/-- Three blocks, each the parent of the one before it. The second one is in a journal. -/
def letterStore : Store Nat where
  triples :=
    let block := fun i uuid content page =>
      [⟨.datum i, Datalog.Attr.uuid, .text uuid⟩, ⟨.datum i, Datalog.Attr.content, .text content⟩,
       ⟨.datum i, Datalog.Attr.page, .datum page⟩]
    block 1 "u1" "ad" 4 ++ block 2 "u2" "bd" 5 ++ block 3 "u3" "c" 4 ++
      [⟨.datum 1, Datalog.Attr.parent, .datum 2⟩, ⟨.datum 2, Datalog.Attr.parent, .datum 3⟩,
       ⟨.datum 4, Datalog.Attr.displayName, .text "Page"⟩,
       ⟨.datum 5, Datalog.Attr.displayName, .text "Day"⟩,
       ⟨.datum 5, Datalog.Attr.journal, .bool true⟩]

theorem letterStore_page_second {a : BlockAnswer Nat} (ha : a.InStore letterStore)
    (huuid : a.uuid = .text "u2") : a.page = .datum 5 := by
  have hblock : a.block = .datum 2 := by
    have hhas := ha.uuid
    rw [huuid] at hhas
    simpa [Store.Has, letterStore, Datalog.Attr.uuid, Datalog.Attr.content] using hhas
  have hpage := ha.page
  rw [hblock] at hpage
  simpa [Store.Has, letterStore, Datalog.Attr.page, Datalog.Attr.uuid, Datalog.Attr.content,
    Datalog.Attr.parent] using hpage

/-- Blocks with an `a` or without a `c`, outside of journals: the third block has a `c`, and the
second one is in a journal. -/
theorem select_rows_letterStore :
    let rows := (Plan.select .default .block ⟨[askFor "a" false, askFor "c" true], .or⟩
      ⟨[" u1 ", "u2", "u3"], [], true⟩).query.rows letterEngine letterStore
    [.text "u1", .text "ad", .text "Page"] ∈ rows ∧
      [.text "u2", .text "bd", .text "Day"] ∉ rows ∧
      [.text "u3", .text "c", .text "Page"] ∉ rows := by
  intro rows
  have hrows := Plan.select_rows letterEngine letterStore .default .block
    ⟨[askFor "a" false, askFor "c" true], .or⟩ (by simp) ⟨[" u1 ", "u2", "u3"], [], true⟩
  rw [show rows = _ from hrows]
  refine ⟨?_, ?_, ?_⟩
  · refine ⟨⟨.datum 1, .datum 4, .text "u1", .text "ad", .text "Page"⟩, rfl, ?_, ?_, ?_⟩
    · constructor <;> simp [Store.Has, letterStore]
    · decide +kernel
    · refine ⟨fun _ => ⟨by decide, " u1 ", by simp, by decide +kernel⟩, ?_, ?_⟩
      · rintro ⟨other, -, entry, hentry, -⟩
        cases hentry
      · intro _
        simp [Store.Has, letterStore, Datalog.Attr.journal]
  · rintro ⟨a, hrow, hstore, -, hwithin⟩
    simp only [BlockAnswer.row, List.cons.injEq] at hrow
    refine hwithin.journal (.inl rfl) ?_
    rw [letterStore_page_second hstore hrow.1.symm]
    simp [Store.Has, letterStore]
  · rintro ⟨a, hrow, hstore, hholds, -⟩
    simp only [BlockAnswer.row, List.cons.injEq] at hrow
    rw [← hrow.2.1] at hholds
    revert hholds
    decide +kernel

end OutlineQuery
