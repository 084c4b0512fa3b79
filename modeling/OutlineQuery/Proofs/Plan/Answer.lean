import OutlineQuery.Proofs.Plan.Matching
import OutlineQuery.Proofs.Scope.Restriction

/-!
Blocks and pages as answers: what a store has to say about them, and what the clauses of a side mean
for the answer that a valuation chooses.
-/
namespace OutlineQuery

open Datalog (Var Clause Query Value Interpretation Builtins Store)
open Datalog.Clause (Holds HoldsAll holdsAll_iff)

variable {α : Type}

/-- A block with its page, its uuid, its content and the name of its page. -/
structure BlockAnswer (α : Type) where
  block : Value α
  page : Value α
  uuid : Value α
  content : Value α
  pageName : Value α

/-- A page with its uuid and its title. -/
structure PageAnswer (α : Type) where
  page : Value α
  uuid : Value α
  title : Value α

namespace BlockAnswer

def row (a : BlockAnswer α) : List (Value α) :=
  [a.uuid, a.content, a.pageName]

structure InStore (store : Store α) (a : BlockAnswer α) : Prop where
  content : store.Has a.block Datalog.Attr.content a.content
  uuid : store.Has a.block Datalog.Attr.uuid a.uuid
  page : store.Has a.block Datalog.Attr.page a.page
  pageName : store.Has a.page Datalog.Attr.displayName a.pageName

/-- The block is within a scope: its uuid is admitted, its page has an admitted uuid if pages are
listed, and is no journal page if the scope or the settings exclude those. -/
structure Within (f : Builtins α) (store : Store α) (config : Config) (s : Scope)
    (a : BlockAnswer α) : Prop where
  block : Scope.Admits s.blockIds (f.str a.uuid)
  page : (∃ other, Scope.Lists s.pageIds other) →
    ∃ w, store.Has a.page Datalog.Attr.uuid w ∧ Scope.Lists s.pageIds (f.str w)
  journal : s.excludeJournals = true ∨ config.excludeJournals = true →
    ¬store.Has a.page Datalog.Attr.journal (.bool true)

def ofValuation (n : Naming) (σ : Var → Value α) : BlockAnswer α where
  block := σ (n.roleVar .block)
  page := σ (n.roleVar .page)
  uuid := σ (n.roleVar .blockUuid)
  content := σ (n.roleVar .content)
  pageName := σ (n.roleVar .pageName)

end BlockAnswer

namespace PageAnswer

def row (a : PageAnswer α) : List (Value α) :=
  [a.uuid, a.title]

structure InStore (store : Store α) (a : PageAnswer α) : Prop where
  title : store.Has a.page Datalog.Attr.displayName a.title
  uuid : store.Has a.page Datalog.Attr.uuid a.uuid

/-- The page is within a scope: its uuid is admitted as that of a page, and it is no journal page if
the scope or the settings exclude those. Lists of blocks are not about it. -/
structure Within (f : Builtins α) (store : Store α) (config : Config) (s : Scope)
    (a : PageAnswer α) : Prop where
  page : Scope.Admits s.pageIds (f.str a.uuid)
  journal : s.excludeJournals = true ∨ config.excludeJournals = true →
    ¬store.Has a.page Datalog.Attr.journal (.bool true)

def ofValuation (n : Naming) (σ : Var → Value α) : PageAnswer α where
  page := σ (n.roleVar .page)
  uuid := σ (n.roleVar .pageUuid)
  title := σ (n.roleVar .title)

end PageAnswer

/-- The values of a side's variables for given values of the page's uuid and of the other roles: the
identifiers are written uuids, and each pattern variable is the pattern of its condition. -/
def roleValues (f : Builtins α) (ignoreCase : Bool) (cs : List Condition)
    (block : BlockAnswer α) (title pageUuid : Value α) : Role → Value α
  | .block => block.block
  | .page => block.page
  | .content => block.content
  | .pageName => block.pageName
  | .title => title
  | .blockUuid => block.uuid
  | .blockId => .text (f.str block.uuid)
  | .pageUuid => pageUuid
  | .pageId => .text (f.str pageUuid)
  | .pattern i => .pattern ((cs[i]?.map (·.source ignoreCase)).getD "")

/-- A valuation with such values binds all patterns. -/
theorem patternsBound_of_roleValues {f : Builtins α} {ignoreCase : Bool} {cs : List Condition}
    {block : BlockAnswer α} {title pageUuid : Value α} {n : Naming} (hn : n.Plain)
    {σ : Var → Value α}
    (hσ : ∀ r, σ (n.roleVar r) = roleValues f ignoreCase cs block title pageUuid r) :
    PatternsBound ignoreCase n cs σ := by
  intro t ht
  obtain ⟨i, hi, hre⟩ := PatternTest.exists_place_of_mem_number ht
  rw [hre, Nat.zero_add, Naming.patternVar_eq hn, hσ, roleValues, hi]
  rfl

theorem BlockAnswer.ofValuation_eq {f : Builtins α} {ignoreCase : Bool} {cs : List Condition}
    {a : BlockAnswer α} {title pageUuid : Value α} {n : Naming} {σ : Var → Value α}
    (hσ : ∀ r, σ (n.roleVar r) = roleValues f ignoreCase cs a title pageUuid r) :
    ofValuation n σ = a := by
  simp only [ofValuation, hσ, roleValues]

namespace Subject

variable {n : Naming}

/-- The subject of a side for blocks, with its variables by their roles. -/
theorem ofBlock_eq (hn : n.Plain) :
    ofBlock n =
      { entity := n.roleVar .block
        page := n.roleVar .page
        field := n.roleVar .content
        find := [n.roleVar .blockUuid, n.roleVar .content, n.roleVar .pageName]
        columns := [n.column "block_uuid", n.column "content", n.column "page_name"]
        base :=
          [.triple (n.roleVar .block) Datalog.Attr.content (.var (n.roleVar .content)),
           .triple (n.roleVar .block) Datalog.Attr.uuid (.var (n.roleVar .blockUuid)),
           .triple (n.roleVar .block) Datalog.Attr.page (.var (n.roleVar .page)),
           .triple (n.roleVar .page) Datalog.Attr.displayName (.var (n.roleVar .pageName))] } := by
  have hb : n.var "b" = n.roleVar .block := Naming.var_role hn .block (by simp [Role.name])
  have hp : n.var "p" = n.roleVar .page := Naming.var_role hn .page (by simp [Role.name])
  have hc : n.var "content" = n.roleVar .content :=
    Naming.var_role hn .content (by simp [Role.name])
  have hname : n.var "page-name" = n.roleVar .pageName :=
    Naming.var_role hn .pageName (by simp [Role.name])
  simp only [ofBlock, hb, hp, hc, hname, Naming.uuidVar_block]

/-- The subject of a side for pages, with its variables by their roles. -/
theorem ofPage_eq (hn : n.Plain) :
    ofPage n =
      { entity := n.roleVar .page
        page := n.roleVar .page
        field := n.roleVar .title
        find := [n.roleVar .pageUuid, n.roleVar .title]
        columns := [n.column "page_uuid", n.column "title"]
        base :=
          [.triple (n.roleVar .page) Datalog.Attr.displayName (.var (n.roleVar .title)),
           .triple (n.roleVar .page) Datalog.Attr.uuid (.var (n.roleVar .pageUuid))] } := by
  have hp : n.var "p" = n.roleVar .page := Naming.var_role hn .page (by simp [Role.name])
  have ht : n.var "title" = n.roleVar .title := Naming.var_role hn .title (by simp [Role.name])
  simp only [ofPage, hp, ht, Naming.uuidVar_page]

/-- The clauses of one side: those that bind its variables and those that test its field. -/
def clauses (ignoreCase : Bool) (n : Naming) (g : Group) (subject : Subject) : List Clause :=
  subject.base ++ matchClauses ignoreCase n subject.field g

variable {I : Interpretation α} {scope : List Var} {σ : Var → Value α} {ignoreCase : Bool}
  {g : Group}

theorem map_find_ofBlock (hn : n.Plain) :
    (ofBlock n).find.map σ = (BlockAnswer.ofValuation n σ).row := by
  rw [ofBlock_eq hn]
  rfl

theorem map_find_ofPage (hn : n.Plain) :
    (ofPage n).find.map σ = (PageAnswer.ofValuation n σ).row := by
  rw [ofPage_eq hn]
  rfl

/-- The page is bound by the side itself, so that clauses added later can exclude it. -/
theorem page_mem_bound_ofBlock (hn : n.Plain) :
    n.roleVar .page ∈ ((ofBlock n).clauses ignoreCase n g).flatMap Clause.bound := by
  simp [clauses, ofBlock_eq hn, Clause.bound, Datalog.Term.var?]

theorem page_mem_bound_ofPage (hn : n.Plain) :
    n.roleVar .page ∈ ((ofPage n).clauses ignoreCase n g).flatMap Clause.bound := by
  simp [clauses, ofPage_eq hn, Clause.bound, Datalog.Term.var?]

/-- The clauses of a side whose field is bound by its base: the base holds, the patterns are bound,
and the group holds of the field. -/
theorem holdsAll_clauses_iff {subject : Subject} (hg : g.conditions ≠ [])
    (hfield : subject.field ∈ subject.base.flatMap Clause.bound)
    (hscope : (subject.clauses ignoreCase n g).flatMap Clause.bound ⊆ scope) :
    HoldsAll I (subject.clauses ignoreCase n g) scope σ ↔
      HoldsAll I subject.base scope σ ∧ PatternsBound ignoreCase n g.conditions σ ∧
        g.combined I.builtins.finds ignoreCase (σ subject.field) = true := by
  rw [clauses, List.flatMap_append, List.append_subset] at hscope
  obtain ⟨hbase, htests⟩ := hscope
  rw [clauses, Datalog.Clause.holdsAll_append, holdsAll_matchClauses_iff hg (hbase hfield)
    fun t ht => htests (re_mem_bound_matchClauses ht)]

/-- The clauses of a side for blocks: the store has the block that the valuation chooses, the
patterns are bound, and the group holds of the content. -/
theorem holdsAll_ofBlock_iff (hn : n.Plain) (hg : g.conditions ≠ [])
    (hscope : ((ofBlock n).clauses ignoreCase n g).flatMap Clause.bound ⊆ scope) :
    HoldsAll I ((ofBlock n).clauses ignoreCase n g) scope σ ↔
      (BlockAnswer.ofValuation n σ).InStore I.store ∧ PatternsBound ignoreCase n g.conditions σ ∧
        g.combined I.builtins.finds ignoreCase (BlockAnswer.ofValuation n σ).content = true := by
  have hfield : (ofBlock n).field ∈ (ofBlock n).base.flatMap Clause.bound := by
    simp [ofBlock_eq hn, Clause.bound, Datalog.Term.var?]
  rw [holdsAll_clauses_iff hg hfield hscope, ofBlock_eq hn]
  refine and_congr_left fun _ => ?_
  constructor
  · rintro ⟨hc, hu, hp, hname, -⟩
    exact ⟨hc, hu, hp, hname⟩
  · rintro ⟨hc, hu, hp, hname⟩
    exact ⟨hc, hu, hp, hname, trivial⟩

/-- The clauses of a side for pages. -/
theorem holdsAll_ofPage_iff (hn : n.Plain) (hg : g.conditions ≠ [])
    (hscope : ((ofPage n).clauses ignoreCase n g).flatMap Clause.bound ⊆ scope) :
    HoldsAll I ((ofPage n).clauses ignoreCase n g) scope σ ↔
      (PageAnswer.ofValuation n σ).InStore I.store ∧ PatternsBound ignoreCase n g.conditions σ ∧
        g.combined I.builtins.finds ignoreCase (PageAnswer.ofValuation n σ).title = true := by
  have hfield : (ofPage n).field ∈ (ofPage n).base.flatMap Clause.bound := by
    simp [ofPage_eq hn, Clause.bound, Datalog.Term.var?]
  rw [holdsAll_clauses_iff hg hfield hscope, ofPage_eq hn]
  refine and_congr_left fun _ => ?_
  constructor
  · rintro ⟨ht, hu, -⟩
    exact ⟨ht, hu⟩
  · rintro ⟨ht, hu⟩
    exact ⟨ht, hu, trivial⟩

/-- The variables of a side have the roles of its base and its field, or are those of patterns. -/
theorem role_of_mem_clauses (hn : n.Plain) {subject : Subject} {P : Role → Prop}
    (hbase : ∀ c ∈ subject.base, ∀ v ∈ c.vars, ∃ r, v = n.roleVar r ∧ P r)
    (hfield : ∃ r, subject.field = n.roleVar r ∧ P r) (hpattern : ∀ i, P (.pattern i))
    {c : Clause} {v : Var} (hc : c ∈ subject.clauses ignoreCase n g) (hv : v ∈ c.vars) :
    ∃ r, v = n.roleVar r ∧ P r := by
  rcases List.mem_append.1 hc with hc | hc
  · exact hbase c hc v hv
  · rcases mem_vars_matchClauses hc hv with rfl | ⟨i, rfl⟩
    · exact hfield
    · exact ⟨.pattern i, Naming.patternVar_eq hn i, hpattern i⟩

/-- A side for blocks has no identifier yet, and no uuid of the page. -/
theorem role_of_mem_ofBlock (hn : n.Plain) {c : Clause} {v : Var}
    (hc : c ∈ (ofBlock n).clauses ignoreCase n g) (hv : v ∈ c.vars) :
    ∃ r, v = n.roleVar r ∧ r ≠ .blockId ∧ r ≠ .pageUuid ∧ r ≠ .pageId := by
  refine role_of_mem_clauses hn ?_ ⟨.content, by rw [ofBlock_eq hn], by simp⟩ (by simp) hc hv
  simp [ofBlock_eq hn, Clause.vars, Datalog.Term.var?]

/-- A side for pages has no identifier yet. -/
theorem role_of_mem_ofPage (hn : n.Plain) {c : Clause} {v : Var}
    (hc : c ∈ (ofPage n).clauses ignoreCase n g) (hv : v ∈ c.vars) :
    ∃ r, v = n.roleVar r ∧ r ≠ .pageId := by
  refine role_of_mem_clauses hn ?_ ⟨.title, by rw [ofPage_eq hn], by simp⟩ (by simp) hc hv
  simp [ofPage_eq hn, Clause.vars, Datalog.Term.var?]

end Subject

end OutlineQuery
