import Mathlib.Data.Set.Defs
import OutlineQuery.Datalog.Query

/-!
What Datalog queries mean over a finite store of triples. A valuation gives every variable a value;
the rows of a query are the values of its result variables under the valuations that satisfy all its
clauses. A negation holds when no valuation that agrees with the present one on the variables of the
surrounding clauses satisfies its body; a disjunction shares with the query the variables that it
lists. Rules mean the least relations closed under their bodies.
-/
namespace OutlineQuery.Datalog

open OutlineQuery.Text (StringSet)

/-- What a variable can stand for. A datum is whatever a store holds besides text and truth values:
entities, identifiers, numbers. -/
inductive Value (α : Type) where
  | datum (a : α)
  | text (s : String)
  | bool (b : Bool)
  | pattern (source : String)
  | set (items : StringSet)

instance {α : Type} : Nonempty (Value α) :=
  ⟨.bool false⟩

structure Triple (α : Type) where
  entity : Value α
  attr : String
  value : Value α

structure Store (α : Type) where
  triples : List (Triple α)

variable {α : Type}

def Store.Has (store : Store α) (entity : Value α) (attr : String) (value : Value α) : Prop :=
  ⟨entity, attr, value⟩ ∈ store.triples

/-- What an engine brings with it: how the pattern with a source is looked for in a value, and how a
value is written as text. -/
structure Builtins (α : Type) where
  finds : String → Value α → Bool
  str : Value α → String

namespace Builtins

def value? (f : Builtins α) (func : String) (args : List (Value α)) : Option (Value α) :=
  if func = "re-pattern" then
    match args with
    | [.text source] => some (.pattern source)
    | _ => none
  else if func = "str" then some (.text (String.join (args.map f.str)))
  else none

def Accepts (f : Builtins α) (func : String) (args : List (Value α)) : Prop :=
  if func = "re-find" then
    match args with
    | [.pattern source, v] => f.finds source v = true
    | _ => False
  else if func = "=" then args.Pairwise (· = ·)
  else if func = "contains?" then
    match args with
    | [.set items, v] => ∃ s ∈ items, v = .text s
    | _ => False
  else False

end Builtins

def Term.value (σ : Var → Value α) : Term → Value α
  | var v => σ v
  | str s => .text s
  | bool b => .bool b
  | set items => .set items

/-- What clauses are read in. -/
structure Interpretation (α : Type) where
  builtins : Builtins α
  store : Store α
  /-- What the rule of a name holds of. -/
  rules : String → List (Value α) → Prop

def Agree (vs : List Var) (σ τ : Var → Value α) : Prop :=
  ∀ v ∈ vs, σ v = τ v

theorem Agree.symm {vs : List Var} {σ τ : Var → Value α} (h : Agree vs σ τ) : Agree vs τ σ :=
  fun v hv => (h v hv).symm

theorem Agree.trans {vs : List Var} {σ τ ρ : Var → Value α} (h : Agree vs σ τ)
    (h' : Agree vs τ ρ) : Agree vs σ ρ :=
  fun v hv => (h v hv).trans (h' v hv)

namespace Clause

/-- The variables by which a clause is tied to those around it. A negation brings none of its own,
and a disjunction only those that it lists. -/
def bound : Clause → List Var
  | triple entity _ value => entity :: value.var?.toList
  | binding call out => call.vars ++ [out]
  | test call => call.vars
  | orJoin shared _ => shared
  | absent _ => []
  | rule _ args => args

mutual

/-- Whether a clause holds under a valuation, where `scope` has the variables of the clauses around
it. -/
def Holds (I : Interpretation α) : Clause → (scope : List Var) → (Var → Value α) → Prop
  | triple entity attr value, _, σ => I.store.Has (σ entity) attr (value.value σ)
  | binding call out, _, σ => I.builtins.value? call.func (call.args.map (·.value σ)) = some (σ out)
  | test call, _, σ => I.builtins.Accepts call.func (call.args.map (·.value σ))
  | orJoin shared branches, _, σ => ∃ τ, Agree shared τ σ ∧ HoldsSome I branches shared τ
  | absent body, scope, σ =>
    ¬∃ τ, Agree scope τ σ ∧ HoldsAll I body (scope ++ body.flatMap bound) τ
  | rule name args, _, σ => I.rules name (args.map σ)

def HoldsAll (I : Interpretation α) : List Clause → List Var → (Var → Value α) → Prop
  | [], _, _ => True
  | c :: rest, scope, σ => Holds I c scope σ ∧ HoldsAll I rest scope σ

def HoldsSome (I : Interpretation α) : List Clause → List Var → (Var → Value α) → Prop
  | [], _, _ => False
  | c :: rest, shared, σ => Holds I c (shared ++ c.bound) σ ∨ HoldsSome I rest shared σ

end

end Clause

/-- Whether relations for the names of some rules are closed under their bodies. -/
def Closed (f : Builtins α) (store : Store α) (rules : List Rule)
    (R : String → List (Value α) → Prop) : Prop :=
  ∀ r ∈ rules, ∀ body ∈ r.bodies, ∀ σ : Var → Value α,
    Clause.HoldsAll ⟨f, store, R⟩ body (r.params ++ body.flatMap Clause.bound) σ →
      R r.name (r.params.map σ)

/-- What follows by some rules: what every closed relation has. -/
def Derived (f : Builtins α) (store : Store α) (rules : List Rule) (name : String)
    (args : List (Value α)) : Prop :=
  ∀ R, Closed f store rules R → R name args

namespace Query

def interpretation (q : Query) (f : Builtins α) (store : Store α) : Interpretation α :=
  ⟨f, store, Derived f store q.rules⟩

/-- The variables that tie the clauses of a query together. -/
def scope (q : Query) : List Var :=
  q.clauses.flatMap Clause.bound

/-- The rows of a query: the values of its result variables wherever all its clauses hold. -/
def rows (q : Query) (f : Builtins α) (store : Store α) : Set (List (Value α)) :=
  {row | ∃ σ, Clause.HoldsAll (q.interpretation f store) q.clauses q.scope σ ∧ row = q.find.map σ}

end Query

namespace Clause

variable {I : Interpretation α} {scope : List Var} {σ τ : Var → Value α}

theorem holdsAll_iff {cs : List Clause} :
    HoldsAll I cs scope σ ↔ ∀ c ∈ cs, Holds I c scope σ := by
  induction cs with
  | nil => simp [HoldsAll]
  | cons c rest ih => simp [HoldsAll, ih]

theorem holdsAll_append {cs ds : List Clause} :
    HoldsAll I (cs ++ ds) scope σ ↔ HoldsAll I cs scope σ ∧ HoldsAll I ds scope σ := by
  simp only [holdsAll_iff, List.forall_mem_append]

/-- A disjunction holds if a branch does, which may bind variables of its own. -/
theorem holdsSome_iff {branches : List Clause} :
    HoldsSome I branches scope σ ↔ ∃ c ∈ branches, Holds I c (scope ++ c.bound) σ := by
  induction branches with
  | nil => simp [HoldsSome]
  | cons c rest ih => simp [HoldsSome, ih]

theorem mem_varsAll {v : Var} {cs : List Clause} : v ∈ varsAll cs ↔ ∃ c ∈ cs, v ∈ c.vars := by
  induction cs with
  | nil => simp [varsAll]
  | cons c rest ih => simp [varsAll, ih]

theorem bound_subset_vars (c : Clause) : c.bound ⊆ c.vars := by
  cases c <;> simp [bound, vars]

theorem call_values_congr (call : Call) (h : Agree call.vars σ τ) :
    call.args.map (·.value σ) = call.args.map (·.value τ) := by
  apply List.map_congr_left
  intro t ht
  cases t with
  | var v => exact h v (List.mem_filterMap.2 ⟨_, ht, rfl⟩)
  | str s => rfl
  | bool b => rfl
  | set items => rfl

/-- Whether a clause holds depends on its own variables and those around it only. -/
theorem holds_congr (c : Clause) (hc : Agree c.vars σ τ) (hs : Agree scope σ τ) :
    Holds I c scope σ ↔ Holds I c scope τ := by
  cases c with
  | triple entity attr value =>
    have he : σ entity = τ entity := hc entity (by simp [vars])
    have hv : value.value σ = value.value τ := by
      cases value with
      | var v => exact hc v (by simp [vars, Term.var?])
      | str s => rfl
      | bool b => rfl
      | set items => rfl
    simp only [Holds, he, hv]
  | binding call out =>
    have hargs := call_values_congr call fun v hv => hc v (by simp [vars, hv])
    have hout : σ out = τ out := hc out (by simp [vars])
    simp only [Holds, hargs, hout]
  | test call =>
    have hargs := call_values_congr call hc
    simp only [Holds, hargs]
  -- A branch is tried under any valuation that agrees on the shared variables.
  | orJoin shared branches =>
    have hshared : Agree shared σ τ := fun v hv => hc v (by simp [vars, hv])
    simp only [Holds]
    exact exists_congr fun ρ =>
      and_congr_left' ⟨fun h => h.trans hshared, fun h => h.trans hshared.symm⟩
  -- A negated body is tried under any valuation that agrees on the scope, which need not be in the
  -- clause.
  | absent body =>
    simp only [Holds]
    exact not_congr (exists_congr fun ρ =>
      and_congr_left' ⟨fun h => h.trans hs, fun h => h.trans hs.symm⟩)
  | rule name args =>
    have hargs : args.map σ = args.map τ := List.map_congr_left hc
    simp only [Holds, hargs]

/-- A negation whose variables all stand around it negates its body under the same valuation. -/
theorem holds_absent_iff {body : List Clause} (h : varsAll body ⊆ scope) :
    Holds I (.absent body) scope σ ↔ ¬HoldsAll I body (scope ++ body.flatMap bound) σ := by
  have hvars : ∀ c ∈ body, c.vars ⊆ scope := by
    intro c hc v hv
    exact h (mem_varsAll.2 ⟨c, hc, hv⟩)
  have hinner : scope ++ body.flatMap bound ⊆ scope := by
    intro v hv
    rcases List.mem_append.1 hv with hv | hv
    · exact hv
    · obtain ⟨c, hc, hvc⟩ := List.mem_flatMap.1 hv
      exact hvars c hc (bound_subset_vars c hvc)
  simp only [Holds]
  -- A valuation that agrees around the negation agrees on all variables of its body.
  refine not_congr ⟨?_, fun hb => ⟨σ, fun _ _ => rfl, hb⟩⟩
  rintro ⟨τ, hτ, hb⟩
  rw [holdsAll_iff] at hb ⊢
  intro c hc
  exact (holds_congr c (fun v hv => hτ v (hvars c hc hv)) fun v hv => hτ v (hinner hv)).1 (hb c hc)

/-- A disjunction that shares all variables of its branches asks for a branch under the same
valuation. -/
theorem holds_orJoin_iff {shared : List Var} {branches : List Clause}
    (h : varsAll branches ⊆ shared) :
    Holds I (.orJoin shared branches) scope σ ↔
      ∃ c ∈ branches, Holds I c (shared ++ c.bound) σ := by
  have hvars : ∀ c ∈ branches, c.vars ⊆ shared := by
    intro c hc v hv
    exact h (mem_varsAll.2 ⟨c, hc, hv⟩)
  simp only [Holds, holdsSome_iff]
  refine ⟨?_, fun ⟨c, hc, hb⟩ => ⟨σ, fun _ _ => rfl, c, hc, hb⟩⟩
  rintro ⟨τ, hτ, c, hc, hb⟩
  refine ⟨c, hc, (holds_congr c (fun v hv => hτ v (hvars c hc hv)) ?_).1 hb⟩
  intro v hv
  rcases List.mem_append.1 hv with hv | hv
  · exact hτ v hv
  · exact hτ v (hvars c hc (bound_subset_vars c hv))

end Clause

namespace Query

/-- The variables around the first clauses of a query stay around them. -/
theorem bound_subset_scope_append (q : Query) (cs : List Clause) :
    q.clauses.flatMap Clause.bound ⊆ (q.append cs).scope := by
  intro v hv
  simp only [scope, append, List.flatMap_append]
  exact List.mem_append_left _ hv

/-- A row answers a query with clauses added if one valuation makes both hold. -/
theorem mem_rows_append {q : Query} {cs : List Clause} {f : Builtins α} {store : Store α}
    {row : List (Value α)} :
    row ∈ (q.append cs).rows f store ↔
      ∃ σ, Clause.HoldsAll (q.interpretation f store) q.clauses (q.append cs).scope σ ∧
        Clause.HoldsAll (q.interpretation f store) cs (q.append cs).scope σ ∧
        row = q.find.map σ := by
  refine exists_congr fun σ => ?_
  rw [← and_assoc, ← Clause.holdsAll_append]
  rfl

end Query

namespace Clause

mutual

def isPositive : Clause → Bool
  | orJoin _ branches => allPositive branches
  | absent _ => false
  | _ => true

def allPositive : List Clause → Bool
  | [] => true
  | c :: rest => isPositive c && allPositive rest

end

section Monotone

variable {f : Builtins α} {store : Store α} {R S : String → List (Value α) → Prop}

mutual

/-- Where rules hold of more, positive clauses still hold. -/
theorem holds_mono (hRS : ∀ name args, R name args → S name args) :
    ∀ (c : Clause) (scope : List Var) (σ : Var → Value α), c.isPositive = true →
      Holds ⟨f, store, R⟩ c scope σ → Holds ⟨f, store, S⟩ c scope σ
  | .triple .., _, _, _, h => h
  | .binding .., _, _, _, h => h
  | .test .., _, _, _, h => h
  | .rule name args, _, σ, _, h => hRS name (args.map σ) h
  | .orJoin shared branches, _, _, hpos, ⟨τ, hτ, h⟩ =>
    ⟨τ, hτ, holdsSome_mono hRS branches shared τ hpos h⟩
  | .absent _, _, _, hpos, _ => by cases hpos

/-- Where nothing is negated, more rules that hold make no branch fail. -/
theorem holdsSome_mono (hRS : ∀ name args, R name args → S name args) :
    ∀ (cs : List Clause) (shared : List Var) (σ : Var → Value α), allPositive cs = true →
      HoldsSome ⟨f, store, R⟩ cs shared σ → HoldsSome ⟨f, store, S⟩ cs shared σ
  | [], _, _, _, h => h
  | c :: rest, shared, σ, hpos, h =>
    have hboth := Bool.and_eq_true_iff.1 hpos
    h.imp (holds_mono hRS c (shared ++ c.bound) σ hboth.1)
      (holdsSome_mono hRS rest shared σ hboth.2)

end

end Monotone

theorem allPositive_iff {cs : List Clause} :
    allPositive cs = true ↔ ∀ c ∈ cs, c.isPositive = true := by
  induction cs with
  | nil => simp [allPositive]
  | cons c rest ih => simp [allPositive, ih]

end Clause

/-- What follows by rules without negation is closed under them: it is their least closed relation,
and so the least fixed point of one step of derivation. -/
theorem derived_closed (f : Builtins α) (store : Store α) {rules : List Rule}
    (hpos : ∀ r ∈ rules, ∀ body ∈ r.bodies, Clause.allPositive body = true) :
    Closed f store rules (Derived f store rules) := by
  intro r hr body hbody σ hσ R hR
  apply hR r hr body hbody σ
  rw [Clause.holdsAll_iff] at hσ ⊢
  intro c hc
  -- The least relation is below every closed one, and positive clauses only gain by the step up.
  exact Clause.holds_mono (fun name args h => h R hR) c _ σ
    (Clause.allPositive_iff.1 (hpos r hr body hbody) c hc) (hσ c hc)

end OutlineQuery.Datalog
