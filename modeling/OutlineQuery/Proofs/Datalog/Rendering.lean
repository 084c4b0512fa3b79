import OutlineQuery.Proofs.Datalog.WellFormed

/-!
The text of a query determines the query. The tokens of each part of a query tell where that part
ends, whatever follows it.
-/
namespace OutlineQuery.Datalog

open Token (joined space lineBreak Readable)

namespace Token

/-- The tokens of two values are told apart whatever follows them: they start the same sequence only
if the values are the same, and then the rest is the same too. -/
def Determines {α : Type} (f : α → List Token) (x y : α) : Prop :=
  ∀ r s, f x ++ r = f y ++ s → x = y ∧ r = s

variable {α : Type} {f : α → List Token} {xs ys : List α} {m close : Token} {ms r s : List Token}

/-- Sequences of values, each after a mark, before another mark. -/
theorem flatMap_append_inj (hm : m ≠ close) (hf : ∀ x ∈ xs, ∀ y ∈ ys, Determines f x y)
    (h : xs.flatMap (m :: f ·) ++ close :: r = ys.flatMap (m :: f ·) ++ close :: s) :
    xs = ys ∧ r = s := by
  induction xs generalizing ys with
  | nil =>
    cases ys with
    | nil => simpa using h
    | cons y ys =>
      simp only [List.flatMap_nil, List.nil_append, List.flatMap_cons, List.cons_append,
        List.cons.injEq] at h
      exact absurd h.1.symm hm
  | cons x xs ih =>
    cases ys with
    | nil =>
      simp only [List.flatMap_nil, List.nil_append, List.flatMap_cons, List.cons_append,
        List.cons.injEq] at h
      exact absurd h.1 hm
    | cons y ys =>
      simp only [List.flatMap_cons, List.cons_append, List.append_assoc, List.cons.injEq,
        true_and] at h
      obtain ⟨rfl, hrest⟩ := hf x List.mem_cons_self y List.mem_cons_self _ _ h
      obtain ⟨rfl, hr⟩ := ih (fun x' hx y' hy =>
        hf x' (List.mem_cons_of_mem _ hx) y' (List.mem_cons_of_mem _ hy)) hrest
      exact ⟨rfl, hr⟩

/-- Sequences of values with separators between them, before a token that starts neither a value nor
a separator. -/
theorem joined_append_inj (hm : m ≠ close) (hx : ∀ x ∈ xs, ∀ r s, f x ++ r ≠ close :: s)
    (hy : ∀ y ∈ ys, ∀ r s, f y ++ r ≠ close :: s) (hf : ∀ x ∈ xs, ∀ y ∈ ys, Determines f x y)
    (h : joined (m :: ms) (xs.map f) ++ close :: r = joined (m :: ms) (ys.map f) ++ close :: s) :
    xs = ys ∧ r = s := by
  cases xs with
  | nil =>
    cases ys with
    | nil => simpa using h
    | cons y ys =>
      rw [List.map_cons, joined_cons, List.append_assoc] at h
      exact absurd h.symm (hy y List.mem_cons_self _ _)
  | cons x xs =>
    cases ys with
    | nil =>
      rw [List.map_cons, joined_cons, List.append_assoc] at h
      exact absurd h (hx x List.mem_cons_self _ _)
    | cons y ys =>
      simp only [List.map_cons, joined_cons, List.append_assoc, List.flatMap_map,
        List.cons_append] at h
      obtain ⟨rfl, hrest⟩ := hf x List.mem_cons_self y List.mem_cons_self _ _ h
      -- After the first item each one has the separator in front of it.
      have hsep : ∀ x' ∈ xs, ∀ y' ∈ ys, Determines (fun x => ms ++ f x) x' y' := by
        intro x' hx' y' hy' r s h
        rw [List.append_assoc, List.append_assoc, List.append_cancel_left_eq] at h
        exact hf x' (List.mem_cons_of_mem _ hx') y' (List.mem_cons_of_mem _ hy') r s h
      obtain ⟨rfl, hr⟩ := flatMap_append_inj hm hsep hrest
      exact ⟨rfl, hr⟩

end Token

open Token (Determines joined_append_inj flatMap_append_inj)

theorem Var.determines (v w : Var) : Determines (fun v : Var => [.word v.text]) v w := by
  intro r s h
  obtain ⟨hhead, hrest⟩ := List.cons.inj h
  exact ⟨Var.text_injective (Token.word.inj hhead), hrest⟩

/-- Variables before a bracket or a line break. -/
theorem Var.tokens_append_inj {vs ws : List Var} {c : Char} {r s : List Token} (hc : c ≠ ' ')
    (h : Var.tokens vs ++ .mark c :: r = Var.tokens ws ++ .mark c :: s) : vs = ws ∧ r = s :=
  joined_append_inj (by simpa using hc.symm) (by simp) (by simp)
    (fun v _ w _ => Var.determines v w) h

/-- A variable starts with a question mark, so it is none of the other words. -/
theorem Var.text_ne (v : Var) {s : String} (h : s.toList.head? ≠ some '?') : v.text ≠ s := by
  rintro rfl
  simp [Var.text] at h

/-- A term is told by its tokens, and they end where it does. -/
theorem Term.determines (t u : Term) : Determines Term.tokens t u := by
  intro r s h
  -- A variable begins with a question mark, so it is no other word.
  have hbool (v : Var) (b : Bool) : v.text ≠ if b then "true" else "false" :=
    v.text_ne (by cases b <;> simp)
  have hset (v : Var) : v.text ≠ "#" := v.text_ne (by simp)
  cases t <;> cases u
  case var.var v w =>
    obtain ⟨rfl, hrest⟩ := Var.determines v w r s h
    exact ⟨rfl, hrest⟩
  case str.str x y =>
    obtain ⟨hhead, hrest⟩ := List.cons.inj h
    exact ⟨congrArg Term.str (Token.literal.inj hhead), hrest⟩
  case bool.bool b b' =>
    obtain ⟨hhead, hrest⟩ := List.cons.inj h
    cases b <;> cases b' <;> simp at hhead <;> exact ⟨rfl, hrest⟩
  case set.set items items' =>
    have hliteral (x y : String) : Determines (fun s => [Token.literal s]) x y := by
      intro r s h
      simpa using h
    simp only [tokens, List.cons_append, List.append_assoc, List.cons.injEq, true_and] at h
    obtain ⟨hitems, hrest⟩ := joined_append_inj (by simp) (by simp) (by simp)
      (fun x _ y _ => hliteral x y) h
    obtain ⟨list, hlist⟩ := items
    obtain ⟨list', hlist'⟩ := items'
    obtain rfl : list = list' := hitems
    exact ⟨rfl, hrest⟩
  case bool.set b _ | set.bool _ b => cases b <;> simp [tokens] at h
  case var.bool v b | var.set v _ => simp [tokens, hbool, hset] at h
  case bool.var b v | set.var _ v => simp [tokens, (hbool v _).symm, (hset v).symm] at h
  all_goals simp [tokens] at h

theorem Call.determines (c d : Call) : Determines Call.tokens c d := by
  intro r s h
  obtain ⟨func, args⟩ := c
  obtain ⟨func', args'⟩ := d
  simp only [tokens, List.cons_append, List.append_assoc, List.cons.injEq, true_and] at h
  obtain ⟨hfunc, hargs⟩ := h
  obtain rfl := Token.word.inj hfunc
  obtain ⟨rfl, hrest⟩ := flatMap_append_inj (by simp)
    (fun x _ y _ => Term.determines x y) hargs
  exact ⟨rfl, hrest⟩

namespace Clause

/-- A clause starts with an opening bracket. -/
theorem tokens_append_ne (c : Clause) {close : Char} (hclose : close ≠ '[' ∧ close ≠ '(')
    (r s : List Token) : c.tokens ++ r ≠ .mark close :: s := by
  cases c <;> simp [tokens, hclose.1.symm, hclose.2.symm]

/-- Clauses with spaces between them, before a closing bracket. -/
theorem joined_tokens_inj {cs ds : List Clause} {close : Char} {r s : List Token}
    (hclose : close ≠ '[' ∧ close ≠ '(' ∧ close ≠ ' ')
    (hdet : ∀ c ∈ cs, ∀ d ∈ ds, Determines tokens c d)
    (h : joined space (tokensAll cs) ++ .mark close :: r =
      joined space (tokensAll ds) ++ .mark close :: s) : cs = ds ∧ r = s := by
  obtain ⟨hvector, hlist, hblank⟩ := hclose
  rw [tokensAll_eq_map, tokensAll_eq_map] at h
  exact joined_append_inj (by simpa using hblank.symm)
    (fun c _ => c.tokens_append_ne ⟨hvector, hlist⟩)
    (fun d _ => d.tokens_append_ne ⟨hvector, hlist⟩) hdet h

/-- Clauses are told apart by their tokens. Negations, disjunctions and calls of rules are all
written as lists, and the first word tells which one it is. -/
theorem determines (c d : Clause) (hc : c.isWellNamed = true) (hd : d.isWellNamed = true) :
    Determines tokens c d := by
  have hrule {name : String} {args : List Var} (h : (rule name args).isWellNamed = true) :
      name ≠ "not" ∧ name ≠ "or-join" := by
    simp only [isWellNamed, isRuleName, Bool.and_eq_true, bne_iff_ne] at h
    exact ⟨h.1.1.2, h.1.2⟩
  induction c generalizing d with
  | triple entity attr value =>
    intro r s h
    cases d <;> simp [tokens, Call.tokens] at h
    case triple entity' attr' value' =>
      obtain ⟨hentity, rfl, hvalue⟩ := h
      obtain ⟨rfl, hrest⟩ := Term.determines _ _ _ _ hvalue
      rw [Var.text_injective hentity]
      exact ⟨rfl, (List.cons.inj hrest).2⟩
  | binding call out =>
    intro r s h
    cases d
    case binding call' out' =>
      simp only [tokens, List.cons_append, List.append_assoc, List.cons.injEq, true_and] at h
      obtain ⟨rfl, hrest⟩ := Call.determines _ _ _ _ h
      simp only [List.cons.injEq, Token.word.injEq, true_and, List.nil_append] at hrest
      rw [Var.text_injective hrest.1]
      exact ⟨rfl, hrest.2⟩
    case test call' =>
      -- The call is the same, but only a binding goes on after it.
      simp only [tokens, List.cons_append, List.append_assoc, List.cons.injEq, true_and] at h
      simpa using (Call.determines _ _ _ _ h).2
    all_goals simp [tokens, Call.tokens] at h
  | test call =>
    intro r s h
    cases d
    case binding call' out' =>
      simp only [tokens, List.cons_append, List.append_assoc, List.cons.injEq, true_and] at h
      simpa using (Call.determines _ _ _ _ h).2
    case test call' =>
      simp only [tokens, List.cons_append, List.append_assoc, List.cons.injEq, true_and] at h
      obtain ⟨rfl, hrest⟩ := Call.determines _ _ _ _ h
      exact ⟨rfl, (List.cons.inj hrest).2⟩
    all_goals simp [tokens, Call.tokens] at h
  | orJoin shared branches ih =>
    intro r s h
    cases d <;> simp [tokens] at h
    case orJoin shared' branches' =>
      simp only [isWellNamed, Bool.and_eq_true, allWellNamed_iff] at hc hd
      obtain ⟨rfl, hrest⟩ := Var.tokens_append_inj (by decide) h
      obtain ⟨rfl, hr⟩ := joined_tokens_inj (by decide)
        (fun c hc' d hd' => ih c hc' d (hc.2 c hc') (hd.2 d hd')) (List.cons.inj hrest).2
      exact ⟨rfl, hr⟩
    case rule name args => exact absurd h.1.symm (hrule hd).2
  | absent body ih =>
    intro r s h
    cases d <;> simp [tokens] at h
    case absent body' =>
      simp only [isWellNamed, allWellNamed_iff] at hc hd
      obtain ⟨rfl, hr⟩ := joined_tokens_inj (by decide)
        (fun c hc' d hd' => ih c hc' d (hc c hc') (hd d hd')) h
      exact ⟨rfl, hr⟩
    case rule name args => exact absurd h.1.symm (hrule hd).1
  | rule name args =>
    intro r s h
    cases d <;> simp [tokens] at h
    case orJoin shared branches => exact absurd h.1 (hrule hc).2
    case absent body => exact absurd h.1 (hrule hc).1
    case rule name' args' =>
      obtain ⟨rfl, hargs⟩ := h
      obtain ⟨rfl, hr⟩ := Var.tokens_append_inj (by decide) hargs
      exact ⟨rfl, hr⟩

end Clause

namespace Rule

/-- The bodies of some rules, each with the head of its rule. -/
def entries (rules : List Rule) : List (String × List Var × List Clause) :=
  rules.flatMap fun r => r.bodies.map fun body => (r.name, r.params, body)

theorem flatMap_tokens (rules : List Rule) :
    rules.flatMap tokens = (entries rules).map fun e => bodyTokens e.1 e.2.1 e.2.2 := by
  simp only [entries, List.map_flatMap, List.map_map]
  rfl

/-- A body of a rule is told by its tokens, with the head that it repeats. -/
theorem determines_bodyTokens {e e' : String × List Var × List Clause}
    (he : ∀ c ∈ e.2.2, c.isWellNamed = true) (he' : ∀ c ∈ e'.2.2, c.isWellNamed = true) :
    Determines (fun e => bodyTokens e.1 e.2.1 e.2.2) e e' := by
  intro r s h
  obtain ⟨name, params, body⟩ := e
  obtain ⟨name', params', body'⟩ := e'
  simp only [bodyTokens, List.cons_append, List.append_assoc, List.cons.injEq, true_and,
    Token.word.injEq, List.nil_append] at h
  obtain ⟨rfl, hparams⟩ := h
  obtain ⟨rfl, hbody⟩ := Var.tokens_append_inj (by decide) hparams
  obtain ⟨rfl, hrest⟩ := Clause.joined_tokens_inj (by decide)
    (fun c hc d hd => Clause.determines c d (he c hc) (he' d hd)) (List.cons.inj hbody).2
  exact ⟨rfl, hrest⟩

/-- Where no two rules have one name, the bodies of a rule are those with its name. -/
theorem filter_entries_cons {r : Rule} {rules : List Rule}
    (h : ((r :: rules).map (·.name)).Nodup) :
    (entries (r :: rules)).filter (·.1 = r.name) =
      r.bodies.map fun body => (r.name, r.params, body) := by
  have hown : (r.bodies.map fun body => (r.name, r.params, body)).filter (·.1 = r.name) =
      r.bodies.map fun body => (r.name, r.params, body) := by
    simp [List.filter_eq_self]
  have hothers : (entries rules).filter (·.1 = r.name) = [] := by
    apply List.filter_eq_nil_iff.2
    intro e he heq
    obtain ⟨r', hr', hmem⟩ := List.mem_flatMap.1 he
    obtain ⟨body, -, rfl⟩ := List.mem_map.1 hmem
    rw [List.map_cons, List.nodup_cons] at h
    exact h.1 (List.mem_map.2 ⟨r', hr', of_decide_eq_true heq⟩)
  rw [entries, List.flatMap_cons, List.filter_append, hown]
  exact List.append_right_eq_self.2 hothers

/-- Rules with different names, and with bodies, are determined by their bodies with their heads. -/
theorem eq_of_entries_eq {rules rules' : List Rule} (hname : (rules.map (·.name)).Nodup)
    (hname' : (rules'.map (·.name)).Nodup) (hbody : ∀ r ∈ rules, r.bodies ≠ [])
    (hbody' : ∀ r ∈ rules', r.bodies ≠ []) (h : entries rules = entries rules') :
    rules = rules' := by
  have hnil {r : Rule} {rs : List Rule} (hr : r.bodies ≠ []) : entries (r :: rs) ≠ [] := by
    simpa [entries] using fun hbodies => absurd hbodies hr
  induction rules generalizing rules' with
  | nil =>
    cases rules' with
    | nil => rfl
    | cons r' rest' => exact absurd h.symm (hnil (hbody' r' List.mem_cons_self))
  | cons r rest ih =>
    cases rules' with
    | nil => exact absurd h (hnil (hbody r List.mem_cons_self))
    | cons r' rest' =>
      obtain ⟨body, bodies, hr⟩ := List.exists_cons_of_ne_nil (hbody r List.mem_cons_self)
      obtain ⟨body', bodies', hr'⟩ := List.exists_cons_of_ne_nil (hbody' r' List.mem_cons_self)
      -- The first entries give the head of the first rules, and with the name all their bodies.
      have hhead := congrArg List.head? h
      simp only [entries, List.flatMap_cons, hr, hr', List.map_cons, List.cons_append,
        List.head?_cons, Option.some.injEq, Prod.mk.injEq] at hhead
      obtain ⟨hn, hp, -⟩ := hhead
      have hfirst := congrArg (List.filter (·.1 = r.name)) h
      rw [filter_entries_cons hname, hn, filter_entries_cons hname', hp] at hfirst
      have hbodies : r.bodies = r'.bodies := by
        refine List.map_injective_iff.2 ?_ hfirst
        intro x y hxy
        exact (Prod.mk.inj (Prod.mk.inj hxy).2).2
      obtain rfl : r = r' := by
        obtain ⟨n, ps, bs⟩ := r
        obtain ⟨n', ps', bs'⟩ := r'
        simp_all
      have hrest : entries rest = entries rest' := by
        simpa only [entries, List.flatMap_cons, List.append_cancel_left_eq] using h
      rw [List.map_cons, List.nodup_cons] at hname hname'
      rw [ih hname.2 hname'.2 (fun x hx => hbody x (List.mem_cons_of_mem _ hx))
        (fun x hx => hbody' x (List.mem_cons_of_mem _ hx)) hrest]

end Rule

namespace Query

variable {q q' : Query}

/-- With or without inputs, a line break follows the variables to find. -/
theorem inputTokens_append (q : Query) (ts : List Token) :
    ∃ us, q.inputTokens ++ .mark '\n' :: ts = .mark '\n' :: us := by
  unfold inputTokens
  split
  · exact ⟨ts, rfl⟩
  · exact ⟨_, rfl⟩

/-- Query vectors, both with inputs or both without, are told apart whatever follows them. -/
theorem vectorTokens_append_inj (hq : q.WellFormed) (hq' : q'.WellFormed)
    (hinput : q.inputTokens = q'.inputTokens) {r s : List Token}
    (h : q.vectorTokens ++ r = q'.vectorTokens ++ s) :
    q.find = q'.find ∧ q.clauses = q'.clauses ∧ r = s := by
  simp only [vectorTokens, List.cons_append, List.append_assoc, List.cons.injEq, true_and,
    hinput] at h
  obtain ⟨us, hus⟩ := q'.inputTokens_append
    (.mark ' ' :: .word ":where" :: (clauseTokens q.clauses ++ .mark ']' :: ([] ++ r)))
  obtain ⟨vs, hvs⟩ := q'.inputTokens_append
    (.mark ' ' :: .word ":where" :: (clauseTokens q'.clauses ++ .mark ']' :: ([] ++ s)))
  rw [hus, hvs] at h
  obtain ⟨hfind, rfl⟩ := Var.tokens_append_inj (by decide) h
  have hclauses := hus.trans hvs.symm
  simp only [List.append_cancel_left_eq, List.cons.injEq, true_and, List.nil_append] at hclauses
  have hlines : ∀ c ∈ q.clauses, ∀ d ∈ q'.clauses,
      Determines (fun c : Clause => .mark ' ' :: c.tokens) c d := by
    intro c hc d hd r s h
    exact Clause.determines c d (hq.clauses c hc) (hq'.clauses d hd) r s (List.cons.inj h).2
  obtain ⟨heq, hrest⟩ := flatMap_append_inj (by simp) hlines hclauses
  exact ⟨hfind, heq, hrest⟩

/-- The rules of two queries before the end of the text. -/
theorem rules_eq_of_tokens_eq (hq : q.WellFormed) (hq' : q'.WellFormed) {r s : List Token}
    (h : joined lineBreak (q.rules.flatMap Rule.tokens) ++ .mark ']' :: r =
      joined lineBreak (q'.rules.flatMap Rule.tokens) ++ .mark ']' :: s) : q.rules = q'.rules := by
  have hnamed {q : Query} (hq : q.WellFormed) : ∀ e ∈ Rule.entries q.rules,
      ∀ c ∈ e.2.2, c.isWellNamed = true := by
    intro e he
    obtain ⟨r, hr, hmem⟩ := List.mem_flatMap.1 he
    obtain ⟨body, hbody, rfl⟩ := List.mem_map.1 hmem
    exact hq.bodies r hr body hbody
  rw [Rule.flatMap_tokens, Rule.flatMap_tokens] at h
  have hentries := (joined_append_inj (by simp) (by simp [Rule.bodyTokens])
    (by simp [Rule.bodyTokens]) (fun e he e' he' =>
      Rule.determines_bodyTokens (hnamed hq e he) (hnamed hq' e' he')) h).1
  exact Rule.eq_of_entries_eq hq.distinct hq'.distinct hq.inhabited hq'.inhabited hentries

theorem eq_of_tokens_eq (hq : q.WellFormed) (hq' : q'.WellFormed) (h : q.tokens = q'.tokens) :
    q = q' := by
  obtain ⟨find, clauses, rules⟩ := q
  obtain ⟨find', clauses', rules'⟩ := q'
  cases rules with
  | nil =>
    cases rules' with
    -- A query with rules is a vector of two vectors, and one without rules is not.
    | nil =>
      have hvector : (Query.mk find clauses []).vectorTokens ++ [] =
          (Query.mk find' clauses' []).vectorTokens ++ [] := by
        simpa [tokens] using h
      obtain ⟨rfl, rfl, -⟩ := vectorTokens_append_inj hq hq' rfl hvector
      rfl
    | cons r' rest' => simp [tokens, vectorTokens] at h
  | cons r rest =>
    cases rules' with
    | nil => simp [tokens, vectorTokens] at h
    | cons r' rest' =>
      simp only [tokens, List.isEmpty_cons, Bool.false_eq_true, if_false, List.cons.injEq,
        true_and] at h
      obtain ⟨hfind, hclauses, hrest⟩ := vectorTokens_append_inj hq hq' rfl h
      simp only [List.cons.injEq, true_and] at hrest
      have hrules := rules_eq_of_tokens_eq hq hq' hrest
      exact Query.mk.injEq .. ▸ ⟨hfind, hclauses, hrules⟩

/-- The text of a query determines the query: its result variables, its clauses at every depth with
all their strings and sets of strings, and its rules. -/
theorem render_inj (hq : q.WellFormed) (hq' : q'.WellFormed) : q.render = q'.render ↔ q = q' := by
  constructor
  · intro h
    have hspell : Token.spell q.tokens = Token.spell q'.tokens := by
      rw [← toList_render, ← toList_render, h]
    exact eq_of_tokens_eq hq hq'
      (Token.eq_of_spell_eq hq.readable_tokens hq'.readable_tokens hspell)
  · rintro rfl
    rfl

/-- A query that compares a block with some terms, inside a negation in a disjunction. -/
def comparison (args : List Term) : Query where
  find := [⟨"b"⟩]
  clauses := [.triple ⟨"b"⟩ Attr.content (.bool true),
    .orJoin [⟨"b"⟩] [.absent [.test ⟨"=", .var ⟨"b"⟩ :: args⟩], .rule "self" [⟨"b"⟩]]]
  rules := [⟨"self", [⟨"a"⟩], [[.triple ⟨"a"⟩ Attr.parent (.var ⟨"a"⟩)]]⟩]

/-- One literal with quotes and a space in it is not written like two literals. -/
theorem render_inj_comparison :
    (comparison [.str "x\" \"y"]).WellFormed ∧ (comparison [.str "x", .str "y"]).WellFormed ∧
      (comparison [.str "x\" \"y"]).render ≠ (comparison [.str "x", .str "y"]).render := by
  have hone : (comparison [.str "x\" \"y"]).WellFormed := by decide
  have htwo : (comparison [.str "x", .str "y"]).WellFormed := by decide
  refine ⟨hone, htwo, fun h => ?_⟩
  have heq := (render_inj hone htwo).1 h
  simp [comparison] at heq

end Query

end OutlineQuery.Datalog
