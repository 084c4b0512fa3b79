import OutlineQuery.Proofs.Datalog.Semantics
import OutlineQuery.Proofs.Datalog.WellFormed

/-!
The names in a clause that are no variables: those of attributes, functions and rules. Whether a
clause can be read back is a question of its variables and its names, and they are its words, but
for a few keywords.
-/
namespace OutlineQuery.Datalog

namespace Clause

mutual

def names : Clause → List String
  | triple _ attr _ => [attr]
  | binding call _ => [call.func]
  | test call => [call.func]
  | orJoin _ branches => namesAll branches
  | absent body => namesAll body
  | rule name _ => [name]

def namesAll : List Clause → List String
  | [] => []
  | c :: rest => names c ++ namesAll rest

end

theorem mem_namesAll {cs : List Clause} {s : String} :
    s ∈ namesAll cs ↔ ∃ c ∈ cs, s ∈ c.names := by
  induction cs with
  | nil => simp [namesAll]
  | cons c rest ih => simp [namesAll, ih]

end Clause

theorem Term.isWellNamed_of_var? {t : Term} (h : ∀ v ∈ t.var?, isName v.text = true) :
    t.isWellNamed = true := by
  cases t with
  | var v => exact h v rfl
  | _ => rfl

theorem Call.isWellNamed_of_vars {call : Call} (hfunc : isName call.func = true)
    (hvars : ∀ v ∈ call.vars, isName v.text = true) : call.isWellNamed = true := by
  simp only [isWellNamed, hfunc, Bool.true_and, List.all_eq_true]
  intro t ht
  apply Term.isWellNamed_of_var?
  intro v hv
  exact hvars v (List.mem_filterMap.2 ⟨t, ht, hv⟩)

/-- A clause is well named if its variables and its other names are proper. -/
theorem Clause.isWellNamed_of_names {c : Clause} (hvars : ∀ v ∈ c.vars, isName v.text = true)
    (hnames : ∀ s ∈ c.names, isRuleName s = true) : c.isWellNamed = true := by
  have hnested {cs : List Clause}
      (ih : ∀ c ∈ cs, (∀ v ∈ c.vars, isName v.text = true) →
        (∀ s ∈ c.names, isRuleName s = true) → c.isWellNamed = true)
      (hvars : ∀ v ∈ varsAll cs, isName v.text = true)
      (hnames : ∀ s ∈ namesAll cs, isRuleName s = true) : allWellNamed cs = true := by
    apply allWellNamed_iff.2
    intro c hc
    exact ih c hc (fun v hv => hvars v (mem_varsAll.2 ⟨c, hc, hv⟩))
      fun s hs => hnames s (mem_namesAll.2 ⟨c, hc, hs⟩)
  induction c with
  | triple entity attr value =>
    obtain ⟨hentity, hvalue⟩ := List.forall_mem_cons.1 hvars
    have hattr := isName_of_isRuleName (hnames attr List.mem_cons_self)
    have hterm := Term.isWellNamed_of_var? fun v hv => hvalue v (Option.mem_toList.2 hv)
    simp only [isWellNamed, hentity, hattr, hterm, Bool.and_self]
  | binding call out =>
    obtain ⟨hcall, hout⟩ := List.forall_mem_append.1 hvars
    have hfunc := isName_of_isRuleName (hnames call.func List.mem_cons_self)
    simp only [isWellNamed, Call.isWellNamed_of_vars hfunc hcall, hout out List.mem_cons_self,
      Bool.and_self]
  | test call =>
    have hfunc := isName_of_isRuleName (hnames call.func List.mem_cons_self)
    exact Call.isWellNamed_of_vars hfunc hvars
  | orJoin shared branches ih =>
    obtain ⟨hshared, hbranches⟩ := List.forall_mem_append.1 hvars
    simp only [isWellNamed, List.all_eq_true.2 hshared, hnested ih hbranches hnames, Bool.and_self]
  | absent body ih => exact hnested ih hvars hnames
  | rule name args =>
    have hargs : args.all (isName ·.text) = true := List.all_eq_true.2 hvars
    simp only [isWellNamed, hnames name List.mem_cons_self, hargs, Bool.and_self]

/-- The words that the printer writes of its own. -/
def keywords : List String :=
  ["#", "true", "false", "or-join", "not"]

namespace Token

theorem word_mem_joined_space {s : String} {ps : List (List Token)} :
    word s ∈ joined space ps ↔ ∃ p ∈ ps, word s ∈ p := by
  cases ps with
  | nil => simp
  | cons p ps => simp [space]

end Token

theorem Var.word_mem_tokens {s : String} {vs : List Var} :
    .word s ∈ Var.tokens vs ↔ ∃ v ∈ vs, s = v.text := by
  simp [tokens, Token.word_mem_joined_space]

/-- A word of a term is its variable or a keyword; literals are no words. -/
theorem Term.word_mem_tokens {s : String} {t : Term} (h : .word s ∈ t.tokens) :
    (∃ v ∈ t.var?, s = v.text) ∨ s ∈ keywords := by
  cases t with
  | var v => exact .inl ⟨v, rfl, by simpa [tokens] using h⟩
  | str r => simp [tokens] at h
  | bool b => cases b <;> simp_all [tokens, keywords]
  | set items => simp_all [tokens, Token.word_mem_joined_space, keywords]

theorem Call.word_mem_tokens {s : String} {call : Call} (h : .word s ∈ call.tokens) :
    (∃ v ∈ call.vars, s = v.text) ∨ s = call.func ∨ s ∈ keywords := by
  simp only [tokens, List.mem_cons, List.mem_append, List.mem_flatMap, reduceCtorEq, false_or,
    List.not_mem_nil, or_false, Token.word.injEq] at h
  rcases h with rfl | ⟨t, ht, h⟩
  · exact .inr (.inl rfl)
  · rcases Term.word_mem_tokens h with ⟨v, hv, rfl⟩ | h
    · exact .inl ⟨v, List.mem_filterMap.2 ⟨t, ht, hv⟩, rfl⟩
    · exact .inr (.inr h)

theorem Term.text_mem_tokens {t : Term} {v : Var} (h : v ∈ t.var?) : .word v.text ∈ t.tokens := by
  cases t with
  | var w =>
    obtain rfl := Option.mem_some_iff.1 h
    exact List.mem_cons_self
  | _ => cases h

theorem Call.text_mem_tokens {call : Call} {v : Var} (h : v ∈ call.vars) :
    .word v.text ∈ call.tokens := by
  obtain ⟨t, ht, hv⟩ := List.mem_filterMap.1 h
  have harg : .word v.text ∈ call.args.flatMap (.mark ' ' :: ·.tokens) :=
    List.mem_flatMap.2 ⟨t, ht, List.mem_cons_of_mem _ (Term.text_mem_tokens hv)⟩
  simp [tokens, harg]

namespace Clause

theorem word_mem_tokensAll {s : String} {cs : List Clause} :
    .word s ∈ Token.joined Token.space (tokensAll cs) ↔ ∃ c ∈ cs, .word s ∈ c.tokens := by
  rw [tokensAll_eq_map, Token.word_mem_joined_space]
  simp

/-- Every word of a clause is a variable, a name or a keyword. -/
theorem word_mem_tokens {s : String} {c : Clause} (h : .word s ∈ c.tokens) :
    (∃ v ∈ c.vars, s = v.text) ∨ s ∈ c.names ∨ s ∈ keywords := by
  -- Nested clauses have their variables and names collected in two lists, so each hypothesis is
  -- lifted to those.
  have hnested {cs : List Clause}
      (ih : ∀ c ∈ cs, .word s ∈ c.tokens →
        (∃ v ∈ c.vars, s = v.text) ∨ s ∈ c.names ∨ s ∈ keywords)
      (h : ∃ c ∈ cs, .word s ∈ c.tokens) :
      (∃ v ∈ varsAll cs, s = v.text) ∨ s ∈ namesAll cs ∨ s ∈ keywords := by
    obtain ⟨c, hc, hs⟩ := h
    rcases ih c hc hs with ⟨v, hv, rfl⟩ | hs | hs
    · exact .inl ⟨v, mem_varsAll.2 ⟨c, hc, hv⟩, rfl⟩
    · exact .inr (.inl (mem_namesAll.2 ⟨c, hc, hs⟩))
    · exact .inr (.inr hs)
  induction c with
  | triple entity attr value =>
    simp only [tokens, List.mem_cons, List.mem_append, reduceCtorEq, false_or, List.not_mem_nil,
      or_false, Token.word.injEq] at h
    rcases h with rfl | rfl | h
    · exact .inl ⟨entity, List.mem_cons_self, rfl⟩
    · exact .inr (.inl List.mem_cons_self)
    · rcases Term.word_mem_tokens h with ⟨v, hv, rfl⟩ | h
      · exact .inl ⟨v, List.mem_cons_of_mem _ (Option.mem_toList.2 hv), rfl⟩
      · exact .inr (.inr h)
  | binding call out =>
    simp only [tokens, List.mem_cons, List.mem_append, reduceCtorEq, false_or, List.not_mem_nil,
      or_false, Token.word.injEq] at h
    rcases h with h | rfl
    · rcases Call.word_mem_tokens h with ⟨v, hv, rfl⟩ | rfl | h
      · exact .inl ⟨v, List.mem_append_left _ hv, rfl⟩
      · exact .inr (.inl List.mem_cons_self)
      · exact .inr (.inr h)
    · exact .inl ⟨out, List.mem_append_right _ List.mem_cons_self, rfl⟩
  | test call =>
    simp only [tokens, List.mem_cons, List.mem_append, reduceCtorEq, false_or, List.not_mem_nil,
      or_false] at h
    rcases Call.word_mem_tokens h with ⟨v, hv, rfl⟩ | rfl | h
    · exact .inl ⟨v, hv, rfl⟩
    · exact .inr (.inl List.mem_cons_self)
    · exact .inr (.inr h)
  | orJoin shared branches ih =>
    simp only [tokens, List.mem_cons, List.mem_append, reduceCtorEq, false_or, List.not_mem_nil,
      or_false, Token.word.injEq, Var.word_mem_tokens, word_mem_tokensAll] at h
    rcases h with rfl | ⟨v, hv, rfl⟩ | h
    · exact .inr (.inr (by simp [keywords]))
    · exact .inl ⟨v, List.mem_append_left _ hv, rfl⟩
    · refine (hnested ih h).imp_left ?_
      rintro ⟨v, hv, rfl⟩
      exact ⟨v, List.mem_append_right _ hv, rfl⟩
  | absent body ih =>
    simp only [tokens, List.mem_cons, List.mem_append, reduceCtorEq, false_or, List.not_mem_nil,
      or_false, Token.word.injEq, word_mem_tokensAll] at h
    rcases h with rfl | h
    · exact .inr (.inr (by simp [keywords]))
    · exact hnested ih h
  | rule name args =>
    simp only [tokens, List.mem_cons, List.mem_append, reduceCtorEq, false_or, List.not_mem_nil,
      or_false, Token.word.injEq, Var.word_mem_tokens] at h
    rcases h with rfl | ⟨v, hv, rfl⟩
    · exact .inr (.inl List.mem_cons_self)
    · exact .inl ⟨v, hv, rfl⟩

theorem text_mem_tokens {c : Clause} {v : Var} (h : v ∈ c.vars) : .word v.text ∈ c.tokens := by
  induction c with
  | triple entity attr value =>
    rcases List.mem_cons.1 h with rfl | h
    · simp [tokens]
    · simp [tokens, Term.text_mem_tokens (Option.mem_toList.1 h)]
  | binding call out =>
    rcases List.mem_append.1 h with h | h
    · simp [tokens, Call.text_mem_tokens h]
    · simp [tokens, List.mem_singleton.1 h]
  | test call => simp [tokens, Call.text_mem_tokens h]
  | orJoin shared branches ih =>
    rcases List.mem_append.1 h with h | h
    · have hword : .word v.text ∈ Var.tokens shared := Var.word_mem_tokens.2 ⟨v, h, rfl⟩
      simp [tokens, hword]
    · obtain ⟨c, hc, hv⟩ := mem_varsAll.1 h
      have hword := word_mem_tokensAll.2 ⟨c, hc, ih c hc hv⟩
      simp [tokens, hword]
  | absent body ih =>
    obtain ⟨c, hc, hv⟩ := mem_varsAll.1 h
    have hword := word_mem_tokensAll.2 ⟨c, hc, ih c hc hv⟩
    simp [tokens, hword]
  | rule name args =>
    have hword : .word v.text ∈ Var.tokens args := Var.word_mem_tokens.2 ⟨v, h, rfl⟩
    simp [tokens, hword]

end Clause

end OutlineQuery.Datalog
