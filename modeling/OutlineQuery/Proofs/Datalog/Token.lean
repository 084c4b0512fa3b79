import Mathlib.Data.List.Basic
import OutlineQuery.Datalog.Printer

/-!
Query text as a sequence of tokens: words, string literals, and the brackets and blanks that stand
around them. Every part of a query has its tokens, and they spell what the printer writes.
-/
namespace OutlineQuery.Datalog

namespace Clause

/-- Induction on clauses, with the hypothesis for all clauses that are directly nested. -/
@[elab_as_elim, induction_eliminator]
theorem nested_induction {P : Clause → Prop}
    (triple : ∀ entity attr value, P (.triple entity attr value))
    (binding : ∀ call out, P (.binding call out))
    (test : ∀ call, P (.test call))
    (orJoin : ∀ shared branches, (∀ c ∈ branches, P c) → P (.orJoin shared branches))
    (absent : ∀ body, (∀ c ∈ body, P c) → P (.absent body))
    (rule : ∀ name args, P (.rule name args)) (c : Clause) : P c :=
  @Clause.rec P (fun cs => ∀ c ∈ cs, P c) triple binding test orJoin absent rule
    (fun _ h => nomatch h) (fun _ _ hc hcs => List.forall_mem_cons.2 ⟨hc, hcs⟩) c

theorem renderAll_eq_map (cs : List Clause) : renderAll cs = cs.map render := by
  induction cs with
  | nil => rfl
  | cons c rest ih => rw [renderAll, ih, List.map_cons]

end Clause

inductive Token where
  | word (s : String)
  /-- A string literal, by the text that it stands for. -/
  | literal (s : String)
  /-- A bracket or a blank. -/
  | mark (c : Char)
deriving DecidableEq

namespace Token

def chars : Token → List Char
  | word s => s.toList
  | literal s => StringLiteral.encode s.toList
  | mark c => [c]

def spell (ts : List Token) : List Char :=
  ts.flatMap chars

@[simp] theorem spell_nil : spell [] = [] :=
  rfl

@[simp] theorem spell_cons (t : Token) (ts : List Token) : spell (t :: ts) = t.chars ++ spell ts :=
  rfl

@[simp] theorem spell_append (ts us : List Token) : spell (ts ++ us) = spell ts ++ spell us :=
  List.flatMap_append

theorem spell_flatMap {α : Type} (f : α → List Token) (xs : List α) :
    spell (xs.flatMap f) = xs.flatMap fun x => spell (f x) :=
  List.flatMap_assoc

/-- Sequences of tokens with some tokens between any two. -/
def joined (sep : List Token) (parts : List (List Token)) : List Token :=
  sep.intercalate parts

def space : List Token :=
  [mark ' ']

/-- What stands between the bodies of rules, so that they are aligned. -/
def lineBreak : List Token :=
  mark '\n' :: List.replicate 9 (mark ' ')

@[simp] theorem joined_nil (sep : List Token) : joined sep [] = [] :=
  rfl

/-- Each sequence but the first follows what stands between them. -/
@[simp] theorem joined_cons (sep p : List Token) (ps : List (List Token)) :
    joined sep (p :: ps) = p ++ ps.flatMap (sep ++ ·) := by
  induction ps generalizing p with
  | nil => simp [joined]
  | cons q rest ih =>
    have hrest := ih q
    unfold joined at hrest ⊢
    rw [List.intercalate_cons_cons, hrest]
    simp

/-- Tokens between separators spell the parts between the separators. -/
theorem spell_joined (sep : List Token) (ps : List (List Token)) :
    spell (joined sep ps) = (spell sep).intercalate (ps.map spell) := by
  induction ps with
  | nil => rfl
  | cons p rest ih =>
    cases rest with
    | nil => simp
    | cons q rest =>
      have hstep : joined sep (p :: q :: rest) = p ++ (sep ++ joined sep (q :: rest)) := by simp
      simp only [hstep, spell_append, ih, List.map_cons, List.intercalate_cons_cons,
        List.append_assoc]

end Token

open Token (spell joined space lineBreak)

theorem toList_spaced (parts : List String) :
    (spaced parts).toList = (spell space).intercalate (parts.map String.toList) :=
  String.toList_intercalate

namespace Var

theorem text_injective {v w : Var} (h : v.text = w.text) : v = w := by
  obtain ⟨name⟩ := v
  obtain ⟨name'⟩ := w
  exact congrArg Var.mk ((String.append_right_inj "?").1 h)

/-- Variables with a space between them. -/
def tokens (vs : List Var) : List Token :=
  joined space (vs.map fun v => [.word v.text])

theorem toList_renderVars (vs : List Var) : (renderVars vs).toList = spell (tokens vs) := by
  rw [renderVars, toList_spaced, tokens, Token.spell_joined, List.map_map, List.map_map]
  congr 1
  apply List.map_congr_left
  intro v _
  simp [Token.chars]

end Var

namespace Term

def tokens : Term → List Token
  | var v => [.word v.text]
  | str s => [.literal s]
  | bool b => [.word (if b then "true" else "false")]
  | set items =>
    .word "#" :: .mark '{' :: (joined space (items.toList.map ([.literal ·])) ++ [.mark '}'])

theorem toList_render (t : Term) : t.render.toList = spell t.tokens := by
  cases t with
  | var v => simp [render, tokens, Token.chars]
  | str s => simp [render, tokens, Token.chars, StringLiteral.quote]
  | bool b => simp [render, tokens, Token.chars]
  | set items =>
    have hitems : items.toList.map (String.toList ∘ StringLiteral.quote) =
        items.toList.map (spell ∘ ([Token.literal ·])) := by
      apply List.map_congr_left
      intro s _
      simp [Token.chars, StringLiteral.quote]
    simp [render, tokens, Token.chars, toList_spaced, Token.spell_joined, hitems]

end Term

namespace Call

def tokens (call : Call) : List Token :=
  .mark '(' :: .word call.func :: (call.args.flatMap (.mark ' ' :: ·.tokens) ++ [.mark ')'])

theorem toList_render (call : Call) : call.render.toList = spell call.tokens := by
  simp [render, tokens, Token.chars, Token.spell_flatMap, Term.toList_render, List.flatMap_map]

end Call

namespace Clause

mutual

def tokens : Clause → List Token
  | triple entity attr value =>
    .mark '[' :: .word entity.text :: .mark ' ' :: .word attr :: .mark ' ' ::
      (value.tokens ++ [.mark ']'])
  | binding call out => .mark '[' :: (call.tokens ++ [.mark ' ', .word out.text, .mark ']'])
  | test call => .mark '[' :: (call.tokens ++ [.mark ']'])
  | orJoin shared branches =>
    .mark '(' :: .word "or-join" :: .mark ' ' :: .mark '[' ::
      (Var.tokens shared ++ .mark ']' :: .mark ' ' ::
        (joined space (tokensAll branches) ++ [.mark ')']))
  | absent body =>
    .mark '(' :: .word "not" :: .mark ' ' :: (joined space (tokensAll body) ++ [.mark ')'])
  | rule name args => .mark '(' :: .word name :: .mark ' ' :: (Var.tokens args ++ [.mark ')'])

def tokensAll : List Clause → List (List Token)
  | [] => []
  | c :: rest => tokens c :: tokensAll rest

end

theorem tokensAll_eq_map (cs : List Clause) : tokensAll cs = cs.map tokens := by
  induction cs with
  | nil => rfl
  | cons c rest ih => rw [tokensAll, ih, List.map_cons]

theorem toList_spaced_renderAll {cs : List Clause}
    (h : ∀ c ∈ cs, c.render.toList = spell c.tokens) :
    (spaced (renderAll cs)).toList = spell (joined space (tokensAll cs)) := by
  have hmap : (cs.map render).map String.toList = (cs.map tokens).map spell := by
    rw [List.map_map, List.map_map]
    exact List.map_congr_left h
  rw [toList_spaced, renderAll_eq_map, tokensAll_eq_map, Token.spell_joined, hmap]

/-- The text of a clause is spelled by its tokens, at every depth. -/
theorem toList_render (c : Clause) : c.render.toList = spell c.tokens := by
  induction c with
  | triple entity attr value => simp [render, tokens, Token.chars, Term.toList_render]
  | binding call out => simp [render, tokens, Token.chars, Call.toList_render]
  | test call => simp [render, tokens, Token.chars, Call.toList_render]
  | orJoin shared branches ih =>
    simp [render, tokens, Token.chars, Var.toList_renderVars, toList_spaced_renderAll ih]
  | absent body ih => simp [render, tokens, Token.chars, toList_spaced_renderAll ih]
  | rule name args => simp [render, tokens, Token.chars, Var.toList_renderVars]

end Clause

namespace Rule

/-- The head of a rule before one of its bodies. -/
def bodyTokens (name : String) (params : List Var) (body : List Clause) : List Token :=
  .mark '[' :: .mark '(' :: .word name :: .mark ' ' ::
    (Var.tokens params ++ .mark ')' :: .mark ' ' ::
      (joined space (Clause.tokensAll body) ++ [.mark ']']))

/-- A rule before each of its bodies. -/
def tokens (r : Rule) : List (List Token) :=
  r.bodies.map (bodyTokens r.name r.params)

theorem toList_render (r : Rule) : r.render.map String.toList = r.tokens.map spell := by
  rw [render, tokens, List.map_map, List.map_map]
  apply List.map_congr_left
  intro body _
  have hbody := Clause.toList_spaced_renderAll fun c (_ : c ∈ body) => c.toList_render
  simp [bodyTokens, Token.chars, Var.toList_renderVars, hbody]

end Rule

namespace Query

/-- The names of the inputs, which only a query with rules has. -/
def inputTokens (q : Query) : List Token :=
  if q.rules.isEmpty then []
  else [.mark '\n', .mark ' ', .word ":in", .mark ' ', .word "$", .mark ' ', .word "%"]

def clauseTokens (cs : List Clause) : List Token :=
  cs.flatMap (.mark '\n' :: .mark ' ' :: ·.tokens)

def vectorTokens (q : Query) : List Token :=
  .mark '[' :: .word ":find" :: .mark ' ' :: (Var.tokens q.find ++ (q.inputTokens ++
    .mark '\n' :: .mark ' ' :: .word ":where" :: (clauseTokens q.clauses ++ [.mark ']'])))

def tokens (q : Query) : List Token :=
  if q.rules.isEmpty then q.vectorTokens
  else
    .mark '{' :: .word ":query" :: .mark ' ' :: (q.vectorTokens ++
      .mark '\n' :: .mark ' ' :: .word ":rules" :: .mark ' ' :: .mark '[' ::
        (joined lineBreak (q.rules.flatMap Rule.tokens) ++ [.mark ']', .mark '}']))

theorem spell_clauseTokens (cs : List Clause) :
    spell (clauseTokens cs) = cs.flatMap fun c => "\n ".toList ++ c.render.toList := by
  rw [clauseTokens, Token.spell_flatMap]
  apply List.flatMap_congr
  intro c _
  simp [Token.chars, Clause.toList_render]

theorem toList_renderVector (q : Query) : q.renderVector.toList = spell q.vectorTokens := by
  have hinput : (if q.rules.isEmpty then "" else "\n :in $ %").toList = spell q.inputTokens := by
    unfold inputTokens
    split <;> rfl
  simp only [renderVector, vectorTokens, Clause.renderAll_eq_map, String.toList_append,
    String.toList_join, List.flatMap_map, Var.toList_renderVars, hinput, Token.spell_append,
    Token.spell_cons, spell_clauseTokens]
  simp [Token.chars]

/-- The text of a query is spelled by its tokens. -/
theorem toList_render (q : Query) : q.render.toList = spell q.tokens := by
  unfold render tokens
  split
  · exact q.toList_renderVector
  · have hrules : (q.rules.flatMap Rule.render).map String.toList =
        (q.rules.flatMap Rule.tokens).map spell := by
      simp only [List.map_flatMap, Rule.toList_render]
    simp only [String.toList_append, String.toList_intercalate, hrules, toList_renderVector,
      Token.spell_append, Token.spell_cons, Token.spell_joined]
    simp [Token.chars, lineBreak]

end Query

end OutlineQuery.Datalog
