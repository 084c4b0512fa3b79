import OutlineQuery.Engine
import OutlineQuery.Proofs.Compiled.Shape
import OutlineQuery.Proofs.Expansion.Shape
import OutlineQuery.Proofs.Request.Resolution

/-!
Searching is compiling, whatever a source of terms replies: it fails where compiling fails, and else
sends one query that has the columns, the tier and the merges of the compiled request.
-/
namespace OutlineQuery.Searcher

variable {Cell : Type} (s : Searcher Cell)

theorem expand_entity (search : Search) : (s.expand search).value.entity = search.entity := by
  unfold expand
  split <;> rfl

/-- Expanding keeps the shape of a search, also where no term source is given. -/
theorem expand_sameShape (search : Search) :
    search.body.SameShape (s.expand search).value.body := by
  unfold expand
  split
  · cases search.body with
    | groups set => exact .groups rfl
    | hierarchy r => exact .hierarchy r.operator rfl rfl
  · exact Expansion.expandBody_sameShape _ _ search.body

/-- Without a term source, or without tags, a search is left alone. -/
theorem expand_of_untagged {search : Search}
    (h : s.terms = none ∨ ∀ c ∈ search.body.conditions, c.expansion = none) :
    s.expand search = ⟨search, []⟩ := by
  unfold expand
  split
  · rfl
  · rename_i source hsource
    rcases h with hnone | huntagged
    · rw [hnone] at hsource
      cases hsource
    · exact Expansion.expandSearch_of_untagged source _ huntagged

/-- What is sent for a request and what it compiles to come from searches of one shape. -/
theorem prepare_cases (r : Request) :
    (∃ e, r.compile s.config = .error e ∧ s.prepare r = .error e) ∨
      ∃ resolved c d, r.resolve s.config = .ok resolved ∧
        Compiled.ofSearch s.config resolved.value = .ok c ∧
        Compiled.ofSearch s.config (s.expand resolved.value).value = .ok d ∧
        r.compile s.config = .ok (c.withEarlier resolved.notes) ∧
        s.prepare r = .ok (d.withEarlier (resolved.notes ++ (s.expand resolved.value).notes)) ∧
        c.SameFrame d := by
  simp only [Request.compile, prepare]
  rcases r.resolve s.config with e | resolved
  · exact .inl ⟨e, rfl, rfl⟩
  · rcases Compiled.ofSearch_cases s.config (s.expand_entity resolved.value).symm
      (s.expand_sameShape resolved.value) with ⟨e, herr, herr'⟩ | ⟨c, d, hc, hd, hframe⟩
    · refine .inl ⟨e, ?_, ?_⟩
      · simp only [bind, Except.bind, herr]
      · simp only [bind, Except.bind, herr']
    · refine .inr ⟨resolved, c, d, rfl, hc, hd, ?_, ?_, hframe⟩
      · simp only [bind, Except.bind, hc]
        rfl
      · simp only [bind, Except.bind, hd]
        rfl

/-- A request that cannot be prepared sends nothing. -/
theorem search_of_error {r : Request} {e : CompileError} (h : s.prepare r = .error e)
    (earlier : Nat) : s.search earlier r = ⟨[], .error (.compile e)⟩ := by
  simp only [search, h]

/-- A request that was prepared is sent, once. -/
theorem search_of_ok {r : Request} {query : Compiled} (h : s.prepare r = .ok query)
    (earlier : Nat) : s.search earlier r = s.send earlier query := by
  simp only [search, h]

/-- The rows are those of the engine, and the notes those of the query. -/
theorem send_result_ok_iff {earlier : Nat} {query : Compiled} {outcome : Outcome Cell} :
    (s.send earlier query).result = .ok outcome ↔
      ∃ rows, s.engine earlier query = .ok rows ∧ outcome = ⟨query, rows, query.diagnostics⟩ := by
  unfold send
  cases s.engine earlier query with
  | error e => simp
  | ok rows => simp [eq_comm]

/-- Once a query is sent, only the engine can fail. -/
theorem send_result_error_iff {earlier : Nat} {query : Compiled} {e : SearchError} :
    (s.send earlier query).result = .error e ↔
      ∃ cause, s.engine earlier query = .error cause ∧ e = .engine cause := by
  unfold send
  cases s.engine earlier query with
  | error cause => simp [eq_comm]
  | ok rows => simp

/-- A search fails to compile exactly where its request does, with the same error and without a word
to the engine. Else the engine gets one query, that of the expanded search, with the columns, the
tier and the merges of the compiled request; what it answers is the result, and the reports are
those of resolution, expansion and compilation in this order. Where nothing can be expanded, the
query is the compiled request. -/
theorem search_follows_compile (earlier : Nat) (r : Request) :
    (∀ e, (s.search earlier r).result = .error (.compile e) ↔ r.compile s.config = .error e) ∧
    (∀ e, r.compile s.config = .error e → (s.search earlier r).sent = []) ∧
    ∀ c, r.compile s.config = .ok c → ∃ resolved d,
      r.resolve s.config = .ok resolved ∧
      Compiled.ofSearch s.config (s.expand resolved.value).value = .ok d ∧
      (d.columns = c.columns ∧ d.tier = c.tier ∧ d.merges = c.merges) ∧
      let sent := { d with
        diagnostics := resolved.notes ++ (s.expand resolved.value).notes ++ d.diagnostics }
      (s.search earlier r).sent = [sent] ∧
      (∀ outcome, (s.search earlier r).result = .ok outcome ↔
        ∃ rows, s.engine earlier sent = .ok rows ∧ outcome = ⟨sent, rows, sent.diagnostics⟩) ∧
      (∀ cause, (s.search earlier r).result = .error (.engine cause) ↔
        s.engine earlier sent = .error cause) ∧
      ((s.terms = none ∨ ∀ a ∈ resolved.value.body.conditions, a.expansion = none) → sent = c) := by
  -- Preparing fails if compiling does, since expanding keeps the shape that both look at.
  rcases s.prepare_cases r with ⟨e, hcompile, hprepare⟩ |
    ⟨resolved, c, d, hresolve, hc, hd, hcompile, hprepare, hframe⟩
  · simp only [hcompile, s.search_of_error hprepare]
    refine ⟨?_, fun _ _ => trivial, ?_⟩
    · simp
    · simp
  · simp only [hcompile, s.search_of_ok hprepare]
    refine ⟨?_, ?_, ?_⟩
    · simp [send_result_error_iff]
    · simp
    · intro c' hc'
      obtain rfl := Except.ok.inj hc'
      refine ⟨resolved, d, hresolve, hd, ⟨hframe.columns.symm, hframe.tier.symm, hframe.merges.symm⟩,
        rfl, ?_, ?_, ?_⟩
      · intro outcome
        exact s.send_result_ok_iff
      · intro cause
        rw [send_result_error_iff]
        constructor
        · rintro ⟨cause', hcause, hsame⟩
          obtain rfl := SearchError.engine.inj hsame
          exact hcause
        · intro hcause
          exact ⟨cause, hcause, rfl⟩
      · -- Nothing was expanded, so the search that is compiled is the same one.
        intro huntagged
        have hexpand := s.expand_of_untagged huntagged
        rw [hexpand] at hd ⊢
        obtain rfl := Except.ok.inj (hc.symm.trans hd)
        simp [Compiled.withEarlier]

def taggedFor (value : String) (negated : Bool) : ConditionSpec :=
  ⟨none, value, none, negated, none, some " synonyms "⟩

/-- Two alternatives and an exclusion, each with an expansion. -/
def taggedRequest : Request where
  version := 1
  entity := none
  body :=
    ⟨some [taggedFor "a" false, taggedFor "b" false, taggedFor "c" true], some "or", none, none⟩
  hierarchy := none
  scope := none

/-- There are terms for the first condition only, and the engine is too slow. -/
def slowSearcher : Searcher String where
  config := .default
  terms := some fun i _ _ =>
    if i = 0 then .terms ["A", "z"] else if i = 1 then .timedOut else .failed "down"
  engine := fun _ _ => .error (.timeout "busy")

theorem search_follows_compile_taggedRequest :
    ∃ c sent, taggedRequest.compile .default = .ok c ∧
      (slowSearcher.search 0 taggedRequest).sent = [sent] ∧ sent.text ≠ c.text ∧
      sent.columns = c.columns ∧ sent.tier = c.tier ∧ sent.merges = c.merges ∧
      sent.diagnostics.length = c.diagnostics.length + 2 ∧
      (slowSearcher.search 0 taggedRequest).result = .error (.engine (.timeout "busy")) := by
  have hcompile : ∃ c, taggedRequest.compile .default = .ok c := ⟨_, rfl⟩
  obtain ⟨c, hc⟩ := hcompile
  obtain ⟨-, -, hok⟩ := slowSearcher.search_follows_compile 0 taggedRequest
  obtain ⟨resolved, d, -, -, ⟨hcolumns, htier, hmerges⟩, hsent, -, herror, -⟩ := hok c hc
  have hlengths : (slowSearcher.search 0 taggedRequest).sent.map (·.diagnostics.length) =
      (taggedRequest.compile .default).toOption.toList.map (·.diagnostics.length + 2) := by
    decide +kernel
  have htexts : (slowSearcher.search 0 taggedRequest).sent.map (·.text) ≠
      (taggedRequest.compile .default).toOption.toList.map (·.text) := by
    decide +kernel
  rw [hsent, hc] at hlengths htexts
  refine ⟨c, _, hc, hsent, ?_, hcolumns, htier, hmerges, ?_, (herror _).2 rfl⟩
  · exact fun h => htexts (congrArg (fun text => [text]) h)
  · exact List.head_eq_of_cons_eq hlengths

end OutlineQuery.Searcher
