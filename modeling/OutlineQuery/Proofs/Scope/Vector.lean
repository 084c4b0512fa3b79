import OutlineQuery.Proofs.Scope.Enclosing
import OutlineQuery.Proofs.Scope.Insertion

/-!
Where in a text clauses are added. In matched text that is the end of the vector which the first
`:where` stands in: the text stays matched, and the clauses are the last elements of the vector.
-/
namespace OutlineQuery.QueryText

open Datalog (Position Var Clause Query Token)

def isSeparator (c : Char) : Bool :=
  Text.isBlank c || c == ','

/-- The number of brackets that are open after a character. -/
def depthAfter (p : Position) (depth : Nat) (c : Char) : Nat :=
  if p = .code then
    if isOpening c then depth + 1 else if isClosing c then depth - 1 else depth
  else depth

def flush (current : List Char) : List (List Char) :=
  if current = [] then [] else [current]

/-- Elements are parted by separators outside of brackets and literals. A bracket or a literal is an
element of its own, but for the sign of a set before it. -/
def elementsFrom : Position → Nat → List Char → List Char → List (List Char)
  | _, _, current, [] => flush current
  | p, depth, current, c :: rest =>
    if p = .code ∧ depth = 0 ∧ isSeparator c = true then
      flush current ++ elementsFrom .code 0 [] rest
    else if p = .code ∧ depth = 0 ∧ (isOpening c = true ∨ c = '"') ∧ current ≠ ['#'] then
      flush current ++ elementsFrom (p.step c) (depthAfter p depth c) [c] rest
    else if depthAfter p depth c = 0 ∧ p.step c = .code ∧ (p ≠ .code ∨ isClosing c = true) then
      (current ++ [c]) :: elementsFrom .code 0 [] rest
    else elementsFrom (p.step c) (depthAfter p depth c) (current ++ [c]) rest

/-- The elements of a vector with the given text between its brackets. -/
def elements (content : List Char) : List (List Char) :=
  elementsFrom .code 0 [] content

section Depth

variable {p : Position} {c : Char}

theorem depthAfter_skip (h : p ≠ .code ∨ (isOpening c = false ∧ isClosing c = false))
    (depth : Nat) : depthAfter p depth c = depth := by
  rcases h with hp | ⟨hopen, hclose⟩
  · simp [depthAfter, hp]
  · simp [depthAfter, hopen, hclose]

theorem depthAfter_opening (h : isOpening c = true) (depth : Nat) :
    depthAfter .code depth c = depth + 1 := by
  simp [depthAfter, h]

theorem depthAfter_closer (h : isOpening c = true) (depth : Nat) :
    depthAfter .code (depth + 1) (closer c) = depth := by
  simp [depthAfter, isOpening_of_isClosing (isClosing_closer h), isClosing_closer h]

end Depth

/-- Inside of brackets everything belongs to the element. -/
theorem elementsFrom_inside {p : Position} {c : Char} {depth : Nat}
    (h : depthAfter p (depth + 1) c ≠ 0) (current rest : List Char) :
    elementsFrom p (depth + 1) current (c :: rest) =
      elementsFrom (p.step c) (depthAfter p (depth + 1) c) (current ++ [c]) rest := by
  simp [elementsFrom, h]

/-- Within brackets a matched text is part of one element. -/
theorem elementsFrom_matched {p : Position} {cs : List Char} (h : Matched p cs) (depth : Nat)
    (current rest : List Char) :
    elementsFrom p (depth + 1) current (cs ++ rest) =
      elementsFrom (p.after cs) (depth + 1) (current ++ cs) rest := by
  induction h generalizing depth current rest with
  | nil p => simp
  | @skip p c cs plain _ ih =>
    have hdepth := depthAfter_skip plain (depth + 1)
    rw [List.cons_append, elementsFrom_inside (by omega), hdepth, ih]
    simp
  | @pair o inner tail opening _ inner_code _ ihinner ihtail =>
    have hclosing := isClosing_closer opening
    have hopened := depthAfter_opening opening (depth + 1)
    have hclosed := depthAfter_closer opening (depth + 1)
    have hchars : o :: (inner ++ closer o :: tail) ++ rest =
        o :: (inner ++ closer o :: (tail ++ rest)) := by simp
    rw [hchars, elementsFrom_inside (by omega), hopened, step_code_of_isOpening opening, ihinner,
      inner_code, elementsFrom_inside (by omega), hclosed, step_code_of_isClosing hclosing, ihtail]
    rw [after_pair opening inner_code]
    simp

/-- A pair of brackets ends an element. -/
theorem elementsFrom_closer {o : Char} (ho : isOpening o = true) {inner : List Char}
    (hinner : Complete inner) (current rest : List Char) :
    elementsFrom .code 1 current (inner ++ closer o :: rest) =
      (current ++ inner ++ [closer o]) :: elementsFrom .code 0 [] rest := by
  have hclosing := isClosing_closer ho
  have hclosed := depthAfter_closer ho 0
  rw [elementsFrom_matched hinner.matched, hinner.code, elementsFrom]
  simp [hclosed, hclosing, step_code_of_isClosing hclosing]

theorem isSeparator_of_isOpening {o : Char} (ho : isOpening o = true) : isSeparator o = false := by
  rcases isOpening_cases ho with rfl | rfl | rfl <;> decide

/-- A text in brackets is an element, along with a hash sign before it. -/
theorem elementsFrom_bracketed {o : Char} (ho : isOpening o = true) {inner : List Char}
    (hinner : Complete inner) (current rest : List Char) :
    elementsFrom .code 0 current (o :: (inner ++ closer o :: rest)) =
      (if current = ['#'] then [current ++ (o :: (inner ++ [closer o]))]
        else flush current ++ [o :: (inner ++ [closer o])]) ++ elementsFrom .code 0 [] rest := by
  rw [elementsFrom, depthAfter_opening ho, step_code_of_isOpening ho]
  simp only [isSeparator_of_isOpening ho, ho, elementsFrom_closer ho hinner]
  split_ifs <;> simp_all

/-- A separator after complete text parts its elements from what follows. -/
theorem elementsFrom_append {p : Position} {cs : List Char} (h : Matched p cs)
    (hcode : p.after cs = .code) {c : Char} (hc : isSeparator c = true)
    (current rest : List Char) :
    elementsFrom p 0 current (cs ++ c :: rest) =
      elementsFrom p 0 current cs ++ elementsFrom .code 0 [] rest := by
  induction h generalizing current with
  | nil p =>
    obtain rfl : p = .code := hcode
    simp [elementsFrom, hc]
  | @skip p d cs plain _ ih =>
    have hdepth := depthAfter_skip plain 0
    rw [Position.after_cons] at hcode
    rw [List.cons_append, elementsFrom, elementsFrom, hdepth]
    -- A separator ends an element, a quote may begin or end one, and any other character goes on.
    split_ifs with hparted hstarted hended
    · obtain ⟨rfl, -, hd⟩ := hparted
      have hquote : d ≠ '"' := by
        rintro rfl
        revert hd
        decide
      rw [Position.step_code hquote] at ih hcode
      rw [ih hcode, List.append_assoc]
    · rw [ih hcode, List.append_assoc]
    · obtain ⟨-, hstep, -⟩ := hended
      rw [hstep] at ih hcode
      rw [ih hcode, List.cons_append]
    · exact ih hcode _
  | @pair o inner tail opening inner_matched inner_code _ _ ih =>
    have hinner : Complete inner := ⟨inner_matched, inner_code⟩
    rw [after_pair opening inner_code] at hcode
    rw [List.cons_append, List.append_assoc, List.cons_append,
      elementsFrom_bracketed opening hinner, elementsFrom_bracketed opening hinner, ih hcode,
      List.append_assoc]

/-- Clauses that are added are elements, one by one. -/
theorem elements_addedText {cs : List Clause} (h : ∀ c ∈ cs, c.isWellNamed = true) :
    elements (addedText cs) = cs.map (·.render.toList) := by
  induction cs with
  | nil => rfl
  | cons c cs ih =>
    obtain ⟨hc, hcs⟩ := List.forall_mem_cons.1 h
    obtain ⟨o, inner, ho, hinner, htokens⟩ := exists_bracketed_clause hc
    have hclause : c.render.toList = o :: (inner ++ [closer o]) := by
      rw [Clause.toList_render, htokens]
    have hline : addedText (c :: cs) =
        '\n' :: ' ' :: (o :: (inner ++ closer o :: addedText cs)) := by
      simp [addedText, hclause]
    have hblank (d : Char) (hd : isSeparator d = true) (rest : List Char) :
        elementsFrom .code 0 [] (d :: rest) = elementsFrom .code 0 [] rest := by
      simp [elementsFrom, hd, flush]
    have hnewline : isSeparator '\n' = true := by decide
    have hspace : isSeparator ' ' = true := by decide
    rw [elements, hline, hblank _ hnewline, hblank _ hspace, elementsFrom_bracketed ho hinner,
      ← elements, ih hcs, List.map_cons, hclause]
    rfl

/-- Clauses that are added to the content of a vector become its last elements. -/
theorem elements_append_addedText {content : List Char} (hcontent : Complete content)
    {cs : List Clause} (hcs : ∀ c ∈ cs, c.isWellNamed = true) :
    elements (content ++ addedText cs) = elements content ++ cs.map (·.render.toList) := by
  rw [← elements_addedText hcs]
  cases cs with
  | nil => simp [addedText, elements, elementsFrom, flush]
  | cons c cs =>
    have hline : addedText (c :: cs) = '\n' :: (" ".toList ++ c.render.toList ++ addedText cs) := by
      simp [addedText]
    have hnewline : isSeparator '\n' = true := by decide
    rw [hline, elements, elementsFrom_append hcontent.matched hcontent.code hnewline]
    simp [elements, elementsFrom, hnewline, flush]

example : elements ":where[?b :a \"] [\"]\n #\x7b1, 2\x7d,x".toList =
    [":where", "[?b :a \"] [\"]", "#\x7b1, 2\x7d", "x"].map String.toList := by
  decide

namespace Extends

variable {text out : List Char} {cs : List Clause}

theorem matched (h : Extends text (addedText cs) out) (htext : Matched .code text)
    (hcs : ∀ c ∈ cs, c.isWellNamed = true) : Matched .code out := by
  obtain ⟨before, block, after, hold, hnew⟩ := h
  have hsplit : text = (before ++ (":where".toList ++ block)) ++ ']' :: after := by
    simp [hold.text_eq]
  have hout : out = (before ++ (":where".toList ++ block)) ++ (addedText cs ++ ']' :: after) := by
    simp [hnew.text_eq]
  rw [hsplit] at htext
  rw [hout]
  exact htext.insert hold.code_end (complete_addedText hcs)

/-- The extended block is in the extended vector. -/
theorem inVector (h : Extends text (addedText cs) out) (htext : Matched .code text)
    (hcs : ∀ c ∈ cs, c.isWellNamed = true) :
    ∃ u v v' left right, InVector text u v left right ∧
      InVector out u v' left (right ++ addedText cs) ∧ Complete (left ++ right) := by
  obtain ⟨before, block, after, hold, hnew⟩ := h
  obtain ⟨u, v, left, right, hvector, hends⟩ := (whereEnd_eq_some_iff htext).1 hold.ends
  obtain ⟨rfl, rfl⟩ :=
    hold.first.unique hvector.first (hold.text_eq.symm.trans hvector.text_eq)
  -- The part of the vector from the keyword on is the keyword and the block.
  obtain ⟨after', hright⟩ := hvector.innermost.closes
  rw [← List.append_assoc] at hright
  obtain ⟨rfl, -⟩ := List.append_inj hright (by simpa using hends)
  have hleft := hvector.innermost.complete_left (hvector.text_eq ▸ htext) hold.first.code
  have hinner := hvector.innermost.inner
  refine ⟨before, _, ":where".toList ++ ((block ++ addedText cs) ++ ']' :: after), left, _, hvector,
    ⟨hnew.text_eq, hnew.first, ?_⟩, hinner⟩
  apply Around.innermost _ hleft
  refine ⟨hvector.innermost.opening, hvector.innermost.opens, ⟨after, ?_⟩, ?_⟩
  · simp [closer]
  · rw [← List.append_assoc]
    exact hinner.append (complete_addedText hcs)

end Extends

theorem inject_eq_of_not_hasEntry {text : String} {blockIds pageIds : List String}
    (hblocks : ¬Scope.HasEntry blockIds) (hpages : ¬Scope.HasEntry pageIds) :
    (inject text blockIds pageIds).1 = text := by
  rcases hinject : inject text blockIds pageIds with ⟨out, _ | d⟩
  · rcases restricted_eq_ok_iff.1 (inject_eq_iff.1 hinject) with ⟨-, -, hout⟩ | ⟨-, -, k, -, hout⟩
    · exact String.toList_inj.1 hout
    · rw [clausesFor_eq, Scope.restriction_of_not_hasEntry hblocks,
        Scope.restriction_of_not_hasEntry hpages] at hout
      apply String.toList_inj.1
      simpa [addedText] using hout
  · have hreport : (inject text blockIds pageIds).2 = some d := by rw [hinject]
    have htext := (inject_of_diagnostic hreport).1
    rw [hinject] at htext
    exact htext

/-- Where nothing is reported and something is listed, the text is extended by its clauses. -/
theorem extends_of_inject {text : String} {blockIds pageIds : List String}
    (hnone : (inject text blockIds pageIds).2 = none)
    (hentry : Scope.HasEntry blockIds ∨ Scope.HasEntry pageIds) :
    Extends text.toList (addedText (clausesFor text.toList blockIds pageIds))
      (inject text blockIds pageIds).1.toList := by
  have hlists : blockIds ≠ [] ∨ pageIds ≠ [] := by
    rcases hentry with hentry | hentry
    · exact .inl fun hnil => Scope.not_hasEntry_nil (hnil ▸ hentry)
    · exact .inr fun hnil => Scope.not_hasEntry_nil (hnil ▸ hentry)
  have hout := inject_eq_iff.1 (Prod.ext rfl hnone :
    inject text blockIds pageIds = ((inject text blockIds pageIds).1, none))
  exact ((restricted_eq_ok_iff_extends hlists).1 hout).2

/-- In matched text the `:where` block ends where the innermost vector around its keyword does, and
nowhere if there is none. Whatever the text is, it is left as it is with a report or without
entries, and otherwise the clauses are put where the block ends. Matched text stays so, and the
clauses become the last elements of the vector. -/
theorem inject_in_vector (text : String) (blockIds pageIds : List String) :
    (Matched .code text.toList → ∀ k, whereEnd text.toList = some k ↔
      ∃ u v left right, InVector text.toList u v left right ∧ k = (u ++ right).length) ∧
    (∀ d, (inject text blockIds pageIds).2 = some d → (inject text blockIds pageIds).1 = text) ∧
    (¬Scope.HasEntry blockIds → ¬Scope.HasEntry pageIds →
      (inject text blockIds pageIds).1 = text) ∧
    ((inject text blockIds pageIds).2 = none → Scope.HasEntry blockIds ∨ Scope.HasEntry pageIds →
      ∃ k, whereEnd text.toList = some k ∧ (inject text blockIds pageIds).1 =
        String.ofList (text.toList.take k ++
          addedText (clausesFor text.toList blockIds pageIds) ++ text.toList.drop k)) ∧
    (Matched .code text.toList → Matched .code (inject text blockIds pageIds).1.toList) ∧
    (Matched .code text.toList → (inject text blockIds pageIds).2 = none →
      Scope.HasEntry blockIds ∨ Scope.HasEntry pageIds →
      ∃ u v v' left right, InVector text.toList u v left right ∧
        InVector (inject text blockIds pageIds).1.toList u v' left
          (right ++ addedText (clausesFor text.toList blockIds pageIds)) ∧
        elements (left ++ (right ++ addedText (clausesFor text.toList blockIds pageIds))) =
          elements (left ++ right) ++
            (clausesFor text.toList blockIds pageIds).map (·.render.toList)) := by
  have hnamed : ∀ c ∈ clausesFor text.toList blockIds pageIds, c.isWellNamed = true :=
    fun c hc => (legible_of_mem_clausesFor hc).wellNamed
  refine ⟨fun htext k => whereEnd_eq_some_iff htext, fun d hd => (inject_of_diagnostic hd).1,
    inject_eq_of_not_hasEntry, ?_, ?_, ?_⟩
  · intro hnone hentry
    obtain ⟨k, hend, hout⟩ := (extends_of_inject hnone hentry).out_eq
    refine ⟨k, hend, ?_⟩
    rw [← hout, String.ofList_toList]
  · intro htext
    -- A text is extended, or left alone because of a report, or because nothing is listed.
    by_cases hentry : Scope.HasEntry blockIds ∨ Scope.HasEntry pageIds
    · rcases hreport : (inject text blockIds pageIds).2 with _ | d
      · exact (extends_of_inject hreport hentry).matched htext hnamed
      · rw [(inject_of_diagnostic hreport).1]
        exact htext
    · rw [not_or] at hentry
      rw [inject_eq_of_not_hasEntry hentry.1 hentry.2]
      exact htext
  · intro htext hnone hentry
    obtain ⟨u, v, v', left, right, hold, hnew, hinner⟩ :=
      (extends_of_inject hnone hentry).inVector htext hnamed
    refine ⟨u, v, v', left, right, hold, hnew, ?_⟩
    rw [← List.append_assoc]
    exact elements_append_addedText hinner hnamed

/-- A keyword and brackets in literals, rules after the query, and an identifier that looks like the
end of the vector. -/
theorem inject_in_vector_rules :
    let text :=
      "\x7b:query [:find ?b :in $ \":where ]\" :where [?b :block/page ?p]] :rules [[(r ?a)]]\x7d"
    Matched .code text.toList ∧ (inject text ["\"]]", "x"] [" "]).2 = none ∧
    (∃ k, whereEnd text.toList = some k ∧ (inject text ["\"]]", "x"] [" "]).1 =
      String.ofList (text.toList.take k ++
        addedText (clausesFor text.toList ["\"]]", "x"] [" "]) ++ text.toList.drop k)) ∧
    Matched .code (inject text ["\"]]", "x"] [" "]).1.toList ∧
    ∃ u v v' left right, InVector text.toList u v left right ∧
      InVector (inject text ["\"]]", "x"] [" "]).1.toList u v' left
        (right ++ addedText (clausesFor text.toList ["\"]]", "x"] [" "])) ∧
      elements (left ++ (right ++ addedText (clausesFor text.toList ["\"]]", "x"] [" "]))) =
        elements (left ++ right) ++
          (clausesFor text.toList ["\"]]", "x"] [" "]).map (·.render.toList) := by
  intro text
  have htext : Matched .code text.toList := by decide
  have hnone : (inject text ["\"]]", "x"] [" "]).2 = none := by decide
  have hentry : Scope.HasEntry ["\"]]", "x"] ∨ Scope.HasEntry [" "] :=
    .inl ⟨"x", List.mem_cons_of_mem _ List.mem_cons_self, by decide⟩
  obtain ⟨-, -, -, hout, hmatched, helements⟩ := inject_in_vector text ["\"]]", "x"] [" "]
  exact ⟨htext, hnone, hout hnone hentry, hmatched htext, helements htext hnone hentry⟩

end OutlineQuery.QueryText
