import OutlineQuery.Expansion
import OutlineQuery.Request.Compilation

/-!
Searching: a request is resolved, its conditions are expanded if there is a source of terms, and the
compiled query is sent to an engine.
-/
namespace OutlineQuery

inductive EngineError where
  | patternRejected (message : String)
  | timeout (message : String)
  | unavailable (message : String)
  | other (message : String)
deriving DecidableEq, Repr

namespace EngineError

def literalAdvice : String :=
  "retry with `text` conditions (literal matching) instead of raw patterns"

def kind : EngineError → String
  | patternRejected _ => "PatternRejected"
  | timeout _ => "Timeout"
  | unavailable _ => "Unavailable"
  | other _ => "Other"

def message : EngineError → String
  | patternRejected m => "engine rejected a pattern: " ++ m ++ "; " ++ literalAdvice
  | timeout m => "query timed out: " ++ m
  | unavailable m => "engine unavailable: " ++ m
  | other m => "engine error: " ++ m

/-- What the caller can do instead. -/
def advice? : EngineError → Option String
  | patternRejected _ => some literalAdvice
  | _ => none

end EngineError

inductive SearchError where
  | compile (e : CompileError)
  | engine (e : EngineError)
deriving DecidableEq, Repr

/-- What a search found: rows of cells, one for each column of the query. -/
structure Outcome (Cell : Type) where
  query : Compiled
  rows : List (List Cell)
  diagnostics : List Diagnostic

/-- A search that was carried out: the queries that the engine was sent, and what came of it. -/
structure Run (Cell : Type) where
  sent : List Compiled
  result : Except SearchError (Outcome Cell)

/-- An engine: what it answers to a query after so many earlier ones. -/
def Engine (Cell : Type) := Nat → Compiled → Except EngineError (List (List Cell))

/-- Where searches are carried out. -/
structure Searcher (Cell : Type) where
  config : Config
  terms : Option Expansion.Source
  engine : Engine Cell

namespace Searcher

variable {Cell : Type}

def expand (s : Searcher Cell) (search : Search) : Noted Search :=
  match s.terms with
  | none => ⟨search, []⟩
  | some source => Expansion.expandSearch source (.ofConfig s.config) search

def prepare (s : Searcher Cell) (r : Request) : Except CompileError Compiled := do
  let resolved ← r.resolve s.config
  let expanded := s.expand resolved.value
  let compiled ← Compiled.ofSearch s.config expanded.value
  return compiled.withEarlier (resolved.notes ++ expanded.notes)

def send (s : Searcher Cell) (earlier : Nat) (query : Compiled) : Run Cell where
  sent := [query]
  result :=
    match s.engine earlier query with
    | .ok rows => .ok ⟨query, rows, query.diagnostics⟩
    | .error e => .error (.engine e)

/-- Searches for a request after so many queries. -/
def search (s : Searcher Cell) (earlier : Nat) (r : Request) : Run Cell :=
  match s.prepare r with
  | .error e => ⟨[], .error (.compile e)⟩
  | .ok query => s.send earlier query

def searchText (s : Searcher Cell) (earlier : Nat) (text : String) : Run Cell :=
  match Request.parse text with
  | .error e => ⟨[], .error (.compile e)⟩
  | .ok r => s.search earlier r

def searchTexts (s : Searcher Cell) : Nat → List String → List (Run Cell)
  | _, [] => []
  | earlier, text :: rest =>
    let run := s.searchText earlier text
    run :: s.searchTexts (earlier + run.sent.length) rest

end Searcher

end OutlineQuery
