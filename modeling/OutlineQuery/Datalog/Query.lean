import OutlineQuery.Datalog.Clause

/-!
Complete queries: the variables to find, the clauses that must hold, and the rules that they call.
-/
namespace OutlineQuery.Datalog

/-- A named rule. It holds when one of its bodies does. -/
structure Rule where
  name : String
  params : List Var
  bodies : List (List Clause)

/-- A query: its result variables, its clauses in order, and its rules. -/
structure Query where
  find : List Var
  clauses : List Clause
  rules : List Rule

namespace Query

def ofFind (find : List Var) : Query :=
  ⟨find, [], []⟩

def append (q : Query) (cs : List Clause) : Query :=
  { q with clauses := q.clauses ++ cs }

def push (q : Query) (c : Clause) : Query :=
  q.append [c]

/-- Adds a rule, unless the query already has one of that name. -/
def addRule (q : Query) (r : Rule) : Query :=
  if q.rules.any (·.name == r.name) then q else { q with rules := q.rules ++ [r] }

def mentions (q : Query) (v : Var) : Bool :=
  q.clauses.any (·.vars.contains v)

end Query

end OutlineQuery.Datalog
