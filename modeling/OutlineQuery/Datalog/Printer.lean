import OutlineQuery.Datalog.Query
import OutlineQuery.Datalog.StringLiteral

/-!
The text of a query. A query with rules is a map of the query vector and the rules, so that its text
stands on its own.
-/
namespace OutlineQuery.Datalog

def spaced (parts : List String) : String :=
  String.intercalate " " parts

namespace Term

def render : Term → String
  | var v => v.text
  | str s => StringLiteral.quote s
  | bool b => if b then "true" else "false"
  | set items => "#\x7b" ++ spaced (items.toList.map StringLiteral.quote) ++ "\x7d"

end Term

namespace Call

def render (call : Call) : String :=
  "(" ++ call.func ++ String.join (call.args.map (" " ++ ·.render)) ++ ")"

end Call

def renderVars (vs : List Var) : String :=
  spaced (vs.map Var.text)

namespace Clause

mutual

/-- A clause as written. -/
def render : Clause → String
  | triple entity attr value => "[" ++ entity.text ++ " " ++ attr ++ " " ++ value.render ++ "]"
  | binding call out => "[" ++ call.render ++ " " ++ out.text ++ "]"
  | test call => "[" ++ call.render ++ "]"
  | orJoin shared branches =>
    "(or-join [" ++ renderVars shared ++ "] " ++ spaced (renderAll branches) ++ ")"
  | absent body => "(not " ++ spaced (renderAll body) ++ ")"
  | rule name args => "(" ++ name ++ " " ++ renderVars args ++ ")"

def renderAll : List Clause → List String
  | [] => []
  | c :: rest => render c :: renderAll rest

end

end Clause

namespace Rule

def render (r : Rule) : List String :=
  r.bodies.map fun body =>
    "[(" ++ r.name ++ " " ++ renderVars r.params ++ ") " ++ spaced (Clause.renderAll body) ++ "]"

end Rule

namespace Query

/-- The query vector: what to find, the names of the inputs if there are rules, and the clauses one
to a line. -/
def renderVector (q : Query) : String :=
  "[:find " ++ renderVars q.find ++
    (if q.rules.isEmpty then "" else "\n :in $ %") ++
    "\n :where" ++ String.join ((Clause.renderAll q.clauses).map ("\n " ++ ·)) ++ "]"

/-- The text of a query. -/
def render (q : Query) : String :=
  if q.rules.isEmpty then q.renderVector
  else
    "\x7b:query " ++ q.renderVector ++ "\n :rules [" ++
      String.intercalate "\n         " (q.rules.flatMap Rule.render) ++ "]\x7d"

end Query

end OutlineQuery.Datalog
