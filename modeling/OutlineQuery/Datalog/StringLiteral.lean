/-!
String literals of query text: quotes at both ends, and a backslash escape for the characters that
cannot stand for themselves. `Position` follows a text one character at a time and tells code from
the inside of a literal.
-/
namespace OutlineQuery.Datalog

namespace StringLiteral

def escape (c : Char) : List Char :=
  if c = '\\' then ['\\', '\\']
  else if c = '"' then ['\\', '"']
  else if c = '\n' then ['\\', 'n']
  else if c = '\r' then ['\\', 'r']
  else if c = '\t' then ['\\', 't']
  else [c]

def encode (cs : List Char) : List Char :=
  '"' :: (cs.flatMap escape ++ ['"'])

def quote (s : String) : String :=
  String.ofList (encode s.toList)

/-- The character that an escape letter stands for. -/
def unescape? (c : Char) : Option Char :=
  if c = '\\' then some '\\'
  else if c = '"' then some '"'
  else if c = 'n' then some '\n'
  else if c = 'r' then some '\r'
  else if c = 't' then some '\t'
  else none

/-- Reads the rest of a literal after its opening quote: the text it denotes and what follows the
closing quote. -/
def decodeBody : List Char → Option (List Char × List Char)
  | [] => none
  | '\\' :: c :: rest => do
    let d ← unescape? c
    let (text, after) ← decodeBody rest
    return (d :: text, after)
  | c :: rest =>
    if c = '"' then some ([], rest)
    else if c = '\\' then none
    else do
      let (text, after) ← decodeBody rest
      return (c :: text, after)

def decode : List Char → Option (List Char × List Char)
  | [] => none
  | c :: rest => if c = '"' then decodeBody rest else none

end StringLiteral

/-- Where the next character of a query text stands: in code, in a string literal, or right after a
backslash in one. -/
inductive Position where
  | code
  | literal
  | escaped
deriving DecidableEq, Repr

namespace Position

def step : Position → Char → Position
  | code, c => if c = '"' then literal else code
  | literal, c => if c = '\\' then escaped else if c = '"' then code else literal
  | escaped, _ => literal

def after (p : Position) (cs : List Char) : Position :=
  cs.foldl step p

end Position

end OutlineQuery.Datalog
