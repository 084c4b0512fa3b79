import OutlineQuery.Json.Value

/-!
Writing JSON: on one line, or indented by two spaces for people.
-/
namespace OutlineQuery.Json

def hexChar (n : Nat) : Char :=
  Nat.digitChar n

def escapeChar (c : Char) : List Char :=
  if c = '"' then ['\\', '"']
  else if c = '\\' then ['\\', '\\']
  else if c = '\n' then ['\\', 'n']
  else if c = '\r' then ['\\', 'r']
  else if c = '\t' then ['\\', 't']
  else if c.toNat = 8 then ['\\', 'b']
  else if c.toNat = 12 then ['\\', 'f']
  else if c.toNat < 0x20 then
    ['\\', 'u', '0', '0', hexChar (c.toNat / 16), hexChar (c.toNat % 16)]
  else [c]

def quote (s : String) : String :=
  "\"" ++ String.ofList (s.toList.flatMap escapeChar) ++ "\""

/-- A finite double as the decimal that it is: digits and a power of ten. -/
def renderDouble (x : Binary64) : String :=
  let (n, places) :=
    if 1074 ≤ x.scale then (x.significand * Nat.pow 2 (x.scale - 1074), 0)
    else (x.significand * Nat.pow 5 (1074 - x.scale), 1074 - x.scale)
  (if x.negative then "-" else "") ++ toString n ++ "e-" ++ toString places

mutual

def compact : Json → String
  | null => "null"
  | bool b => if b then "true" else "false"
  | int i => toString i
  | double x => renderDouble x
  | str s => quote s
  | arr items => "[" ++ String.intercalate "," (compactItems items) ++ "]"
  | obj entries => "\x7b" ++ String.intercalate "," (compactEntries entries) ++ "\x7d"
  | garbled => "null"

def compactItems : List Json → List String
  | [] => []
  | item :: rest => compact item :: compactItems rest

def compactEntries : List (String × Json) → List String
  | [] => []
  | (key, value) :: rest => (quote key ++ ":" ++ compact value) :: compactEntries rest

end

def newline (indent : Nat) : String :=
  "\n" ++ String.ofList (List.replicate indent ' ')

/-- Lines between brackets, indented by two more than the brackets; nothing is between them if there
are no lines. -/
def block (indent : Nat) (opening closing : String) (lines : List String) : String :=
  if lines.isEmpty then opening ++ closing
  else
    opening ++ newline (indent + 2) ++ String.intercalate ("," ++ newline (indent + 2)) lines ++
      newline indent ++ closing

mutual

/-- A value over several lines, whose first stands at an indent. -/
def prettyAt : Nat → Json → String
  | indent, arr items => block indent "[" "]" (prettyItems (indent + 2) items)
  | indent, obj entries => block indent "\x7b" "\x7d" (prettyEntries (indent + 2) entries)
  | _, null => "null"
  | _, bool b => if b then "true" else "false"
  | _, int i => toString i
  | _, double x => renderDouble x
  | _, str s => quote s
  | _, garbled => "null"

def prettyItems : Nat → List Json → List String
  | _, [] => []
  | indent, item :: rest => prettyAt indent item :: prettyItems indent rest

def prettyEntries : Nat → List (String × Json) → List String
  | _, [] => []
  | indent, (key, value) :: rest =>
    (quote key ++ ": " ++ prettyAt indent value) :: prettyEntries indent rest

end

def pretty (j : Json) : String :=
  prettyAt 0 j

end OutlineQuery.Json
