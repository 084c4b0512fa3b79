import OutlineQuery.Json.Value
import OutlineQuery.Number.Numeral

/-!
Reading JSON text strictly: no comments, no trailing commas, no leading zeros, no control characters
in strings, and nothing after the value. Each reader gives back the characters that it leaves;
`none` is a syntax error.
-/
namespace OutlineQuery.Json

def isSpace (c : Char) : Bool :=
  c == ' ' || c == '\t' || c == '\n' || c == '\r'

def dropSpaces (cs : List Char) : List Char :=
  cs.dropWhile isSpace

def hexDigit? (c : Char) : Option Nat :=
  if '0' ≤ c ∧ c ≤ '9' then some (c.toNat - '0'.toNat)
  else if 'a' ≤ c ∧ c ≤ 'f' then some (c.toNat - 'a'.toNat + 10)
  else if 'A' ≤ c ∧ c ≤ 'F' then some (c.toNat - 'A'.toNat + 10)
  else none

/-- Part of a string: a character, or one half of a surrogate pair. -/
inductive Piece where
  | char (c : Char)
  | half (unit : Nat)
deriving DecidableEq, Repr

namespace Piece

/-- The piece that a four-digit escape denotes. -/
def ofUnit (n : Nat) : Piece :=
  if 0xD800 ≤ n ∧ n ≤ 0xDFFF then half n else char (Char.ofNat n)

/-- The character of a surrogate pair, if the halves are in order. -/
def pair? (high low : Nat) : Option Char :=
  if high < 0xDC00 ∧ 0xDC00 ≤ low then
    some (Char.ofNat (0x10000 + (high - 0xD800) * 0x400 + (low - 0xDC00)))
  else none

/-- The text of some pieces, if every half has its partner. -/
def assemble : List Piece → Option (List Char)
  | [] => some []
  | char c :: rest => (assemble rest).map (c :: ·)
  | half high :: half low :: rest =>
    match pair? high low, assemble rest with
    | some c, some cs => some (c :: cs)
    | _, _ => none
  | half _ :: _ => none

end Piece

def escape? (c : Char) : Option Char :=
  match c with
  | '"' => some '"'
  | '\\' => some '\\'
  | '/' => some '/'
  | 'b' => some (Char.ofNat 8)
  | 'f' => some (Char.ofNat 12)
  | 'n' => some '\n'
  | 'r' => some '\r'
  | 't' => some '\t'
  | _ => none

/-- Reads the pieces of a string after its opening quote. -/
def readPieces : List Char → Option (List Piece × List Char)
  | [] => none
  | '"' :: rest => some ([], rest)
  | '\\' :: 'u' :: a :: b :: c :: d :: rest => do
    let unit := (← hexDigit? a) * 4096 + (← hexDigit? b) * 256 + (← hexDigit? c) * 16 + (← hexDigit? d)
    let (pieces, after) ← readPieces rest
    return (Piece.ofUnit unit :: pieces, after)
  | '\\' :: c :: rest => do
    let e ← escape? c
    let (pieces, after) ← readPieces rest
    return (.char e :: pieces, after)
  | c :: rest =>
    -- The backslash has nothing after it; the others are controls.
    if c = '\\' ∨ c.toNat < 0x20 then none
    else do
      let (pieces, after) ← readPieces rest
      return (.char c :: pieces, after)

/-- Reads a string after its opening quote; its text is missing if half of a pair is. -/
def readString (cs : List Char) : Option (Option String × List Char) :=
  (readPieces cs).map fun (pieces, rest) => ((Piece.assemble pieces).map String.ofList, rest)

def digits (cs : List Char) : List Nat :=
  cs.map fun c => c.toNat - '0'.toNat

def readDigits (cs : List Char) : Option (List Nat × List Char) :=
  match cs.takeWhile Char.isDigit with
  | [] => none
  | ds => some (digits ds, cs.dropWhile Char.isDigit)

/-- Reads the digits before the point. Only zero itself starts with a zero. -/
def readWhole (cs : List Char) : Option (List Nat × List Char) :=
  match cs with
  | '0' :: rest => some ([0], rest)
  | _ => readDigits cs

def readFraction (cs : List Char) : Option (List Nat × List Char) :=
  match cs with
  | '.' :: rest => readDigits rest
  | _ => some ([], cs)

/-- Reads the digits of an exponent after its sign. -/
def readPower (negative : Bool) (cs : List Char) : Option (Option Int × List Char) :=
  (readDigits cs).map fun (ds, rest) =>
    let n : Int := Numeral.digitsValue ds
    (some (if negative then -n else n), rest)

def readExponent (cs : List Char) : Option (Option Int × List Char) :=
  match cs with
  | c :: rest =>
    if c = 'e' ∨ c = 'E' then
      match rest with
      | '-' :: rest => readPower true rest
      | '+' :: rest => readPower false rest
      | _ => readPower false rest
    else some (none, cs)
  | [] => some (none, cs)

/-- The value of a number, which is garbled if it is beyond all doubles. -/
def ofNumeral (n : Numeral) : Json :=
  match n.integer? with
  | some i => int i
  | none => n.double?.elim garbled double

/-- Reads a number after its sign. -/
def readNumber (negative : Bool) (cs : List Char) : Option (Json × List Char) := do
  let (whole, rest) ← readWhole cs
  let (fraction, rest) ← readFraction rest
  let (exponent, rest) ← readExponent rest
  return (ofNumeral ⟨negative, whole, fraction, exponent⟩, rest)

def readWord (word : String) (value : Json) (cs : List Char) : Option (Json × List Char) :=
  if word.toList.isPrefixOf cs then some (value, cs.drop word.toList.length) else none

/-- The object with some entries, which is garbled if a key is. -/
def ofEntries (entries : List (Option String × Json)) : Json :=
  match entries.mapM fun (key, value) => key.map (·, value) with
  | some entries => obj entries
  | none => garbled

mutual

def readValue : Nat → List Char → Option (Json × List Char)
  | 0, _ => none
  | fuel + 1, cs =>
    match dropSpaces cs with
    | [] => none
    | '"' :: rest => (readString rest).map fun (s, after) => (s.elim garbled str, after)
    | '[' :: rest =>
      match dropSpaces rest with
      | ']' :: after => some (arr [], after)
      | _ => (readItems fuel rest).map fun (items, after) => (arr items, after)
    | '{' :: rest =>
      match dropSpaces rest with
      | '}' :: after => some (obj [], after)
      | _ => (readEntries fuel rest).map fun (entries, after) => (ofEntries entries, after)
    | '-' :: rest => readNumber true rest
    | 'n' :: rest => readWord "null" null ('n' :: rest)
    | 't' :: rest => readWord "true" (bool true) ('t' :: rest)
    | 'f' :: rest => readWord "false" (bool false) ('f' :: rest)
    | rest => readNumber false rest

/-- Reads the items of an array that is not empty, to its end. -/
def readItems : Nat → List Char → Option (List Json × List Char)
  | 0, _ => none
  | fuel + 1, cs =>
    match readValue fuel cs with
    | none => none
    | some (item, rest) =>
      match dropSpaces rest with
      | ',' :: rest => (readItems fuel rest).map fun (items, after) => (item :: items, after)
      | ']' :: after => some ([item], after)
      | _ => none

/-- Reads the entries of an object that is not empty, to its end. -/
def readEntries : Nat → List Char → Option (List (Option String × Json) × List Char)
  | 0, _ => none
  | fuel + 1, cs =>
    match dropSpaces cs with
    | '"' :: rest =>
      match readString rest with
      | none => none
      | some (key, rest) =>
        match dropSpaces rest with
        | ':' :: rest =>
          match readValue fuel rest with
          | none => none
          | some (value, rest) =>
            match dropSpaces rest with
            | ',' :: rest =>
              (readEntries fuel rest).map fun (entries, after) => ((key, value) :: entries, after)
            | '}' :: after => some ([(key, value)], after)
            | _ => none
        | _ => none
    | _ => none

end

/-- The value that a text holds. Reading a value or an item takes a character or goes one level down
at the same place, so twice the length is enough fuel. -/
def parse? (text : String) : Option Json :=
  let cs := text.toList
  match readValue (2 * cs.length + 1) cs with
  | some (value, rest) => if (dropSpaces rest).isEmpty then some value else none
  | none => none

end OutlineQuery.Json
