import OutlineQuery.Regex.Escape
import OutlineQuery.Regex.Syntax
import OutlineQuery.Text.Blank

/-!
The smallest parts of a pattern: blanks and comments of verbose mode, numbers, and escapes. Every
reader takes the characters from where it starts and gives back those that it leaves; `none` is a
syntax error.
-/
namespace OutlineQuery.Regex

open OutlineQuery.Text (isBlank)

/-- Drops blanks and comments; the flag tells that a comment, which ends with its line, is open. -/
def dropBlanksAndComments : Bool → List Char → List Char
  | _, [] => []
  | true, c :: rest => dropBlanksAndComments (c != '\n') rest
  | false, c :: rest =>
    if isBlank c then dropBlanksAndComments false rest
    else if c = '#' then dropBlanksAndComments true rest
    else c :: rest

/-- Drops what carries no meaning: blanks and comments in verbose mode, else nothing. -/
def skip (verbose : Bool) (cs : List Char) : List Char :=
  if verbose then dropBlanksAndComments false cs else cs

/-- Collects at most so many characters of a kind, with what carries no meaning dropped after
each. -/
def collect (verbose : Bool) (p : Char → Bool) : Nat → List Char → List Char × List Char
  | n + 1, c :: rest =>
    if p c then
      let (taken, after) := collect verbose p n (skip verbose rest)
      (c :: taken, after)
    else ([], c :: rest)
  | _, cs => ([], cs)

def collectWhile (verbose : Bool) (p : Char → Bool) (cs : List Char) : List Char × List Char :=
  collect verbose p cs.length cs

def digitsValue (base : Nat) (value : Char → Nat) (ds : List Char) : Nat :=
  ds.foldl (fun n d => n * base + value d) 0

def decimalValue (c : Char) : Nat :=
  c.toNat - '0'.toNat

def isHexDigit (c : Char) : Bool :=
  c.isDigit || ('a' ≤ c && c ≤ 'f') || ('A' ≤ c && c ≤ 'F')

def hexValue (c : Char) : Nat :=
  if c.isDigit then decimalValue c else c.toLower.toNat - 'a'.toNat + 10

def charOfNat? (n : Nat) : Option Char :=
  if n < 0xD800 ∨ (0xDFFF < n ∧ n < 0x110000) then some (Char.ofNat n) else none

/-- Reads a repetition count: a number below 2^32 with blanks around it. -/
def readCount (verbose : Bool) (cs : List Char) : Option (Nat × List Char) :=
  let (ds, rest) := collectWhile verbose Char.isDigit (cs.dropWhile isBlank)
  let n := digitsValue 10 decimalValue ds
  if ds.isEmpty || 0x100000000 ≤ n then none else some (n, rest.dropWhile isBlank)

/-- Reads a character given by its code point, after `x`, `u` or `U`: in braces, or with exactly the
number of digits that the letter asks for. -/
def readHex (verbose : Bool) (width : Nat) (cs : List Char) : Option (Literal × List Char) :=
  match skip verbose cs with
  | '{' :: inner =>
    match collectWhile verbose isHexDigit (skip verbose inner) with
    | (d :: ds, '}' :: rest) => do
      let c ← charOfNat? (digitsValue 16 hexValue (d :: ds))
      return (⟨c, false⟩, rest)
    | _ => none
  | cs =>
    let (ds, rest) := collect verbose isHexDigit width cs
    if ds.length = width then do
      let c ← charOfNat? (digitsValue 16 hexValue ds)
      -- With two digits it is a byte where Unicode is off.
      return (⟨c, width == 2⟩, rest)
    else none

/-- Splits a text at the first place where a mark occurs. -/
def splitAt? (mark : List Char) : List Char → Option (List Char × List Char)
  | [] => none
  | c :: rest =>
    if mark.isPrefixOf (c :: rest) then some ([], (c :: rest).drop mark.length)
    else (splitAt? mark rest).map fun (before, after) => (c :: before, after)

/-- The property asked for by the text in braces. -/
def propertyOfText (cs : List Char) : Property :=
  match (splitAt? ['!', '='] cs).or ((splitAt? [':'] cs).or (splitAt? ['='] cs)) with
  | some (name, value) => ⟨String.ofList name, some (String.ofList value)⟩
  | none => ⟨String.ofList cs, none⟩

/-- Reads a property after `p` or `P`: one letter, or a text in braces. -/
def readProperty (verbose : Bool) (cs : List Char) : Option (Property × List Char) :=
  match skip verbose cs with
  | [] => none
  | '{' :: inner =>
    match collectWhile verbose (· != '}') (skip verbose inner) with
    | (name, '}' :: rest) => some (propertyOfText name, rest)
    | _ => none
  | c :: rest => if c = '\\' then none else some (⟨c.toString, none⟩, rest)

/-- The assertions with a name in braces after `\b`. -/
def boundaryOfName? (cs : List Char) : Option Assertion :=
  match String.ofList cs with
  | "start" => some .wordStart
  | "end" => some .wordEnd
  | "start-half" => some .wordStartHalf
  | "end-half" => some .wordEndHalf
  | _ => none

def isBoundaryNameChar (c : Char) : Bool :=
  c.isAlpha || c == '-'

/-- Reads what follows `\b`. Braces that do not start with a letter or a hyphen are left for a
repetition count. -/
def readBoundary (verbose : Bool) (cs : List Char) : Option (Assertion × List Char) :=
  match cs with
  | '{' :: inner =>
    match skip verbose inner with
    | [] => none
    | c :: more =>
      if isBoundaryNameChar c then
        match collectWhile verbose isBoundaryNameChar (c :: more) with
        | (name, '}' :: rest) => (boundaryOfName? name).map (·, rest)
        | _ => none
      else some (.wordBoundary, cs)
  | _ => some (.wordBoundary, cs)

/-- Whether a character may be escaped without need: any ASCII character but letters, digits and
angle brackets. -/
def isEscapable (c : Char) : Bool :=
  c.toNat < 0x80 && !(c.isAlphanum || c == '<' || c == '>')

/-- An escape or a single character. -/
inductive Atom where
  | literal (l : Literal)
  | letter (k : LetterClass) (negated : Bool)
  | property (p : Property) (negated : Bool)
  | assertion (a : Assertion)
deriving DecidableEq, Repr

namespace Atom

def char (c : Char) : Atom := literal ⟨c, false⟩

def toAst : Atom → Ast
  | literal l => .literal l
  | letter k negated => .letter k negated
  | property p negated => .property p negated
  | assertion a => .assertion a

/-- An atom in brackets, where no assertion may stand. -/
def toClassSet? : Atom → Option ClassSet
  | literal l => some (.literal l)
  | letter k negated => some (.letter k negated)
  | property p negated => some (.property p negated)
  | assertion _ => none

/-- An atom at an end of a range, which must be a character. -/
def literal? : Atom → Option Literal
  | literal l => some l
  | _ => none

end Atom

/-- The characters, classes and assertions that are a letter after a backslash. -/
def letterEscape? (c : Char) : Option Atom :=
  match c with
  | 'a' => some (.char (Char.ofNat 7))
  | 'f' => some (.char (Char.ofNat 12))
  | 't' => some (.char '\t')
  | 'n' => some (.char '\n')
  | 'r' => some (.char '\r')
  | 'v' => some (.char (Char.ofNat 11))
  | 'd' => some (.letter .digit false)
  | 'D' => some (.letter .digit true)
  | 's' => some (.letter .space false)
  | 'S' => some (.letter .space true)
  | 'w' => some (.letter .word false)
  | 'W' => some (.letter .word true)
  | 'A' => some (.assertion .textStart)
  | 'z' => some (.assertion .textEnd)
  | 'B' => some (.assertion .notWordBoundary)
  | '<' => some (.assertion .wordStart)
  | '>' => some (.assertion .wordEnd)
  | _ => none

def readEscape (verbose : Bool) : List Char → Option (Atom × List Char)
  | [] => none
  | c :: rest =>
    if isEscapable c then some (.char c, rest)
    else if c = 'x' then (readHex verbose 2 rest).map fun (l, after) => (.literal l, after)
    else if c = 'u' then (readHex verbose 4 rest).map fun (l, after) => (.literal l, after)
    else if c = 'U' then (readHex verbose 8 rest).map fun (l, after) => (.literal l, after)
    else if c = 'p' then
      (readProperty verbose rest).map fun (p, after) => (.property p false, after)
    else if c = 'P' then
      (readProperty verbose rest).map fun (p, after) => (.property p true, after)
    else if c = 'b' then
      (readBoundary verbose rest).map fun (a, after) => (.assertion a, after)
    else (letterEscape? c).map (·, rest)

end OutlineQuery.Regex
