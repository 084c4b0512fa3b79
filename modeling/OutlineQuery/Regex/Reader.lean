import OutlineQuery.Regex.Bracket
import OutlineQuery.Text.Alphanumeric

/-!
Reading a pattern. The reader goes through the text once and keeps, for the innermost open group and
for every group around it, the branches and items read so far.
-/
namespace OutlineQuery.Regex

/-- What has been read inside one group: its finished branches and the items of the branch being
read, each last first. -/
structure Level where
  branches : List Ast
  items : List Ast

namespace Level

def empty : Level := ⟨[], []⟩

def push (l : Level) (item : Ast) : Level :=
  { l with items := item :: l.items }

def branch (l : Level) : Level :=
  ⟨Ast.ofItems l.items.reverse :: l.branches, []⟩

def close (l : Level) : Ast :=
  match l.branches with
  | [] => Ast.ofItems l.items.reverse
  | _ => .alternation l.branch.branches.reverse

/-- Repeats the last item. There must be one, and switches cannot be repeated. -/
def repeatLast (l : Level) (min : Nat) (max : Option Nat) (greedy : Bool) : Option Level :=
  match l.items with
  | [] => none
  | .flags _ :: _ => none
  | item :: rest => some { l with items := .repeated item min max greedy :: rest }

end Level

/-- A group that has been opened: its kind, what had been read around it, and whether verbose mode
was on there. -/
structure OpenGroup where
  kind : GroupKind
  outer : Level
  verbose : Bool

structure ReaderState where
  verbose : Bool
  names : List String
  level : Level
  opened : List OpenGroup

namespace ReaderState

def initial : ReaderState := ⟨false, [], Level.empty, []⟩

def push (st : ReaderState) (item : Ast) : ReaderState :=
  { st with level := st.level.push item }

def openGroup (st : ReaderState) (kind : GroupKind) : ReaderState :=
  { verbose := kind.flags.apply .verbose st.verbose
    names := match kind with
      | .named name => name :: st.names
      | _ => st.names
    level := Level.empty
    opened := ⟨kind, st.level, st.verbose⟩ :: st.opened }

/-- Sets switches for the rest of the group being read. -/
def setFlags (st : ReaderState) (change : FlagChange) : ReaderState :=
  { st with verbose := change.apply .verbose st.verbose, level := st.level.push (.flags change) }

def closeGroup (st : ReaderState) : Option ReaderState :=
  match st.opened with
  | [] => none
  | g :: rest =>
    some { st with
      verbose := g.verbose
      level := g.outer.push (.group g.kind st.level.close)
      opened := rest }

/-- The pattern read, if no group is open. -/
def finish (st : ReaderState) : Option Ast :=
  if st.opened.isEmpty then some st.level.close else none

end ReaderState

def Flag.ofChar? : Char → Option Flag
  | 'i' => some .ignoreCase
  | 'm' => some .multiLine
  | 's' => some .dotMatchesNewline
  | 'U' => some .swapGreed
  | 'u' => some .unicode
  | 'R' => some .crlf
  | 'x' => some .verbose
  | _ => none

/-- Reads switches up to a colon or a closing parenthesis, which is given back too. -/
def readFlags (change : FlagChange) (negated dangling : Bool) :
    List Char → Option (FlagChange × Char × List Char)
  | [] => none
  | c :: rest =>
    if c = ':' ∨ c = ')' then
      -- A hyphen is followed by a switch, and there is one hyphen at most.
      if dangling then none else some (change, c, rest)
    else if c = '-' then
      if negated then none else readFlags change true true rest
    else
      match Flag.ofChar? c with
      | none => none
      | some flag =>
        -- No switch occurs twice.
        if change.on.contains flag || change.off.contains flag then none
        else if negated then readFlags { change with off := change.off ++ [flag] } true false rest
        else readFlags { change with on := change.on ++ [flag] } false false rest

/-- Whether a text may name a group: a letter or an underscore, then also digits, points and
brackets. -/
def isGroupName : List Char → Bool
  | [] => false
  | c :: rest =>
    (c == '_' || Text.isAlphabetic c) &&
      rest.all fun d => d == '_' || d == '.' || d == '[' || d == ']' || Text.isAlphanumeric d

/-- Opens a group whose name, which must be new, comes first. -/
def readNamedGroup (st : ReaderState) (cs : List Char) : Option (ReaderState × List Char) :=
  let name := cs.takeWhile (· != '>')
  match cs.dropWhile (· != '>') with
  | [] => none
  | _ :: rest =>
    if isGroupName name && !st.names.contains (String.ofList name) then
      some (st.openGroup (.named (String.ofList name)), rest)
    else none

/-- Reads what an opening parenthesis begins: a group, or switches. There is no look-around. -/
def readGroup (st : ReaderState) (cs : List Char) : Option (ReaderState × List Char) :=
  match skip st.verbose cs with
  | '?' :: 'P' :: '<' :: rest => readNamedGroup st rest
  | '?' :: '<' :: rest => readNamedGroup st rest
  | '?' :: rest =>
    match readFlags FlagChange.none false false rest with
    | none => none
    | some (change, stop, rest) =>
      if stop = ':' then some (st.openGroup (.plain change), rest)
      -- There are no switches to set in an empty list of them.
      else if change = FlagChange.none then none
      else some (st.setFlags change, rest)
  | rest => some (st.openGroup .capture, rest)

/-- Reads the mark that makes a repetition lazy, if it is there. -/
def readLazy : List Char → Bool × List Char
  | '?' :: rest => (false, rest)
  | cs => (true, cs)

/-- Reads the counts of a repetition after the opening brace. -/
def readCounts (verbose : Bool) (cs : List Char) : Option ((Nat × Option Nat) × List Char) := do
  let (min, rest) ← readCount verbose (skip verbose cs)
  match rest with
  | '}' :: rest => return ((min, some min), rest)
  | ',' :: rest =>
    match skip verbose rest with
    | '}' :: rest => return ((min, none), rest)
    | rest =>
      let (max, rest) ← readCount verbose rest
      match rest with
      | '}' :: rest => if min ≤ max then return ((min, some max), rest) else none
      | _ => none
  | _ => none

/-- Repeats the last item so many times, lazily if the mark for that follows. -/
def readRepetition (st : ReaderState) (min : Nat) (max : Option Nat) (cs : List Char) :
    Option (ReaderState × List Char) := do
  let (greedy, rest) := readLazy cs
  let level ← st.level.repeatLast min max greedy
  return ({ st with level }, rest)

/-- Reads the next part of a pattern, which starts with the given character. -/
def ReaderState.step (st : ReaderState) (c : Char) (rest : List Char) :
    Option (ReaderState × List Char) :=
  match c with
  | '(' => readGroup st rest
  | ')' => st.closeGroup.map (·, rest)
  | '|' => some ({ st with level := st.level.branch }, rest)
  | '[' => (readBracket st.verbose rest).map fun ((negated, set), after) =>
      (st.push (.bracket negated set), after)
  | '?' => readRepetition st 0 (some 1) rest
  | '*' => readRepetition st 0 none rest
  | '+' => readRepetition st 1 none rest
  | '{' =>
    match readCounts st.verbose rest with
    | none => none
    | some ((min, max), rest) => readRepetition st min max (skip st.verbose rest)
  | '\\' => (readEscape st.verbose rest).map fun (a, after) => (st.push a.toAst, after)
  | '.' => some (st.push .dot, rest)
  | '^' => some (st.push (.assertion .lineStart), rest)
  | '$' => some (st.push (.assertion .lineEnd), rest)
  | c => some (st.push (.literal ⟨c, false⟩), rest)

/-- Reads to the end of a pattern. Every step takes a character, so the length of the text is enough
fuel. -/
def ReaderState.run : Nat → ReaderState → List Char → Option ReaderState
  | fuel, st, cs =>
    match skip st.verbose cs with
    | [] => some st
    | c :: rest =>
      match fuel with
      | 0 => none
      | fuel + 1 =>
        match st.step c rest with
        | none => none
        | some (st, rest) => run fuel st rest

def parse? (pattern : String) : Option Ast :=
  let cs := pattern.toList
  (ReaderState.initial.run cs.length cs).bind ReaderState.finish

end OutlineQuery.Regex
