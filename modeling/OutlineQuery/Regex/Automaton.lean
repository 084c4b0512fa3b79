import Std.Data.HashMap
import OutlineQuery.Regex.Normal

/-!
How large the automata of a pattern are. One automaton reads bytes forward from the start of a match
and one reads them backward from its end. A repetition stands for as many copies of its body as its
counts ask for, so a short pattern can need very many states; building stops where the limit is
passed.
-/
namespace OutlineQuery.Regex

open OutlineQuery.Text (CodePoints)

/-- How much of an automaton is built: its states, which are numbered in the order in which they are
added, and the bytes that these take. -/
structure Extent where
  states : Nat
  bytes : Nat
deriving DecidableEq, Repr

namespace Extent

def zero : Extent := ⟨0, 0⟩

def limit : Nat := 0xA00000

/-- Adds states that take some bytes beyond those of every state, unless the limit is passed. -/
def grow (states extra : Nat) (x : Extent) : Option Extent :=
  let bytes := x.bytes + 32 * states + extra
  if bytes ≤ limit then some ⟨x.states + states, bytes⟩ else none

def add (states : Nat) : Extent → Option Extent :=
  grow states 0

def addChoice (others : Nat) : Extent → Option Extent :=
  grow 1 (4 * others)

/-- Adds a state with a way on for each of some byte ranges. -/
def addRanges (ranges : Nat) : Extent → Option Extent :=
  grow 1 (8 * ranges)

def copies (build : Extent → Option Extent) : Nat → Extent → Option Extent
  | 0, x => some x
  | n + 1, x =>
    match build x with
    | none => none
    | some x => copies build n x

end Extent

inductive Direction where
  | forward
  | backward
deriving DecidableEq, Repr

/-- States built before, by what they do. A key has a slot, and there drives out an earlier key. -/
structure Memo where
  slots : Std.HashMap Nat (List Nat × Nat)

namespace Memo

def empty : Memo := ⟨∅⟩

/-- The slot of a key among some: a hash into which its numbers are mixed one after the other. -/
def slot (size : Nat) (key : List Nat) : Nat :=
  (key.foldl (fun h n => (h ^^^ UInt64.ofNat n) * 0x100000001b3) (0xcbf29ce484222325 : UInt64)).toNat
    % size

def find? (m : Memo) (slot : Nat) (key : List Nat) : Option Nat :=
  match m.slots[slot]? with
  | some (k, state) => if k == key then some state else none
  | none => none

def insert (m : Memo) (slot : Nat) (key : List Nat) (state : Nat) : Memo :=
  ⟨m.slots.insert slot (key, state)⟩

end Memo

/-- An automaton being built, with the states of a class that can be shared. -/
structure Draft where
  extent : Extent
  memo : Memo

namespace Draft

/-- The state for a key: one that was built for it before, or a new one. -/
def state (size : Nat) (key : List Nat) (build : Extent → Option Extent) (d : Draft) :
    Option (Nat × Draft) :=
  let slot := Memo.slot size key
  match d.memo.find? slot key with
  | some state => some (state, d)
  | none => (build d.extent).map fun x =>
    (d.extent.states, ⟨x, d.memo.insert slot key d.extent.states⟩)

end Draft

/-- Adds the states of a sequence of byte ranges read backward: each leads to the one given. -/
def chain (next : Nat) : List (Nat × Nat) → Draft → Option Draft
  | [], d => some d
  | (lo, hi) :: rest, d =>
    match d.state 1000 [next, lo, hi] (Extent.add 1) with
    | none => none
    | some (state, d) => chain state rest d

/-- Adds the state that reads the first ranges of sequences, and before it those that read the rest
of them, down to a depth. -/
def branch (target : Nat) : Nat → List (List (Nat × Nat)) → Draft → Option (Nat × Draft)
  | 0, _, d => some (target, d)
  | depth + 1, seqs, d =>
    -- Sequences with the same start follow each other, and states that do the same are shared.
    let groups := seqs.splitBy fun a b => a.head? == b.head?
    let step (acc : List Nat × Draft) (group : List (List (Nat × Nat))) :
        Option (List Nat × Draft) :=
      let (key, d) := acc
      match group with
      | ((lo, hi) :: rest) :: _ =>
        if rest.isEmpty then some (key ++ [lo, hi, target], d)
        else (branch target depth (group.map List.tail) d).map fun (state, d) =>
          (key ++ [lo, hi, state], d)
      | _ => some (key, d)
    match groups.foldlM step ([], d) with
    | none => none
    | some (key, d) => d.state 10000 key (Extent.addRanges groups.length)

def addClass (dir : Direction) (s : CodePoints) (x : Extent) : Option Extent :=
  if s.isAscii then do (← x.add 1).addRanges s.length
  else
    let seqs := Text.Utf8.sequences s
    match dir with
    | .forward => do
      let (_, d) ← branch x.states 4 seqs ⟨← x.add 1, .empty⟩
      return d.extent
    | .backward => do
      let d : Draft := ⟨← (← x.addChoice seqs.length).add 1, .empty⟩
      let d ← seqs.foldlM (fun d seq => chain (x.states + 1) seq d) d
      return d.extent

/-- Parts words at the empty ones among them. -/
def splitAtEmpty : List (List Nat) → List (List (List Nat))
  | [] => [[]]
  | [] :: rest => [] :: splitAtEmpty rest
  | word :: rest =>
    match splitAtEmpty rest with
    | part :: parts => (word :: part) :: parts
    | [] => [[word]]

/-- The words with several empty ones at the start made one. -/
def dropEmpty (words : List (List Nat)) : List (List Nat) :=
  (if words.head? == some [] then [[]] else []) ++ words.dropWhile List.isEmpty

/-- The number of states that tell words apart byte by byte, down to a depth, and the bytes that
they take beyond those of every state. -/
def trie : Nat → List (List Nat) → Nat × Nat
  | 0, _ => (0, 0)
  | depth + 1, words =>
    if words.all List.isEmpty then (0, 0)
    else
      -- Earlier words come first, so an empty word divides those before it from those after it.
      let parts := splitAtEmpty (dropEmpty words)
      let sizes := parts.map fun part =>
        let starts := (part.filterMap List.head?).eraseDups
        let below := starts.map fun b =>
          trie depth ((part.filter fun w => w.head? == some b).map List.tail)
        let states := below.foldr (fun p n => p.1 + n) 0
        let extra := below.foldr (fun p n => p.2 + n) 0
        match starts.length with
        | 0 => (0, extra)
        | 1 => (states + 1, extra)
        | n => (states + 1, extra + 8 * n)
      -- There is a way to each part with words in it, and one for each empty word between parts.
      let ways := (parts.filter fun part => !part.isEmpty).length + (parts.length - 1)
      (sizes.foldr (fun p n => p.1 + n) 1, sizes.foldr (fun p n => p.2 + n) (4 * ways))

def addWords (words : List (List Nat)) (x : Extent) : Option Extent :=
  let depth := (words.map List.length).foldr max 0
  let (states, extra) := trie (depth + 1) words
  x.grow (states + 1) extra

namespace Normal

def text? : Normal → Option (List Nat)
  | text cs => some cs
  | _ => none

mutual

def build (dir : Direction) : Normal → Extent → Option Extent
  | empty, x => x.add 1
  | text cs, x => x.add (cs.flatMap Text.Utf8.encode).length
  | chars _ s, x => addClass dir s x
  | place _, x => x.add 1
  -- Only the forward automaton keeps where a group starts and ends.
  | group body, x =>
    match dir with
    | .forward => do (← build dir body (← x.add 1)).add 1
    | .backward => build dir body x
  | concat items, x => buildAll dir items x
  | alternation branches, x =>
    match branches.mapM text? with
    | some texts =>
      let words := texts.map (·.flatMap Text.Utf8.encode)
      addWords (if dir = .forward then words else words.map List.reverse) x
    | none => buildAny dir branches.length 0 branches x
  | repeated body least most _, x =>
    match least, most with
    | 0, some 1 => do (← build dir body (← x.addChoice 2)).add 1
    | 0, none =>
      -- A loop around what can match nothing has a second choice, so that it ends.
      if body.minLength.any (0 < ·) then do build dir body (← x.addChoice 2)
      else do (← (← (← build dir body x).addChoice 2).addChoice 2).add 1
    | n, none => do (← Extent.copies (build dir body) n x).addChoice 2
    | n, some most => do
      let x ← if n = 0 then x.add 1 else Extent.copies (build dir body) n x
      if n = most then return x
      else Extent.copies (fun x => do build dir body (← x.addChoice 2)) (most - n) (← x.add 1)

def buildAll (dir : Direction) : List Normal → Extent → Option Extent
  | [], x => some x
  | e :: rest, x =>
    match dir with
    | .forward => do buildAll dir rest (← build dir e x)
    | .backward => do build dir e (← buildAll dir rest x)

/-- Adds the states of a choice of so many expressions, of which some are built. -/
def buildAny (dir : Direction) (count : Nat) (built : Nat) : List Normal → Extent → Option Extent
  | [], x => some x
  | e :: rest, x => do
    let x ← build dir e x
    -- The choice itself, and the state where its branches meet, come after the second of them.
    let x ← if built = 1 then (← x.addChoice count).add 1 else some x
    buildAny dir count (built + 1) rest x

end

/-- Builds the whole automaton. -/
def automaton (e : Normal) (dir : Direction) : Option Extent := do
  let anchored := match dir with
    | .forward => e.startsText
    | .backward => e.endsText
  -- Unless every match is at the end where reading starts, bytes there are skipped.
  let x ← if anchored then Extent.zero.add 1
    else do (← (← Extent.zero.addChoice 2).add 1).addRanges 1
  -- The forward automaton also marks where the match starts and ends.
  let x ← match dir with
    | .forward => do (← e.build dir (← x.add 1)).add 1
    | .backward => e.build dir x
  x.add 1

/-- Whether both automata stay within the limit. -/
def fits (e : Normal) : Bool :=
  (e.automaton .backward).isSome && (e.automaton .forward).isSome

end Normal

end OutlineQuery.Regex
