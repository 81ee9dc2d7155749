import ReportLang.Text.ByteSequence

/-!
# The size of automata

How large an automaton over bytes becomes. States are numbered in the order in which they are
added, and only their number and the room that their edges take are kept.

Within one set of characters, parts that have been built are used again: ways into the same state
when texts are read backward, branches with the same edges when they are read forward. What has
been built is remembered in a fixed number of slots, so a part that lost its slot is built anew.
-/

namespace ReportLang.Text

/-- The extent of an automaton. -/
structure Extent where
  /-- How many states there are, which is also the number of the next one. -/
  states : Nat
  /-- The bytes that edges take, where a state has a list of them. -/
  edgeBytes : Nat
deriving DecidableEq

namespace Extent

/-- The bytes that a state takes. -/
def stateSize : Nat := 32

/-- The bytes that an edge takes in the list of a branch. -/
def edgeSize : Nat := 8

/-- The bytes that a state number takes in the list of a choice. -/
def choiceSize : Nat := 4

/-- The extent in bytes. -/
def bytes (extent : Extent) : Nat :=
  extent.states * stateSize + extent.edgeBytes

/-- Adds states that have no list of edges. -/
def addStates (extent : Extent) (count : Nat) : Extent :=
  { extent with states := extent.states + count }

/-- Adds a branch: a state with edges for byte ranges. -/
def addBranch (extent : Extent) (edges : Nat) : Extent :=
  ⟨extent.states + 1, extent.edgeBytes + edges * edgeSize⟩

/-- Adds states to the list of a choice. -/
def addChoices (extent : Extent) (count : Nat) : Extent :=
  { extent with edgeBytes := extent.edgeBytes + count * choiceSize }

end Extent

/-- The slot of a key, out of a number of slots. -/
def slotOf (slots : UInt64) (key : List UInt64) : UInt64 :=
  key.foldl (fun hash word => (hash ^^^ word) * 1099511628211) 14695981039346656037 % slots

/-- An automaton that is being built, with the parts of it that can be used again. -/
structure Builder where
  /-- What has been built. -/
  extent : Extent
  /-- How many parts can be remembered. -/
  slots : UInt64
  /-- The remembered parts: slot, key and state. The first part in a slot is the one in it. -/
  parts : List (UInt64 × List UInt64 × Nat)

namespace Builder

/-- The state remembered for a key. -/
def remembered? (builder : Builder) (key : List UInt64) : Option Nat :=
  match builder.parts.lookup (slotOf builder.slots key) with
  | some (found, state) => if found = key then some state else none
  | none => none

/-- The state of a part. It is added by `add` unless it is remembered. -/
def provide (builder : Builder) (key : List UInt64) (add : Extent → Extent) : Builder × Nat :=
  match builder.remembered? key with
  | some state => (builder, state)
  | none =>
    let state := builder.extent.states
    ({ builder with
        extent := add builder.extent
        parts := (slotOf builder.slots key, key, state) :: builder.parts }, state)

/-- Adds the states that read a sequence backward and then go on at `goal`. The state that reads
the last byte is the one to enter. -/
def addChain (builder : Builder) (goal : Nat) : ByteSequence → Builder × Nat
  | [] => (builder, goal)
  | range :: rest =>
    let key := [goal.toUInt64, range.first.toUInt64, range.last.toUInt64]
    let (builder, state) := builder.provide key (·.addStates 1)
    builder.addChain state rest

/-- Adds the branches that read one of some sequences forward and then go on at `goal`. Sequences
that start alike stand together, and none is longer than `depth`. -/
def addTree (goal : Nat) (builder : Builder) : Nat → List ByteSequence → Builder × Nat
  | 0, _ => (builder, goal)
  | depth + 1, sequences =>
    if sequences.all List.isEmpty then (builder, goal)
    else
      let groups := sequences.splitBy (·.head? == ·.head?)
      let (builder, key) := groups.foldl (fun (builder, key) group =>
        let (builder, state) := addTree goal builder depth (group.map List.tail)
        match group.head?.bind List.head? with
        | some range =>
          (builder, key ++ [range.first.toUInt64, range.last.toUInt64, state.toUInt64])
        | none => (builder, key)) (builder, [])
      builder.provide key (·.addBranch groups.length)

end Builder

/-- The direction in which an automaton reads a text. -/
inductive Direction where
  /-- From its start. -/
  | forward
  /-- From its end. -/
  | backward
deriving DecidableEq

/-- Adds to an automaton the states that read one of some sequences. An automaton that reads
forward has them as a tree of branches, one that reads backward as a choice between chains. -/
def Extent.addSequences (extent : Extent) (sequences : List ByteSequence) : Direction → Extent
  | .forward =>
    let goal := extent.states
    let depth := (sequences.map List.length).foldl max 0
    (Builder.addTree goal ⟨extent.addStates 1, 10000, []⟩ depth sequences).1.extent
  | .backward =>
    let goal := extent.states + 1
    let start : Builder := ⟨extent.addStates 2, 1000, []⟩
    let chains := sequences.foldl (fun builder sequence => (builder.addChain goal sequence).1) start
    chains.extent.addChoices sequences.length

end ReportLang.Text
