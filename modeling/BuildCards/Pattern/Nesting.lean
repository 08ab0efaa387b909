import BuildCards.Text.Basic

/-!
# Parts of a pattern

A pattern is built from parts: a sequence of parts is repeated, put into a group or offered as one
of several branches, and the members of a set are joined and combined in the same way.  Only the
depth of this nesting is kept, since a pattern that is nested too deeply is refused.  Parts that
stand alone add nothing to the depth (`depthOf`), and a character has none.

How the characters of a pattern are understood is said by *switches* (`Mode`).  Two of them decide
what a pattern may hold: `x`, after which blanks and comments mean nothing, and `u`, which is on at
first and without which the pattern speaks about bytes.
-/

namespace BuildCards

namespace Pattern

/-! ### Modes -/

/-- How the characters of a pattern are understood. -/
structure Mode where
  /-- Blanks between the parts mean nothing, and `#` begins a comment. -/
  spaced : Bool := false
  /-- The pattern speaks about characters, otherwise about bytes. -/
  wide : Bool := true
  deriving DecidableEq

namespace Mode

/-- The letters of the switches. -/
def letters : Text := ['i', 'm', 's', 'U', 'u', 'R', 'x']

/-- The word says of each letter whether its switch is on: those after the dash are off, and what
the word does not name stays as it is. -/
def switched (word : Text) (letter : Char) (before : Bool) : Bool :=
  if word.contains letter then (word.takeWhile (· != '-')).contains letter else before

/-- The mode after the switches in a word. -/
def switch (m : Mode) (word : Text) : Mode :=
  ⟨switched word 'x' m.spaced, switched word 'u' m.wide⟩

/-- The character may be a member of a set. -/
def admits (m : Mode) (c : Char) : Bool := m.wide || c.toNat < 128

end Mode

/-! ### Depth -/

/-- The depth of parts that stand together, from the depths of the parts. -/
def depthOf : List Nat → Nat
  | [] => 0
  | [d] => d
  | ds => 1 + ds.foldr max 0

/-! ### Sequences and branches -/

/-- A part of a sequence. -/
inductive Item where
  /-- Switches; there is nothing in them that could be repeated. -/
  | switches
  /-- A part of this depth. -/
  | part (depth : Nat)
  deriving DecidableEq

/-- The depth of a part. -/
def Item.depth : Item → Nat
  | switches => 0
  | part d => d

/-- A group that is still open, or the whole pattern. -/
structure Group where
  /-- The mode around the group. -/
  outer : Mode := {}
  /-- The parts of the branch that is being read, the last one first. -/
  items : List Item := []
  /-- The depths of the branches before it. -/
  branches : List Nat := []
  deriving DecidableEq

namespace Group

variable (g : Group)

/-- One part more. -/
def add (item : Item) : Group := { g with items := item :: g.items }

/-- The depth of the branch that is being read. -/
def branchDepth : Nat := depthOf (g.items.map Item.depth)

/-- The group with a new branch. -/
def branch : Group := { g with items := [], branches := g.branchDepth :: g.branches }

/-- The depth of what the group holds. -/
def depth : Nat := depthOf (g.branchDepth :: g.branches)

/-- The group with its last part repeated, if there is one that can be. -/
def repeatLast? : Option Group :=
  match g.items with
  | .part d :: items => some { g with items := .part (d + 1) :: items }
  | _ => none

end Group

/-! ### Sets -/

/-- A set of characters that is still open. -/
structure OpenSet where
  /-- The depths of the members that were read last, after the last sign between sets. -/
  members : List Nat := []
  /-- The depth of what stands before that sign. -/
  left : Option Nat := none
  deriving DecidableEq

namespace OpenSet

variable (s : OpenSet)

/-- One member more. -/
def add (depth : Nat) : OpenSet := { s with members := depth :: s.members }

/-- The depth of what the set holds. -/
def depth : Nat :=
  match s.left with
  | none => depthOf s.members
  | some l => 1 + max l (depthOf s.members)

/-- The set after a sign that combines what was read with what follows. -/
def combine : OpenSet := { left := some s.depth }

end OpenSet

end Pattern

end BuildCards
