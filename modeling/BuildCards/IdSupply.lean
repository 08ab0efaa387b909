import BuildCards.Text.Basic

/-!
# Supplies of identifiers

Every card gets an identifier when it is made.  A supply is an endless sequence of them, with the
number of those already drawn; drawing gives the next one and the supply that is left.
-/

namespace BuildCards

/-- A sequence of identifiers, some of them drawn. -/
structure IdSupply where
  /-- The identifier at each position. -/
  name : Nat → Text
  /-- How many have been drawn. -/
  drawn : Nat := 0

namespace IdSupply

variable (ids : IdSupply)

/-- The next identifier. -/
def next : Text := ids.name ids.drawn

/-- The supply after `n` more identifiers have been drawn. -/
def skip (n : Nat) : IdSupply := { ids with drawn := ids.drawn + n }

@[simp] theorem name_skip (n : Nat) : (ids.skip n).name = ids.name := rfl

@[simp] theorem drawn_skip (n : Nat) : (ids.skip n).drawn = ids.drawn + n := rfl

@[simp] theorem skip_zero : ids.skip 0 = ids := rfl

@[simp] theorem skip_skip (m n : Nat) : (ids.skip m).skip n = ids.skip (m + n) := by
  simp [skip, Nat.add_assoc]

/-- The identifiers `id-1`, `id-2`, and so on. -/
def sequential : IdSupply := ⟨fun n => "id-".toList ++ Text.decimal (n + 1), 0⟩

theorem name_sequential_injective : Function.Injective sequential.name := by
  intro m n h
  have hnumber := Text.decimal_inj.1 (List.append_cancel_left h)
  omega

end IdSupply

end BuildCards
