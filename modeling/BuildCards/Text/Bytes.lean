import BuildCards.Text.Basic

/-!
# Places in a text, counted in bytes

A place in a text can be given by the number of bytes before it, as the text is written in UTF-8.
A number that falls inside of a character is no place, so a cut there has no result.
-/

namespace BuildCards

namespace Text

/-- The number of bytes of the text. -/
def byteSize (t : Text) : Nat := t.foldr (fun c n => c.utf8Size + n) 0

/-- The text after its first `n` bytes. -/
def dropBytes? : Nat → Text → Option Text
  | 0, t => some t
  | _ + 1, [] => none
  | n + 1, c :: t => if c.utf8Size ≤ n + 1 then dropBytes? (n + 1 - c.utf8Size) t else none

/-- The first `n` bytes of the text. -/
def takeBytes? : Nat → Text → Option Text
  | 0, _ => some []
  | _ + 1, [] => none
  | n + 1, c :: t =>
    if c.utf8Size ≤ n + 1 then (takeBytes? (n + 1 - c.utf8Size) t).map (c :: ·) else none

/-- So many bytes of the text, from the place `start` on. -/
def sliceBytes? (t : Text) (start size : Nat) : Option Text :=
  (dropBytes? start t).bind (takeBytes? size)

@[simp] theorem byteSize_nil : byteSize [] = 0 := rfl

@[simp] theorem byteSize_cons (c : Char) (t : Text) :
    byteSize (c :: t) = c.utf8Size + byteSize t := rfl

/-- The bytes of a part at the start of a text are the part, and what is after them is the rest. -/
theorem cutBytes?_append (s t : Text) :
    takeBytes? (byteSize s) (s ++ t) = some s ∧ dropBytes? (byteSize s) (s ++ t) = some t := by
  induction s with
  | nil => cases t <;> exact ⟨rfl, rfl⟩
  | cons c s ih =>
    obtain ⟨htake, hdrop⟩ := ih
    obtain ⟨n, hn⟩ := Nat.exists_eq_succ_of_ne_zero (Nat.pos_iff_ne_zero.1 c.utf8Size_pos)
    have hfits : c.utf8Size ≤ n + byteSize s + 1 := by omega
    have hleft : n + byteSize s + 1 - c.utf8Size = byteSize s := by omega
    rw [byteSize_cons, hn, Nat.succ_add, List.cons_append, takeBytes?, dropBytes?, if_pos hfits,
      if_pos hfits, hleft, htake, hdrop]
    exact ⟨rfl, rfl⟩

/-- A part in the middle of a text is cut out at its own place. -/
theorem sliceBytes?_append (r s t : Text) :
    sliceBytes? (r ++ (s ++ t)) (byteSize r) (byteSize s) = some s := by
  rw [sliceBytes?, (cutBytes?_append r (s ++ t)).2, Option.bind_some, (cutBytes?_append s t).1]

end Text

end BuildCards
