import BuildCards.Block

/-!
# Lists of packages

A list of packages to install.  Its text is one command that installs them; what stands before the
first package is fixed (`Packages.preamble`) and is left out when the text is read.
-/

namespace BuildCards

/-- Packages to install. -/
structure Packages where
  /-- The identifier. -/
  id : Text
  /-- The names of the packages, with blanks between them. -/
  packageList : Text
  /-- The list was read from a text. -/
  fromText : Bool
  /-- The text that the list was read from. -/
  source : Option Text
  deriving DecidableEq

namespace Packages

/-- What stands before the first package. -/
def preamble : Text := "RUN apt-get update -y && apt-get upgrade -y && apt-get install -y ".toList

/-- The words of a text with a space between each two. -/
def normalize (list : Text) : Text := [' '].intercalate (Text.words list)

theorem words_normalize (list : Text) : Text.words (normalize list) = Text.words list :=
  Text.words_intercalate (fun _ hw _ hc => Text.isBlank_of_mem_words hw hc)
    fun _ hw => Text.ne_nil_of_mem_words hw

/-- The words of a list are no more changed by a second normalization. -/
theorem normalize_normalize (list : Text) : normalize (normalize list) = normalize list := by
  conv => lhs; rw [normalize, words_normalize]
  rfl

theorem trimEnd_normalize (list : Text) : Text.trimEnd (normalize list) = normalize list :=
  Text.trimEnd_intercalate (fun _ hw _ hc => Text.isBlank_of_mem_words hw hc)
    fun _ hw => Text.ne_nil_of_mem_words hw

theorem newline_notMem_normalize (list : Text) : '\n' ∉ normalize list := by
  have hwords {ws : List Text} (h : ∀ w ∈ ws, '\n' ∉ w) : '\n' ∉ [' '].intercalate ws := by
    induction ws with
    | nil => simp
    | cons w ws ih =>
      have hw := h w List.mem_cons_self
      have ih' := ih fun v hv => h v (List.mem_cons_of_mem _ hv)
      by_cases hws : ws = []
      · simpa [hws] using hw
      · rw [List.intercalate_cons_of_ne_nil hws]
        simp [hw, ih']
  refine hwords fun w hw hm => ?_
  exact absurd (Text.isBlank_of_mem_words hw hm) (by decide)

/-- A text without the preamble: what follows it at the start, or else the text without the first
place that holds it. -/
def withoutPreamble (text : Text) : Text :=
  (Text.afterStart? (Text.trimEnd preamble) (Text.trimStart text)).getD
    (Text.removeFirst preamble text)

/-- The preamble without its last blank. -/
def stem : Text := Text.trimEnd preamble

theorem preamble_eq : preamble = stem ++ [' '] := by decide

theorem stem_append (t : Text) : stem ++ t = 'R' :: (stem.tail ++ t) := rfl

theorem withoutPreamble_of_isBlank {before : Text} (h : Text.IsBlank before) (behind : Text) :
    withoutPreamble (before ++ (stem ++ behind)) = behind := by
  have hstart : Text.trimStart (stem ++ behind) = stem ++ behind := by
    rw [stem_append]
    exact Text.trimStart_cons (by decide)
  have hafter : Text.afterStart? (Text.trimEnd preamble)
      (Text.trimStart (before ++ (stem ++ behind))) = some behind := by
    rw [Text.trimStart_append_of_isBlank h, hstart]
    exact Text.afterStart?_append
  rw [withoutPreamble, hafter]
  rfl

/-- The list of no text. -/
def blank (id : Text) : Packages := ⟨id, [], false, none⟩

/-- The list in a text.  No text and an empty one give a blank list. -/
def parse (id : Text) : Option Text → Packages
  | none => blank id
  | some [] => blank id
  | some (c :: text) => ⟨id, normalize (withoutPreamble (c :: text)), true, some (c :: text)⟩

/-- The identifier has no part in how a text is read. -/
theorem parse_withId (id id' : Text) (source : Option Text) :
    parse id' source = { parse id source with id := id' } := by
  match source with
  | none => rfl
  | some [] => rfl
  | some (c :: text) => rfl

variable (p : Packages)

/-- The names of the packages. -/
def names : List Text := Text.words p.packageList

/-- The block of a list; a list without packages has none. -/
def render : Text :=
  let list := normalize p.packageList
  if list.isEmpty then [] else Block.wrap .packages (preamble ++ list)

end Packages

end BuildCards
