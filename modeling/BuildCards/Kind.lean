import BuildCards.Fault

/-!
# Kinds of cards

A card is either a *recipe*, which adds files and runs commands on them, or a list of packages to
install.  There are four kinds of recipes.  Every kind has a label, by which a document names it,
and says where the files of a recipe go when the recipe leaves that open (`Kind.defaultPath`).
-/

namespace BuildCards

/-- What a recipe adds. -/
inductive RecipeKind
  | file
  | repository
  | mainRepository
  | sshKey
  deriving DecidableEq

/-- What a card does. -/
inductive Kind
  | recipe (kind : RecipeKind)
  | packages
  deriving DecidableEq

instance : Coe RecipeKind Kind := ⟨.recipe⟩

namespace Kind

/-- All kinds, in their usual order. -/
def all : List Kind :=
  [.recipe .file, .recipe .repository, .recipe .mainRepository, .packages, .recipe .sshKey]

/-- The label of a kind. -/
def label : Kind → Text
  | .recipe .file => "File".toList
  | .recipe .repository => "Repository".toList
  | .recipe .mainRepository => "Main Repository".toList
  | .packages => "Packages".toList
  | .recipe .sshKey => "SSH Key".toList

/-- The kind with this label, which may stand between blanks. -/
def ofLabel (label : Text) : Except Fault Kind :=
  match all.find? fun kind => kind.label == Text.trim label with
  | some kind => .ok kind
  | none => .error (.unknownKind (Text.trim label))

theorem ofLabel_label (kind : Kind) : ofLabel kind.label = .ok kind := by
  rcases kind with (_ | _ | _ | _) | _ <;> rfl

theorem label_injective {k l : Kind} (h : k.label = l.label) : k = l := by
  have := congrArg ofLabel h
  rw [ofLabel_label, ofLabel_label] at this
  exact Except.ok.inj this

theorem mem_all (kind : Kind) : kind ∈ all := by
  rcases kind with (_ | _ | _ | _) | _ <;> decide

theorem ofLabel_eq_ok_iff {label : Text} {kind : Kind} :
    ofLabel label = .ok kind ↔ kind.label = Text.trim label := by
  constructor
  · intro h
    unfold ofLabel at h
    split at h
    next k hk =>
      have hl := List.find?_some hk
      rw [beq_iff_eq] at hl
      rw [Except.ok.injEq] at h
      exact h ▸ hl
    · simp at h
  · intro h
    unfold ofLabel
    split
    next k hk =>
      have hl := List.find?_some hk
      rw [beq_iff_eq] at hl
      rw [label_injective (hl.trans h.symm)]
    next hn =>
      have := List.find?_eq_none.1 hn kind (mem_all kind)
      exact absurd (beq_iff_eq.2 h) this

theorem ofLabel_eq_error {label : Text} (h : ∀ kind : Kind, kind.label ≠ Text.trim label) :
    ofLabel label = .error (.unknownKind (Text.trim label)) := by
  unfold ofLabel
  split
  next k hk =>
    have hl := List.find?_some hk
    rw [beq_iff_eq] at hl
    exact absurd hl (h k)
  · rfl

/-- Where every SSH key goes. -/
def sshKeyPath : Text := "root/.ssh/".toList

/-- The place of what a card adds: SSH keys have a fixed one, a path that says something is kept,
a file goes to the root, and all else gets a place of its own name. -/
def defaultPath (kind : Kind) (name path : Text) : Text :=
  if kind = .recipe .sshKey then sshKeyPath
  else if ¬ Text.IsBlank path then path
  else if kind = .recipe .file then []
  else name

end Kind

end BuildCards
