import BuildCards.Command

/-!
# The bootstrap script

A recipe may begin by running a script that fills in placeholders.  In the text of a recipe the two
lines that do so stand right after the header (`Bootstrap.opens`); a recipe keeps a flag instead
and writes the two commands anew (`Bootstrap.commands`).

The script used to have another name.  `Bootstrap.migrate` replaces that name wherever it occurs in
a line, in any case of its letters.
-/

namespace BuildCards

namespace Bootstrap

/-! ### The commands -/

/-- The name of the script. -/
def scriptName : Text := "find_and_replace.sh".toList

/-- The commands that add the script and run it. -/
def commands : List Command :=
  [⟨some .add, "./".toList ++ scriptName ++ ' ' :: scriptName, false⟩,
    ⟨some .run, "bash ".toList ++ scriptName, false⟩]

/-- The lines begin with one that adds the script. -/
def opens : List Text → Bool
  | [] => false
  | line :: _ => Text.contains ("ADD ./".toList ++ scriptName) line

/-! ### The former name -/

/-- The name that the script used to have. -/
def formerName : Text := "translation_rules.sh".toList

/-- The two characters are one letter, whatever their case; the first is in lower case.  The long
`s` is a lower case of `S`. -/
def sameLetter (lower c : Char) : Bool := c.toLower == lower || (lower == 's' && c == 'ſ')

/-- The text begins with `word`, in any case of its letters. -/
def beginsWith (word t : Text) : Bool :=
  match word, t with
  | [], _ => true
  | _ :: _, [] => false
  | l :: word, c :: t => sameLetter l c && beginsWith word t

/-- Replaces the former name in what follows the next `skip` characters, which are left out. -/
def migrateAfter : Nat → Text → Text
  | _, [] => []
  | skip + 1, _ :: t => migrateAfter skip t
  | 0, c :: t =>
    if beginsWith formerName (c :: t) then scriptName ++ migrateAfter (formerName.length - 1) t
    else c :: migrateAfter 0 t

/-- The line with the name of the script for each of its former names. -/
def migrate (line : Text) : Text := migrateAfter 0 line

end Bootstrap

end BuildCards
