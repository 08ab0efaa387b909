import BuildCards.Proofs.RecipeLines

/-!
# No command is lost

Below the first two lines of a recipe, each line that is not blank holds a command.  The recipe
keeps them all, except for the two that begin it with the bootstrap script: of these it keeps a flag
from which they are written anew.

Whether a recipe begins with the script is seen from a text that the first of its lines holds
(`Bootstrap.opens`), and then two lines are left out, whatever they say.  Beside this stands what
the script is: a command that adds it and one that runs it (`Bootstrap.isScript`).  **Main theorem**
(`Recipe.keepsCommands_iff`): a recipe that was read keeps its commands exactly if lines that are
taken for the script are the script.
-/

namespace BuildCards

namespace Bootstrap

/-- The line holds a command that adds the script. -/
def addsScript (line : Text) : Bool :=
  match Command.parse line with
  | .ok c =>
    c.instruction == some .add && (Text.words c.body).head? == some ("./".toList ++ scriptName)
  | .error _ => false

/-- The line holds a command that runs something by the name of the script. -/
def runsScript (line : Text) : Bool :=
  match Command.parse line with
  | .ok c => c.instruction == some .run && Text.contains scriptName c.body
  | .error _ => false

/-- The lines begin with the bootstrap script: one adds it, and the next one runs it. -/
def isScript : List Text → Bool
  | add :: run :: _ => addsScript add && runsScript run
  | _ => false

/-- The line that is taken for the first of the script says something. -/
theorem exists_cons_of_opens {ls : List Text} (h : opens ls = true) :
    ∃ line rest, ls = line :: rest ∧ ¬ Text.IsBlank line := by
  cases ls with
  | nil => simp [opens] at h
  | cons line rest =>
    refine ⟨line, rest, rfl, fun hblank => ?_⟩
    have hinfix : "ADD ./".toList ++ scriptName <:+: line := Text.contains_iff.1 h
    have hmem : 'A' ∈ line := hinfix.mem (by decide)
    exact absurd (hblank 'A' hmem) (by decide)

end Bootstrap

namespace Recipe

variable {kind : RecipeKind} {id text : Text} {r : Recipe}

/-- The commands are those of the lines that are not blank, one of each line, in order. -/
def Represents (commands : List Command) (ls : List Text) : Prop :=
  List.Forall₂ (fun line c => Command.parse line = .ok c)
    (ls.filter fun line => ¬ Text.IsBlank line) commands

/-- No command of the text is lost: each line below the first two that is not blank has its command
in the recipe, unless it belongs to the bootstrap script at the beginning of these lines. -/
def KeepsCommands (text : Text) (r : Recipe) : Prop :=
  Represents r.commands (migratedLines text) ∨
    Bootstrap.isScript (migratedLines text) = true ∧
      Represents r.commands ((migratedLines text).drop 2)

/-- The commands of a recipe are those of the lines that are not taken for the script. -/
theorem represents_of_parse (h : parse kind id (some text) = .ok r) :
    Represents r.commands (if Bootstrap.opens (migratedLines text) then (migratedLines text).drop 2
      else migratedLines text) := by
  cases text with
  | nil =>
    rw [parse, Except.ok.injEq] at h
    rw [← h]
    exact .nil
  | cons c text =>
    obtain ⟨header, commands, -, hholds, rfl⟩ := parseText_eq_ok_iff.1 h
    exact hholds

/-- Lines from the third on do not have the commands of all lines, if the first one says
something. -/
theorem not_represents_of_drop {commands : List Command} {line : Text} {rest : List Text}
    (hline : ¬ Text.IsBlank line) (h : Represents commands (rest.drop 1)) :
    ¬ Represents commands (line :: rest) := by
  intro hall
  have hlen := h.length_eq
  have hlen' := hall.length_eq
  have hsub := ((List.drop_sublist 1 rest).filter fun line => ¬ Text.IsBlank line).length_le
  rw [List.filter_cons_of_pos (by simpa using hline), List.length_cons] at hlen'
  omega

/-- **When no command is lost.**  A recipe that was read keeps its commands exactly if its lines,
when they are taken for the bootstrap script, begin with the script. -/
theorem keepsCommands_iff (h : parse kind id (some text) = .ok r) :
    r.KeepsCommands text ↔ (Bootstrap.opens (migratedLines text) = true →
      Bootstrap.isScript (migratedLines text) = true) := by
  have hread := represents_of_parse h
  constructor
  · rintro (hall | ⟨hscript, -⟩) hopens
    · obtain ⟨line, rest, hlines, hline⟩ := Bootstrap.exists_cons_of_opens hopens
      rw [if_pos hopens, hlines] at hread
      rw [hlines] at hall
      exact absurd hall (not_represents_of_drop hline hread)
    · exact hscript
  · intro hscript
    by_cases hopens : Bootstrap.opens (migratedLines text) = true
    · rw [if_pos hopens] at hread
      exact .inr ⟨hscript hopens, hread⟩
    · rw [if_neg hopens] at hread
      exact .inl hread

/-- A text whose fourth line holds no command. -/
def unreadText : Text :=
  "ADD [\"./a\", \"/x\"]\nWORKDIR /x\nADD ./find_and_replace.sh x\nHello there\nRUN make".toList

/-- The recipe in this text. -/
def unread : Recipe where
  id := []
  name := "a".toList
  path := "x".toList
  commands := [⟨some .run, "make".toList, false⟩]
  hasBootstrap := true
  legacyAdd := false
  fromText := true
  source := some unreadText

/-- Behind a line that is taken for the script, a line without an instruction is accepted. -/
theorem not_keepsCommands_unread : parse .file [] (some unreadText) = .ok unread ∧
    ¬ unread.KeepsCommands unreadText ∧
    "Hello there".toList ∈ migratedLines unreadText ∧
    Command.parse "Hello there".toList = .error (.instruction "Hello there".toList) := by
  have hparse : parse .file [] (some unreadText) = .ok unread := by decide +kernel
  refine ⟨hparse, fun hkeeps => ?_, by decide +kernel, by decide⟩
  have hscript := (keepsCommands_iff hparse).1 hkeeps (by decide +kernel)
  exact absurd hscript (by decide +kernel)

end Recipe

end BuildCards
