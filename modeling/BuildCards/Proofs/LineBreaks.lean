import BuildCards.Document
import BuildCards.Proofs.LineEndings

/-!
# Line feeds and carriage returns

Whether the lines of a text end in line feeds or also in carriage returns makes no difference to
what is read.  **Main theorem** (`Document.readings_withReturns`): with either ending a document is
read as the same cards, or refused for the same reason, and so is the text of a card, though the
card then keeps this text as it was given.

Only the text of a list of packages is not cut into lines; there a carriage return is one of the
blanks between the names (`Packages.words_withoutPreamble_withReturns`).
-/

namespace BuildCards

/-! ### Recipes -/

namespace Recipe

variable {text : Text}

theorem parse_withReturns (h : '\x0d' ∉ text) (kind : RecipeKind) (id : Text) :
    parse kind id (some (Text.withReturns text)) = (parse kind id (some text)).map fun r =>
      { r with source := r.source.map Text.withReturns } := by
  have hlines := Text.lines_withReturns h
  refine parse_congr Text.withReturns_eq_nil_iff ?_ ?_ kind id
  · rw [headerLine, hlines, headerLine]
  · rw [migratedLines, bodyLines, hlines, migratedLines, bodyLines]

/-- What is reported of a text depends only on its lines. -/
theorem log_congr {text' : Text} (hlines : Text.lines text' = Text.lines text) (kind : RecipeKind) :
    log kind (some text') = log kind (some text) := by
  have hnil : text' = [] ↔ text = [] := by
    rw [← Text.lines_eq_nil_iff, hlines, Text.lines_eq_nil_iff]
  cases text' with
  | nil => rw [hnil.1 rfl]
  | cons d text' =>
    cases text with
    | nil => exact absurd (hnil.2 rfl) (List.cons_ne_nil _ _)
    | cons c text =>
      have hheader : headerLine (d :: text') = headerLine (c :: text) := by
        rw [headerLine, hlines, headerLine]
      have hlog (header : AddHeader) :
          logText kind header (d :: text') = logText kind header (c :: text) := by
        rw [logText, hheader, migratedLines, bodyLines, hlines]
        rfl
      simp only [log, hheader, hlog]

end Recipe

/-! ### Lists of packages -/

namespace Packages

variable {text : Text}

/-- The names stand between the same blanks, and carriage returns. -/
theorem words_withoutPreamble_withReturns (h : '\x0d' ∉ text) :
    Text.words (withoutPreamble (Text.withReturns text)) = Text.words (withoutPreamble text) := by
  rw [← words_withoutPreamble_dropReturns, Text.dropReturns_withReturns h]

theorem parse_withReturns (h : '\x0d' ∉ text) (id : Text) :
    parse id (some (Text.withReturns text)) =
      { parse id (some text) with
        source := (parse id (some text)).source.map Text.withReturns } := by
  by_cases hempty : text = []
  · rw [hempty]
    rfl
  · have hne : Text.withReturns text ≠ [] := fun hnil => hempty (Text.withReturns_eq_nil_iff.1 hnil)
    have hwords := words_withoutPreamble_withReturns h
    rw [parse_some id hempty, parse_some id hne, normalize, hwords]
    rfl

end Packages

/-! ### Cards -/

namespace Card

/-- The card with something else made of the text that it was read from. -/
def mapSource (f : Text → Text) : Card → Card
  | recipe kind r => recipe kind { r with source := r.source.map f }
  | packages p => packages { p with source := p.source.map f }

variable {text : Text}

theorem parse_withReturns (h : '\x0d' ∉ text) (kind : Kind) (id : Text) :
    parse kind id (some (Text.withReturns text)) =
      (parse kind id (some text)).map (mapSource Text.withReturns) := by
  cases kind with
  | recipe kind =>
    simp only [parse, Recipe.parse_withReturns h]
    cases Recipe.parse kind id (some text) <;> rfl
  | packages =>
    simp only [parse, Packages.parse_withReturns h]
    rfl

theorem log_withReturns (h : '\x0d' ∉ text) (kind : Kind) :
    log kind (some (Text.withReturns text)) = log kind (some text) := by
  cases kind with
  | recipe kind => exact Recipe.log_congr (Text.lines_withReturns h) kind
  | packages => rfl

theorem read_withReturns (h : '\x0d' ∉ text) (kind : Kind) (ids : IdSupply) :
    read kind (some (Text.withReturns text)) ids =
      { read kind (some text) ids with
        result := (read kind (some text) ids).result.map (mapSource Text.withReturns) } := by
  simp only [read, log_withReturns h, parse_withReturns h]

end Card

/-! ### Documents -/

namespace Document

/-- **The endings of lines.**  A document without carriage returns is read alike with one before
every line feed, down to what is reported, and so is the text of a card.  The card then has the text
as it was given. -/
theorem readings_withReturns {text : Text} (h : '\x0d' ∉ text) (ids : IdSupply) :
    parse (Text.withReturns text) ids = parse text ids ∧
      ∀ kind, Card.read kind (some (Text.withReturns text)) ids =
        { Card.read kind (some text) ids with
          result :=
            (Card.read kind (some text) ids).result.map (Card.mapSource Text.withReturns) } := by
  refine ⟨?_, fun kind => Card.read_withReturns h kind ids⟩
  simp only [parse, Text.lines_withReturns h]

/-- A document with a header that ends in a backslash, and with packages on two lines. -/
def backslashText : Text :=
  "#Start: File\nADD ./a /x\\\nWORKDIR /\nRUN true\n#End\n\n".toList ++
    "#Start: Packages\ngit\n curl\n#End".toList

/-- The recipe in this document. -/
def backslashRecipe : Recipe where
  id := "id-1".toList
  name := "a".toList
  path := "x\\".toList
  commands := [⟨some .run, "true".toList, false⟩]
  hasBootstrap := false
  legacyAdd := true
  fromText := true
  source := some "ADD ./a /x\\\nWORKDIR /\nRUN true".toList

/-- The packages in this document. -/
def backslashPackages : Packages :=
  ⟨"id-2".toList, "git curl".toList, true, some "git\n curl".toList⟩

/-- No carriage return gets into the cards, unless the text of a card is given as it is. -/
theorem readings_withReturns_backslash :
    '\x0d' ∉ backslashText ∧
    (parse (Text.withReturns backslashText) .sequential).result =
      .ok [.recipe .file backslashRecipe, .packages backslashPackages] ∧
    '\x0d' ∉ "git\n curl".toList ∧
    (Card.read .packages (some "git\x0d\n curl".toList) (IdSupply.sequential.skip 1)).result =
      .ok (.packages { backslashPackages with source := some "git\x0d\n curl".toList }) := by
  have hreturn : '\x0d' ∉ backslashText := by decide
  have hreturn' : '\x0d' ∉ "git\n curl".toList := by decide
  have hparse : (parse backslashText .sequential).result =
      .ok [.recipe .file backslashRecipe, .packages backslashPackages] := by decide +kernel
  have hread :
      (Card.read .packages (some "git\n curl".toList) (IdSupply.sequential.skip 1)).result =
        .ok (.packages backslashPackages) := by decide +kernel
  have hdocument := (readings_withReturns hreturn .sequential).1
  have hcard := (readings_withReturns hreturn' (IdSupply.sequential.skip 1)).2 .packages
  have htext : Text.withReturns "git\n curl".toList = "git\x0d\n curl".toList := by decide
  rw [htext] at hcard
  refine ⟨hreturn, ?_, hreturn', ?_⟩
  · rw [hdocument, hparse]
  · rw [hcard, hread]
    rfl

end Document

end BuildCards
