import BuildCards.Proofs.BlockLines
import BuildCards.Proofs.LineEndings

/-!
# Cards in and out of documents

A card can be read from its text alone, or from a document that has this text in a block.  The
document cuts the text into lines and puts them together again, so the carriage returns at their
ends are lost before the card is read.

Cards are *alike* (`Card.Alike`) if they agree in all but their identifiers, the texts that they
were read from, and blanks at the end of a path.  Then they have the same block
(`Card.Alike.render`).  **Main theorem** (`Document.agree_parse_wrap`): if no line of a text is a
marker, then the text and the document with its block are read as cards that are alike, or both are
refused for the same kind of reason.
-/

namespace BuildCards

/-! ### Cards that are alike -/

namespace Text

variable {t u : Text}

/-- Blanks at the end have no part in what a text holds between its blanks. -/
theorem trim_congr (h : trimEnd t = trimEnd u) : trim t = trim u := by
  rw [trim_eq_trimStart_trimEnd, h, ← trim_eq_trimStart_trimEnd]

theorem isBlank_congr (h : trimEnd t = trimEnd u) : IsBlank t ↔ IsBlank u := by
  rw [← trim_eq_nil_iff, trim_congr h, trim_eq_nil_iff]

end Text

namespace Recipe

variable {r r' : Recipe}

/-- Blanks at the end of a path are not written. -/
theorem Alike.renderedPath (h : r.Alike r') (kind : Kind) :
    r.renderedPath kind = r'.renderedPath kind := by
  have hname : r.renderedName = r'.renderedName := congrArg Text.trim h.name
  rw [Recipe.renderedPath, Recipe.renderedPath, hname, Kind.defaultPath, Kind.defaultPath]
  simp only [Text.isBlank_congr h.path]
  split
  · rfl
  · split
    · exact Text.trim_congr h.path
    · rfl

/-- The same is written of recipes that are alike. -/
theorem Alike.render (h : r.Alike r') (kind : RecipeKind) : r.render kind = r'.render kind := by
  have hname : r.renderedName = r'.renderedName := congrArg Text.trim h.name
  exact render_congr hname (h.renderedPath kind)
    (renderedLines_congr h.commands h.hasBootstrap hname)

end Recipe

/-- The lists hold the same; they can have other identifiers and be read from other texts. -/
structure Packages.Alike (p p' : Packages) : Prop where
  /-- They name the same packages. -/
  packageList : p.packageList = p'.packageList
  /-- Both were read from a text or none was. -/
  fromText : p.fromText = p'.fromText

namespace Card

/-- The cards are of one kind and say the same, up to blanks at the end of a path; they can have
other identifiers and be read from other texts. -/
inductive Alike : Card → Card → Prop
  | recipe {kind : RecipeKind} {r r' : Recipe} (h : r.Alike r') :
      Alike (recipe kind r) (recipe kind r')
  | packages {p p' : Packages} (h : p.Alike p') : Alike (packages p) (packages p')

variable {x y : Card}

/-- **Cards that are alike have the same block.** -/
theorem Alike.render (h : x.Alike y) : x.render = y.render := by
  cases h with
  | recipe h => exact h.render _
  | packages h =>
    change Packages.render _ = Packages.render _
    rw [Packages.render, Packages.render, h.packageList]

theorem kind_of_parse {kind : Kind} {id : Text} {source : Option Text}
    (h : parse kind id source = .ok x) : x.kind = kind := by
  rcases eq_of_parse h with ⟨k, r, rfl, -, rfl⟩ | ⟨rfl, rfl⟩
  · rfl
  · rfl

/-- Cards of no text are alike. -/
theorem agree_parse_none (kind : Kind) (id id' : Text) :
    Agree Fault.SameKind Alike (parse kind id none) (parse kind id' none) := by
  cases kind with
  | recipe kind => exact .recipe ⟨rfl, rfl, rfl, rfl, rfl, rfl⟩
  | packages => exact .packages ⟨rfl, rfl⟩

/-- A card is read alike without carriage returns at the ends of lines. -/
theorem agree_parse_dropReturns (kind : Kind) (id id' : Text) {text : Text}
    (h : ¬ Text.IsBlank text) :
    Agree Fault.SameKind Alike (parse kind id (some text))
      (parse kind id' (some (Text.dropReturns text))) := by
  have hne {t : Text} (ht : ¬ Text.IsBlank t) : t ≠ [] := by
    rintro rfl
    exact ht (by simp [Text.IsBlank])
  have h' : ¬ Text.IsBlank (Text.dropReturns text) := fun hb => h (Text.isBlank_dropReturns.1 hb)
  cases kind with
  | recipe kind =>
    rw [parse, parse, Recipe.parse_some (hne h), Recipe.parse_some (hne h')]
    rcases agree_iff.1 (Recipe.agree_parseText_dropReturns kind id id' text) with
      ⟨fault, fault', hread, hread', hsame⟩ | ⟨r, r', hread, hread', halike⟩
    · rw [hread, hread']
      exact hsame
    · rw [hread, hread']
      exact .recipe halike
  | packages =>
    obtain ⟨hlist, hfrom⟩ := Packages.packageList_parse_dropReturns id id' h
    exact .packages ⟨hlist, hfrom⟩

end Card

/-! ### The block of a text -/

namespace Block

variable {kind : Kind} {text : Text}

/-- The text of the block has lost its carriage returns. -/
theorem source_splitOn (start stop : Nat) :
    (⟨kind, start, (text.splitOn '\n').map Text.dropReturn, stop⟩ : Block).source =
      if Text.IsBlank text then none else some (Text.dropReturns text) := by
  simp only [source, Text.joinLines_map_dropReturn, Text.isBlank_dropReturns]

theorem plain_dropReturn {line : Text} (h : Plain line) : Plain (Text.dropReturn line) := by
  simpa only [Plain, Starts, Stops, Text.trim_dropReturn] using h

/-- The pieces of a text are no markers if its lines are none. -/
theorem plain_of_linesOfPieces {ls : List Text} (h : ∀ l ∈ Text.linesOfPieces ls, Plain l) :
    ∀ l ∈ ls.map Text.dropReturn, Plain l := by
  rcases List.eq_nil_or_concat' ls with rfl | ⟨init, last, rfl⟩
  · simp
  rw [List.map_append, List.map_singleton, List.forall_mem_append, List.forall_mem_singleton]
  by_cases hlast : last = []
  · rw [hlast, Text.linesOfPieces_concat_nil] at h
    exact ⟨h, hlast ▸ plain_of_isBlank (by decide)⟩
  · rw [Text.linesOfPieces_concat hlast, List.forall_mem_append, List.forall_mem_singleton] at h
    exact ⟨h.1, plain_dropReturn h.2⟩

/-- A text without markers is the one block of the document around it. -/
theorem layout_wrap (h : ∀ l ∈ Text.lines text, Plain l) :
    ∃ stop, Layout 1 (Text.lines (wrap kind text))
      [⟨kind, 1, (text.splitOn '\n').map Text.dropReturn, stop⟩] := by
  rw [lines_wrap]
  exact ⟨_, .block (starts_startLine kind) (trim_label kind) (plain_of_linesOfPieces h)
    stops_endMarker .nil⟩

end Block

namespace Document

/-- **Cards in and out of documents.**  If no line of a text is a marker, the text is read as a card
exactly if the document with its block is read, and otherwise the faults are of one kind.  The
document then holds one card, which is like the one of the text and has the same block.  A text of
blanks is read as none. -/
theorem agree_parse_wrap (kind : Kind) {text : Text} (h : ∀ l ∈ Text.lines text, Block.Plain l)
    (ids ids' : IdSupply) :
    Agree Fault.SameKind
      (fun card cards => ∃ card', cards = [card'] ∧ card'.kind = kind ∧ card.Alike card' ∧
        card.render = card'.render)
      (Card.read kind (if Text.IsBlank text then none else some text) ids).result
      (parse (Block.wrap kind text) ids').result := by
  obtain ⟨stop, hlayout⟩ := @Block.layout_wrap kind text h
  rw [parse_eq_readBlocks hlayout]
  have hagree : Agree Fault.SameKind Card.Alike
      (Card.parse kind ids.next (if Text.IsBlank text then none else some text))
      (Card.parse kind ids'.next
        (if Text.IsBlank text then none else some (Text.dropReturns text))) := by
    split
    · exact Card.agree_parse_none kind _ _
    next hb => exact Card.agree_parse_dropReturns kind _ _ hb
  simp only [readBlocks, readBlock, Card.read, Block.source_splitOn]
  rcases agree_iff.1 hagree with
    ⟨fault, fault', hread, hread', hsame⟩ | ⟨card, card', hread, hread', halike⟩
  · rw [hread, hread']
    exact hsame
  · rw [hread, hread']
    exact ⟨card', rfl, Card.kind_of_parse hread', halike, halike.render⟩

/-- A text whose header ends in a backslash and two carriage returns. -/
def returnsText : Text := "ADD ./a /x\\\x0d\x0d\nWORKDIR /\x0d\nRUN true".toList

/-- The recipe in this text, with a carriage return at the end of its path. -/
def returnsRecipe : Recipe where
  id := "id-1".toList
  name := "a".toList
  path := "x\\\x0d".toList
  commands := [⟨some .run, "true".toList, false⟩]
  hasBootstrap := false
  legacyAdd := true
  fromText := true
  source := some returnsText

/-- The recipe in the block of this text: both carriage returns are lost. -/
def blockRecipe : Recipe :=
  { returnsRecipe with
    path := "x\\".toList
    source := some (Text.dropReturns returnsText) }

/-- The path is not the same, but the block is. -/
theorem agree_parse_wrap_returns :
    (∀ l ∈ Text.lines returnsText, Block.Plain l) ∧
    (Card.read (.recipe .file) (some returnsText) .sequential).result =
      .ok (.recipe .file returnsRecipe) ∧
    (parse (Block.wrap (.recipe .file) returnsText) .sequential).result =
      .ok [.recipe .file blockRecipe] ∧
    Card.render (.recipe .file returnsRecipe) = Card.render (.recipe .file blockRecipe) := by
  have hlines : Text.lines returnsText =
      ["ADD ./a /x\\\x0d".toList, "WORKDIR /".toList, "RUN true".toList] := by decide +kernel
  have hplain : ∀ l ∈ Text.lines returnsText, Block.Plain l := by
    rw [hlines]
    simp only [List.forall_mem_cons]
    exact ⟨Block.plain_of_cons _ (by decide) (by decide),
      Block.plain_of_cons _ (by decide) (by decide),
      Block.plain_of_cons _ (by decide) (by decide), by simp⟩
  have hblank : ¬ Text.IsBlank returnsText := fun hb =>
    absurd (hb 'A' List.mem_cons_self) (by decide)
  have hread : (Card.read (.recipe .file) (some returnsText) .sequential).result =
      .ok (.recipe .file returnsRecipe) := by decide +kernel
  have hparse : (parse (Block.wrap (.recipe .file) returnsText) .sequential).result =
      .ok [.recipe .file blockRecipe] := by decide +kernel
  have hagree := agree_parse_wrap (.recipe .file) hplain .sequential .sequential
  rw [if_neg hblank, hread, hparse] at hagree
  obtain ⟨card, hcard, -, -, hrender⟩ := hagree
  obtain rfl : .recipe .file blockRecipe = card := List.head_eq_of_cons_eq hcard
  exact ⟨hplain, hread, hparse, hrender⟩

end Document

end BuildCards
