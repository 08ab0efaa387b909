import BuildCards.Proofs.HeaderForms
import BuildCards.Proofs.HeaderText
import BuildCards.Proofs.LineEndings

/-!
# Recipes with a header in the legacy form

A header in the legacy form says the same as an array with its two tokens, and both are written as
an array.  The recipes in the two texts then have the same name and path, and the lines below the
headers are read alike, or refused alike.

**Main theorem** (`Recipe.agree_parse_legacy_array`).  For all tokens that make a header in the
legacy form (`AddHeader.IsPair`) and all lines below it: the text with this header and the text with
the array are both refused with the same fault, or are read as recipes that differ only in their
identifiers, their texts and the form of their headers, and have the same block, with an array.
-/

namespace BuildCards

/-- Below a line that stays as it is, the other lines are found on their own. -/
theorem Text.lines_joinLines_cons {line : Text} (hne : line ≠ []) (hn : '\n' ∉ line)
    (hreturn : dropReturn line = line) (rest : List Text) :
    lines (joinLines (line :: rest)) = line :: lines (joinLines rest) := by
  have hpiece : line.splitOn '\n' = [line] := List.splitOn_eq_singleton hn
  by_cases hrest : rest = []
  · subst hrest
    have hjoin : joinLines [line] = line := by simp [joinLines]
    have hnone : lines (joinLines []) = [] := lines_nil
    rw [hjoin, hnone, lines, hpiece]
    simp [linesOfPieces, hne]
  · rw [joinLines_cons hrest, lines_append_newline, hpiece, List.map_singleton, hreturn]
    rfl

/-- A line without carriage returns has none to lose. -/
theorem Text.dropReturn_of_notMem {line : Text} (h : '\x0d' ∉ line) : dropReturn line = line := by
  rcases dropReturn_cases line with heq | heq
  · exact absurd (heq ▸ List.mem_append_right _ (List.mem_singleton_self _)) h
  · exact heq

/-! ### Headers of two tokens -/

namespace AddHeader

variable {first second : Text}

/-- The line with these two tokens. -/
def legacyText (first second : Text) : Text := "ADD ".toList ++ (first ++ ' ' :: second)

/-- Two tokens that make a header in the legacy form. -/
structure IsPair (first second : Text) : Prop where
  /-- The first is a token. -/
  token : IsToken first
  /-- So is the second. -/
  token' : IsToken second
  /-- The space between them has no backslash before it. -/
  parted : ¬ ['\\'] <:+ first
  /-- Both stand on one line. -/
  oneLine : '\n' ∉ first ++ second ∧ '\x0d' ∉ first ++ second
  /-- They are no JSON value. -/
  noValue : Json.parse? (first ++ ' ' :: second) = none

/-- No longer token has a space behind it, since the space between the two belongs to none. -/
theorem IsPair.isFirst (h : IsPair first second) :
    IsFirst first second (first ++ ' ' :: second) := by
  refine ⟨rfl, h.token, fun first' after' heq htoken => ?_⟩
  by_contra hlong
  have hlen : (first ++ [' ']).length ≤ first'.length := by
    rw [List.length_append, List.length_singleton]
    exact Nat.lt_of_not_le hlong
  have hstart : first ++ [' '] <+: first ++ ' ' :: second := ⟨second, by simp⟩
  obtain ⟨rest, hrest⟩ :=
    List.prefix_of_prefix_length_le hstart ⟨' ' :: after', heq.symm⟩ hlen
  exact h.parted (htoken first ' ' rest (by rw [← hrest]; simp) (by decide))

theorem IsPair.isSecond (h : IsPair first second) : IsSecond second second :=
  takePath_eq_iff.1 (takePath_eq_self_iff.2 h.token')

theorem legacyText_ne_nil (first second : Text) : legacyText first second ≠ [] :=
  List.cons_ne_nil _ _

theorem arrayText_ne_nil (first second : Text) : arrayText first second ≠ [] := List.cons_ne_nil _ _

theorem parse_legacyText (h : IsPair first second) :
    parse (legacyText first second) = .ok (ofStrings first second true) :=
  IsRead.parse_eq (.legacy rfl h.noValue h.isFirst h.isSecond (Text.dropStart_eq_iff.1 rfl)
    (Text.dropStart_eq_iff.1 rfl))

/-- The line has no ends of lines in it. -/
theorem IsPair.notMem_legacyText (h : IsPair first second) :
    '\n' ∉ legacyText first second ∧ '\x0d' ∉ legacyText first second := by
  obtain ⟨hn, hr⟩ := h.oneLine
  rw [List.mem_append, not_or] at hn hr
  simp [legacyText, hn, hr]

theorem notMem_arrayText (first second : Text) :
    '\n' ∉ arrayText first second ∧ '\x0d' ∉ arrayText first second :=
  ⟨fun h => absurd (space_le_of_mem_arrayText h) (by decide),
    fun h => absurd (space_le_of_mem_arrayText h) (by decide)⟩

end AddHeader

/-! ### Recipes below them -/

namespace Recipe

variable {kind : RecipeKind} {id text text' : Text} {r r' : Recipe}

/-- Below a header, the lines decide what a text is read as. -/
theorem parseText_of_header {header : AddHeader}
    (h : AddHeader.parse (headerLine text) = .ok header) :
    parseText kind id text = ((commandLines text).mapM Command.parse).map fun commands =>
      ofParts kind id header commands text := by
  rw [parseText, h]
  cases (commandLines text).mapM Command.parse <;> rfl

/-- The recipes differ at most in their identifiers, the texts that they were read from, and the
form of the headers there. -/
def SameButForm (r r' : Recipe) : Prop :=
  r' = { r with id := r'.id, source := r'.source, legacyAdd := r'.legacyAdd }

theorem SameButForm.render (h : r.SameButForm r') (kind : Kind) : r.render kind = r'.render kind := by
  rw [h]
  rfl

/-- Texts with the same lines below headers of the same two strings are refused with the same fault,
or are read as recipes that differ in no more than that. -/
theorem agree_parseText_ofStrings (kind : RecipeKind) (id id' : Text)
    {first second : Text} {legacy legacy' : Bool}
    (hheader : AddHeader.parse (headerLine text) = .ok (.ofStrings first second legacy))
    (hheader' : AddHeader.parse (headerLine text') = .ok (.ofStrings first second legacy'))
    (hlines : bodyLines text = bodyLines text') :
    Agree (· = ·) (fun r r' => r.SameButForm r' ∧ r.legacyAdd = legacy ∧ r'.legacyAdd = legacy')
      (parseText kind id text) (parseText kind id' text') := by
  have hmigrated : migratedLines text = migratedLines text' := by
    rw [migratedLines, migratedLines, hlines]
  have hcommands : commandLines text = commandLines text' := by
    rw [commandLines, commandLines, hmigrated]
  rw [parseText_of_header hheader, parseText_of_header hheader', hcommands]
  cases (commandLines text').mapM Command.parse with
  | error fault => exact rfl
  | ok commands =>
    refine ⟨?_, rfl, rfl⟩
    simp only [SameButForm, ofParts, hmigrated]
    rfl

/-- The recipe has a header in the legacy form where the other has an array; they are the same but
for that, and are written as the same block, with an array. -/
structure IsLegacyOf (kind : RecipeKind) (r r' : Recipe) : Prop where
  /-- They differ in nothing else that a text can say. -/
  same : r.SameButForm r'
  /-- The one has a header in the legacy form. -/
  legacy : r.legacyAdd = true
  /-- The other has an array. -/
  array : r'.legacyAdd = false
  /-- They have the same block. -/
  block : r.render kind = r'.render kind
  /-- The block has an array. -/
  written : ∃ line rest header, Text.lines (r.render kind) = Block.startLine kind :: line :: rest ∧
    AddHeader.parse line = .ok header ∧ header.legacy = false

/-- What the text of a line and the lines below it is read as. -/
theorem parts_joinLines {line : Text} (hne : line ≠ []) (h : '\n' ∉ line ∧ '\x0d' ∉ line)
    (rest : List Text) :
    Text.joinLines (line :: rest) ≠ [] ∧ headerLine (Text.joinLines (line :: rest)) = line ∧
      bodyLines (Text.joinLines (line :: rest)) = (Text.lines (Text.joinLines rest)).drop 1 := by
  have hlines := Text.lines_joinLines_cons hne h.1 (Text.dropReturn_of_notMem h.2) rest
  refine ⟨fun hnil => ?_, ?_, ?_⟩
  · rw [hnil, Text.lines_nil] at hlines
    simp at hlines
  · rw [headerLine, hlines]
    rfl
  · rw [bodyLines, hlines]
    rfl

/-- **Both forms say the same.**  A text with a header in the legacy form and the text with an array
of the two tokens are refused with the same fault, or are read as the same but for identifiers,
texts and forms. -/
theorem agree_parse_legacy_array {first second : Text} (h : AddHeader.IsPair first second)
    (kind : RecipeKind) (id id' : Text) (rest : List Text) :
    Agree (· = ·) (IsLegacyOf kind)
      (parse kind id (some (Text.joinLines (AddHeader.legacyText first second :: rest))))
      (parse kind id' (some (Text.joinLines (AddHeader.arrayText first second :: rest)))) := by
  obtain ⟨hne, hline, hbody⟩ :=
    parts_joinLines (AddHeader.legacyText_ne_nil first second) h.notMem_legacyText rest
  obtain ⟨hne', hline', hbody'⟩ := parts_joinLines (AddHeader.arrayText_ne_nil first second)
    (AddHeader.notMem_arrayText first second) rest
  rw [parse_some hne, parse_some hne']
  have hagree := agree_parseText_ofStrings kind id id'
    (hline.symm ▸ AddHeader.parse_legacyText h)
    (hline'.symm ▸ AddHeader.parse_arrayText first second) (hbody.trans hbody'.symm)
  rcases agree_iff.1 hagree with
    ⟨fault, fault', hread, hread', hfault⟩ | ⟨r, r', hread, hread', hsame, hlegacy, harray⟩
  · rw [hread, hread']
    exact hfault
  · rw [hread, hread']
    obtain ⟨rest, hrest⟩ := r.exists_lines_render kind
    exact ⟨hsame, hlegacy, harray, hsame.render kind, _, rest, _, hrest, AddHeader.parse_text _ _,
      rfl⟩

/-- Escaped spaces belong to the tokens, and backslashes are kept. -/
theorem agree_parse_legacy_array_escaped : ∃ r,
    AddHeader.IsPair "./my\\ dir".toList "/srv/my\\ dir".toList ∧
    parse .file [] (some "ADD ./my\\ dir /srv/my\\ dir\nWORKDIR /\nRUN make".toList) = .ok r ∧
    r.name = "my\\ dir".toList ∧ r.path = "srv/my\\ dir".toList ∧
    Agree (· = ·) (IsLegacyOf .file) (.ok r) (parse .file []
      (some "ADD [\"./my\\\\ dir\", \"/srv/my\\\\ dir\"]\nWORKDIR /\nRUN make".toList)) := by
  have hpair : AddHeader.IsPair "./my\\ dir".toList "/srv/my\\ dir".toList :=
    ⟨by decide, by decide, by decide, by decide, by rfl⟩
  have hagree := agree_parse_legacy_array hpair .file [] []
    ["WORKDIR /".toList, "RUN make".toList]
  exact ⟨_, hpair, rfl, rfl, rfl, hagree⟩

end Recipe

end BuildCards
