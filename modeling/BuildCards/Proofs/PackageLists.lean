import BuildCards.Proofs.RoundTrip

/-!
# The packages of a list

The text of a list is one command that installs packages.  It begins with a fixed text, the
preamble, which is left out when the list is read and put back when it is written.  Here it is said
which words of a text are packages.

The preamble is *found* (`Packages.FoundAt`) where the text has it as it is, with one space between
each two of its words: behind nothing but blanks, or with a space behind it.  **Main theorems**:

* `Packages.names_parse`: if the preamble stands alone where it is first found, the packages are the
  words before it and the words behind it; if it is found nowhere, they are all words of the text.
  Blanks around the preamble have no part in this, but blanks within it do: a command with a line
  break in it is no preamble (`Packages.not_names_parse_respaced`).
* `Packages.render_returns`: a list without packages is not written, and every other one is written
  as a block of three lines that reads as a list with the same packages and the same block.
-/

namespace BuildCards

namespace Packages

variable {id before behind text : Text}

/-! ### Where the preamble is found -/

theorem words_preamble : Text.words preamble = Text.words stem := by
  rw [preamble_eq, Text.words_append_cons (by decide), Text.words_nil, List.append_nil]

/-- The text has the preamble between these two parts: at its start, where blanks may precede it, or
with a space behind it. -/
structure FoundAt (before behind text : Text) : Prop where
  /-- The preamble stands there, character by character. -/
  parts : text = before ++ (stem ++ behind)
  /-- Only blanks precede it, or a space follows. -/
  place : Text.IsBlank before ∨ [' '] <+: behind

/-- The text has the preamble between these two parts and nowhere before. -/
structure FirstFoundAt (before behind text : Text) : Prop extends FoundAt before behind text where
  /-- It is found nowhere before. -/
  first : ∀ before' behind', FoundAt before' behind' text → before.length ≤ before'.length

/-- What stands between these two parts does not touch their words. -/
structure StandsAlone (before behind : Text) : Prop where
  /-- The part before it is empty or ends with a blank. -/
  before : Text.endsBlank before = true
  /-- The part behind it is empty or begins with one. -/
  behind : Text.opensBlank behind = true

theorem FoundAt.words (h : FoundAt before behind text) (halone : StandsAlone before behind) :
    Text.words text = Text.words before ++ (Text.words preamble ++ Text.words behind) := by
  rw [h.parts, Text.words_append_of_endsBlank halone.before,
    Text.words_append_of_opensBlank halone.behind, words_preamble]

/-- A text that begins with the preamble, but for blanks, has it there. -/
theorem exists_foundAt_of_isPrefix (h : stem <+: Text.trimStart text) :
    ∃ blanks behind, Text.IsBlank blanks ∧ FoundAt blanks behind text := by
  obtain ⟨behind, hstart⟩ := h
  have hblank : Text.IsBlank (text.takeWhile Text.isBlank) := fun c hc =>
    List.all_eq_true.1 List.all_takeWhile c hc
  refine ⟨text.takeWhile Text.isBlank, behind, hblank, ?_, .inl hblank⟩
  rw [hstart]
  exact List.takeWhile_append_dropWhile.symm

/-! ### What is left without it -/

/-- The packages are the words that are left without the preamble. -/
theorem names_parse_some (id text : Text) :
    (parse id (some text)).names = Text.words (withoutPreamble text) := by
  cases text with
  | nil => rfl
  | cons c text => exact words_normalize _

theorem withoutPreamble_of_not_isPrefix (h : ¬ stem <+: Text.trimStart text) :
    withoutPreamble text = Text.removeFirst preamble text := by
  have hnone : Text.afterStart? (Text.trimEnd preamble) (Text.trimStart text) = none :=
    Text.afterStart?_eq_none_iff.2 h
  rw [withoutPreamble, hnone]
  rfl

/-- Elsewhere the preamble is taken out with the space behind it. -/
theorem FirstFoundAt.withoutPreamble_eq (h : FirstFoundAt before behind text)
    (hbefore : ¬ Text.IsBlank before) :
    ∃ rest, behind = ' ' :: rest ∧ withoutPreamble text = before ++ rest := by
  obtain ⟨rest, hrest⟩ := h.place.resolve_left hbefore
  rw [List.singleton_append] at hrest
  refine ⟨rest, hrest.symm, ?_⟩
  have hlater : ¬ stem <+: Text.trimStart text := by
    intro hstem
    obtain ⟨blanks, behind', hblanks, hfound⟩ := exists_foundAt_of_isPrefix hstem
    -- all that precedes the first place would precede another one that only blanks precede
    have hstart : before <+: blanks :=
      List.prefix_of_prefix_length_le ⟨_, h.parts.symm⟩ ⟨_, hfound.parts.symm⟩
        (h.first _ _ hfound)
    exact hbefore fun c hc => hblanks c (hstart.subset hc)
  have htext : text = before ++ (preamble ++ rest) := by
    rw [h.parts, preamble_eq, ← hrest, List.append_assoc, List.singleton_append]
  have hfirst (u v : Text) (huv : before ++ (preamble ++ rest) = u ++ (preamble ++ v)) :
      before.length ≤ u.length := by
    refine h.first u (' ' :: v) ⟨?_, .inr ⟨v, rfl⟩⟩
    rw [htext, huv, preamble_eq, List.append_assoc, List.singleton_append]
  rw [withoutPreamble_of_not_isPrefix hlater, htext]
  exact Text.removeFirst_append (by decide) hfirst

theorem withoutPreamble_eq_self (h : ∀ before behind, ¬ FoundAt before behind text) :
    withoutPreamble text = text := by
  have hnowhere : ¬ stem <+: Text.trimStart text := by
    intro hstem
    obtain ⟨blanks, behind, -, hfound⟩ := exists_foundAt_of_isPrefix hstem
    exact h _ _ hfound
  rw [withoutPreamble_of_not_isPrefix hnowhere]
  refine Text.removeFirst_eq_self ?_
  rintro ⟨before, rest, htext⟩
  refine h before (' ' :: rest) ⟨?_, .inr ⟨rest, rfl⟩⟩
  rw [← htext, preamble_eq]
  simp

/-- **Which words are packages.**  Where the preamble is first found it is left out, if it stands
alone there, and all other words are packages.  If it is found nowhere, all words are. -/
theorem names_parse (id text : Text) :
    (∀ before behind, FirstFoundAt before behind text → StandsAlone before behind →
      Text.words text = Text.words before ++ (Text.words preamble ++ Text.words behind) ∧
        (parse id (some text)).names = Text.words before ++ Text.words behind) ∧
    ((∀ before behind, ¬ FoundAt before behind text) →
      (parse id (some text)).names = Text.words text) := by
  constructor
  · intro before behind h halone
    refine ⟨h.words halone, ?_⟩
    rw [names_parse_some]
    by_cases hbefore : Text.IsBlank before
    · rw [h.parts, withoutPreamble_of_isBlank hbefore, Text.words_of_isBlank hbefore,
        List.nil_append]
    · obtain ⟨rest, rfl, heq⟩ := h.withoutPreamble_eq hbefore
      rw [heq, Text.words_append_of_endsBlank halone.before,
        Text.words_cons_of_isBlank (by decide)]
  · intro h
    rw [names_parse_some, withoutPreamble_eq_self h]

/-- A list with the preamble on its second line. -/
def secondLineText : Text := "git\n".toList ++ (preamble ++ "curl\tvim".toList)

theorem firstFoundAt_secondLineText :
    FirstFoundAt "git\n".toList " curl\tvim".toList secondLineText := by
  refine ⟨⟨?_, .inr ⟨"curl\tvim".toList, rfl⟩⟩, fun before behind h => ?_⟩
  · rw [secondLineText, preamble_eq, List.append_assoc]
    rfl
  · have hletter : secondLineText[before.length]? = some 'R' := by
      rw [h.parts, stem_append, List.getElem?_append_right (Nat.le_refl _), Nat.sub_self]
      rfl
    have hnone : ∀ n < 4, secondLineText[n]? ≠ some 'R' := by decide +kernel
    exact Nat.le_of_not_lt fun hlt => hnone _ hlt hletter

/-- A list with a line break within the preamble. -/
def respacedText : Text :=
  "RUN apt-get update -y &&\n  apt-get upgrade -y && apt-get install -y git".toList

theorem not_foundAt_respacedText (before behind : Text) : ¬ FoundAt before behind respacedText := by
  intro h
  have hcontains : Text.contains stem respacedText = true :=
    Text.contains_iff.2 ⟨before, behind, by rw [h.parts, List.append_assoc]⟩
  exact absurd hcontains (by decide +kernel)

theorem names_parse_secondLine :
    (parse [] (some secondLineText)).names = ["git".toList, "curl".toList, "vim".toList] ∧
      (parse [] (some respacedText)).names = Text.words respacedText := by
  have halone : StandsAlone "git\n".toList " curl\tvim".toList := ⟨by decide, by decide⟩
  refine ⟨?_, (names_parse [] respacedText).2 not_foundAt_respacedText⟩
  rw [((names_parse [] secondLineText).1 _ _ firstFoundAt_secondLineText halone).2]
  decide

/-- The words of the preamble stand in a row between these, and nowhere before. -/
structure FirstRun (before behind words : List Text) : Prop where
  /-- They stand there. -/
  parts : words = before ++ (Text.words preamble ++ behind)
  /-- They stand nowhere before. -/
  first : ∀ before' behind', words = before' ++ (Text.words preamble ++ behind') →
    before.length ≤ before'.length

/-- **The preamble is a text, not a row of words.**  With a line break in it, its words are taken for
packages. -/
theorem not_names_parse_respaced : FirstRun [] ["git".toList] (Text.words respacedText) ∧
    (parse [] (some respacedText)).names ≠ [] ++ ["git".toList] :=
  ⟨⟨by decide +kernel, fun _ _ _ => Nat.zero_le _⟩, by decide +kernel⟩

/-! ### Lists in documents -/

/-- Behind the preamble all words are packages. -/
theorem names_parse_stem (id : Text) (hbefore : Text.IsBlank before) (behind : Text) :
    (parse id (some (before ++ (stem ++ behind)))).names = Text.words behind := by
  rw [names_parse_some, withoutPreamble_of_isBlank hbefore]

variable (p : Packages)

theorem normalize_eq_nil_iff : normalize p.packageList = [] ↔ p.names = [] := by
  constructor
  · intro h
    rw [names, ← words_normalize, h, Text.words_nil]
  · intro h
    rw [names] at h
    rw [normalize, h]
    rfl

theorem render_eq_nil_iff : p.render = [] ↔ p.names = [] := by
  rw [← p.normalize_eq_nil_iff]
  constructor
  · intro h
    by_contra hlist
    rw [p.render_of_ne_nil hlist] at h
    exact Block.wrap_ne_nil _ _ h
  · intro h
    simp [render, h]

/-- The block of a list has the packages on one line. -/
theorem splitOn_render (h : p.names ≠ []) : p.render.splitOn '\n' =
    ["#Start: Packages".toList, preamble ++ [' '].intercalate p.names, "#End".toList] := by
  have hlist : normalize p.packageList ≠ [] := fun hnil => h (p.normalize_eq_nil_iff.1 hnil)
  have hjoin : Text.joinLines [p.line] = p.line := by simp [Text.joinLines]
  rw [p.render_of_ne_nil hlist, hjoin, Block.splitOn_wrap,
    List.splitOn_eq_singleton p.newline_notMem_line]
  rfl

theorem names_reread (id : Text) : (p.reread id).names = p.names := words_normalize _

theorem render_reread (id : Text) : (p.reread id).render = p.render := by
  simp only [render, reread, normalize_normalize]

/-- The block of a list reads as the list in its settled form. -/
theorem result_parse_render (h : p.names ≠ []) (ids : IdSupply) :
    (Document.parse p.render ids).result = .ok [.packages (p.reread ids.next)] := by
  have hne : Card.render (.packages p) ≠ [] := fun hnil => h (p.render_eq_nil_iff.1 hnil)
  have hfaithful : Card.IsFaithful (.packages p) := trivial
  obtain ⟨b, hlayout, hparse⟩ := hfaithful.exists_block hne 1
  exact Document.parse_of_layout hlayout (.cons (hparse ids.next) .nil)

/-- **Lists come back.**  A list is not written exactly if it has no packages; else its block has
three lines and reads as one list, with the same packages and the same block.  Behind a preamble
that stands alone all words are packages. -/
theorem render_returns (ids : IdSupply) :
    (p.render = [] ↔ p.names = []) ∧
    (p.names ≠ [] →
      p.render.splitOn '\n' =
        ["#Start: Packages".toList, preamble ++ [' '].intercalate p.names, "#End".toList] ∧
      ∃ q, (Document.parse p.render ids).result = .ok [.packages q] ∧ q.names = p.names ∧
        q.render = p.render) ∧
    ∀ id before behind, Text.IsBlank before → Text.opensBlank behind = true →
      (parse id (some (before ++ (Text.trimEnd preamble ++ behind)))).names =
        Text.words behind := by
  refine ⟨p.render_eq_nil_iff, fun h => ⟨p.splitOn_render h, p.reread ids.next, ?_⟩, ?_⟩
  · exact ⟨p.result_parse_render h ids, p.names_reread _, p.render_reread _⟩
  · intro id before behind hbefore _
    exact names_parse_stem id hbefore behind

/-- A list with markers and a preamble among its packages. -/
def markers : Packages where
  id := []
  packageList := "\u2003#End\n\n#Start: File RUN apt-get\x0d".toList
  fromText := false
  source := none

theorem render_returns_markers :
    markers.names = ["#End".toList, "#Start:".toList, "File".toList, "RUN".toList,
      "apt-get".toList] ∧
    (∃ q, (Document.parse markers.render .sequential).result = .ok [.packages q] ∧
      q.names = markers.names ∧ q.render = markers.render) ∧
    (parse [] (some ("\n ".toList ++ (Text.trimEnd preamble ++ "\tgit\n".toList)))).names =
      ["git".toList] := by
  have hnames : markers.names = ["#End".toList, "#Start:".toList, "File".toList, "RUN".toList,
      "apt-get".toList] := by decide +kernel
  obtain ⟨-, hblock, hparse⟩ := markers.render_returns .sequential
  refine ⟨hnames, (hblock (by rw [hnames]; exact List.cons_ne_nil _ _)).2, ?_⟩
  rw [hparse [] _ _ (by decide +kernel) (by decide +kernel)]
  decide +kernel

end Packages

end BuildCards
