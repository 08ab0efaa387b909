import BuildCards.Proofs.KeptCommands
import BuildCards.Proofs.LineEndings

/-!
# Blank lines

Below its first two lines a recipe can have blank lines, and they say nothing.  The place of the
bootstrap script is the exception: the script is looked for directly below the first two lines, and
two lines are taken for it before the blank ones are left out.

**Main theorem** (`Recipe.parse_insertLines`).  A text with blank lines put into it
(`Text.insertLines`) is read as the same recipe, if they do not come between the first two lines and
what is taken for the script, nor into it (`Recipe.KeepsScript`).  Below a blank line there is no
script: its lines are commands like all others.
-/

namespace BuildCards

/-! ### Lines put into a text -/

section

variable {α β : Type} {f : α → β} {n : Nat} {x : α} {more xs : List α}

/-- The list with `more` below its first `n` members, or at its end if there are not that many. -/
def insertAt (n : Nat) (more xs : List α) : List α := xs.take n ++ (more ++ xs.drop n)

theorem insertAt_zero : insertAt 0 more xs = more ++ xs := rfl

theorem insertAt_nil : insertAt n more [] = more := by simp [insertAt]

theorem insertAt_succ_cons : insertAt (n + 1) more (x :: xs) = x :: insertAt n more xs := rfl

theorem map_insertAt : (insertAt n more xs).map f = insertAt n (more.map f) (xs.map f) := by
  simp only [insertAt, List.map_append, List.map_take, List.map_drop]

theorem mem_insertAt : x ∈ insertAt n more xs ↔ x ∈ more ∨ x ∈ xs := by
  conv => rhs; rw [← List.take_append_drop n xs]
  simp only [insertAt, List.mem_append]
  exact or_left_comm

/-- Members that `p` does not hold of have no part in those that it holds of. -/
theorem filter_insertAt {p : α → Bool} (h : ∀ y ∈ more, ¬ p y) (n : Nat) (xs : List α) :
    (insertAt n more xs).filter p = xs.filter p :=
  calc (insertAt n more xs).filter p
      = (xs.take n).filter p ++ (more.filter p ++ (xs.drop n).filter p) := by
        rw [insertAt, List.filter_append, List.filter_append]
    _ = (xs.take n).filter p ++ (xs.drop n).filter p := by
        rw [List.filter_eq_nil_iff.2 h, List.nil_append]
    _ = xs.filter p := by rw [← List.filter_append, List.take_append_drop]

/-- A member at the front that `p` does not hold of can be left out. -/
theorem filter_drop_one {p : α → Bool} (h : ∀ y ∈ xs.head?, ¬ p y) :
    (xs.drop 1).filter p = xs.filter p := by
  cases xs with
  | nil => rfl
  | cons y xs => exact (List.filter_cons_of_neg (h y rfl)).symm

end

namespace Text

variable {t : Text} {more : List Text} {n : Nat}

/-- The text with these lines below its first `n`, or at its end. -/
def insertLines (n : Nat) (more : List Text) (t : Text) : Text :=
  joinLines (insertAt n more (t.splitOn '\n'))

theorem splitOn_insertLines (h : ∀ l ∈ more, '\n' ∉ l) :
    (insertLines n more t).splitOn '\n' = insertAt n more (t.splitOn '\n') := by
  obtain ⟨p, ps, hp⟩ := List.exists_cons_of_ne_nil (List.splitOn_ne_nil '\n' t)
  have hmem : p ∈ insertAt n more (t.splitOn '\n') := mem_insertAt.2 (.inr (by simp [hp]))
  rw [insertLines, splitOn_joinLines (List.ne_nil_of_mem hmem), flatMap_splitOn_of_notMem]
  intro l hl
  rcases mem_insertAt.1 hl with hl | hl
  · exact h l hl
  · exact newline_notMem_of_mem_splitOn hl

/-- A text of at least two lines has at least two pieces. -/
theorem exists_splitOn_of_two_le (h : 2 ≤ (lines t).length) :
    ∃ first second rest, t.splitOn '\n' = first :: second :: rest := by
  rw [lines] at h
  cases hp : t.splitOn '\n' with
  | nil => simp [hp, linesOfPieces] at h
  | cons first ps =>
    cases ps with
    | cons second rest => exact ⟨first, second, rest, rfl⟩
    | nil => by_cases hfirst : first = [] <;> simp [hp, linesOfPieces, hfirst] at h

/-- The first piece is blank if the first line is, or if there is none. -/
theorem isBlank_of_mem_head?_linesOfPieces {p : Text} {ps : List Text}
    (h : ∀ l ∈ (linesOfPieces (p :: ps)).head?, IsBlank l) : IsBlank p := by
  cases ps with
  | cons q ps => exact isBlank_dropReturn.1 (h _ rfl)
  | nil =>
    by_cases hp : p = []
    · simp [hp, IsBlank]
    · exact h p (by simp [linesOfPieces, hp])

end Text

/-! ### Blank lines and the script -/

namespace Bootstrap

variable {ls ws : List Text}

theorem holdsFormerName_of_isBlank {l : Text} (h : Text.IsBlank l) :
    holdsFormerName l = false := by
  have hblanks : Text.blanks.all (!sameLetter 't' ·) = true := by decide
  have hall : l.all (!sameLetter 't' ·) = true :=
    List.all_eq_true.2 fun c hc => List.all_eq_true.1 hblanks c (Text.isBlank_iff.1 (h c hc))
  have hnil := holdsFormerName_append_of_all (v := []) hall
  rwa [List.append_nil] at hnil

theorem map_migrate_of_isBlank (hws : ∀ l ∈ ws, Text.IsBlank l) : ws.map migrate = ws :=
  map_migrate_eq_self fun l hl => holdsFormerName_of_isBlank (hws l hl)

/-- A blank line is not the first one of the script. -/
theorem opens_append_of_isBlank (hws : ∀ l ∈ ws, Text.IsBlank l) (hne : ws ≠ []) (ls : List Text) :
    opens (ws ++ ls) = false := by
  refine Bool.eq_false_iff.2 fun hopens => ?_
  obtain ⟨line, rest, heq, hline⟩ := exists_cons_of_opens hopens
  obtain ⟨w, ws, rfl⟩ := List.exists_cons_of_ne_nil hne
  rw [List.cons_append, List.cons.injEq] at heq
  exact hline (heq.1 ▸ hws w List.mem_cons_self)

theorem opens_insertAt (hws : ∀ l ∈ ws, Text.IsBlank l) {m : Nat}
    (hm : opens ls = true → m ≠ 0) : opens (insertAt m ws ls) = opens ls := by
  by_cases hne : ws = []
  · simp [hne, insertAt]
  have hblank := opens_append_of_isBlank hws hne
  cases m with
  | zero =>
    rw [insertAt_zero, hblank]
    exact (Bool.eq_false_iff.2 fun h => hm h rfl).symm
  | succ m =>
    cases ls with
    | nil => simpa [insertAt_nil, opens] using hblank []
    | cons l ls => rfl

end Bootstrap

namespace Recipe

variable {kind : RecipeKind} {id text : Text} {r r' : Recipe} {commands : List Command}
  {ls ws more : List Text} {m n : Nat}

/-- The lines that hold commands are the same with blank lines between them, which do not come
before or into the first two if these are taken for the script. -/
theorem ownLines_insertAt (hws : ∀ l ∈ ws, Text.IsBlank l)
    (hm : Bootstrap.opens ls = true → m ≠ 0 ∧ (m = 1 → ∀ l ∈ (ls.drop 1).head?, Text.IsBlank l)) :
    ownLines (insertAt m ws ls) = ownLines ls := by
  have hfilter := filter_insertAt (p := fun line => ¬ Text.IsBlank line) (by simpa using hws)
  rw [ownLines, ownLines, Bootstrap.opens_insertAt hws fun h => (hm h).1]
  split
  next hopens =>
    obtain ⟨hzero, hone⟩ := hm hopens
    obtain ⟨line, rest, rfl, -⟩ := Bootstrap.exists_cons_of_opens hopens
    obtain ⟨m, rfl⟩ := Nat.exists_eq_succ_of_ne_zero hzero
    change ((insertAt m ws rest).drop 1).filter _ = (rest.drop 1).filter _
    cases m with
    | zero =>
      -- the second line is blank before and after
      have hrest : ∀ l ∈ rest.head?, Text.IsBlank l := hone rfl
      have hhead : ∀ l ∈ (ws ++ rest).head?, Text.IsBlank l := by
        cases ws with
        | nil => exact hrest
        | cons w ws => simpa using hws w List.mem_cons_self
      rw [insertAt_zero, filter_drop_one (by simpa using hhead),
        filter_drop_one (by simpa using hrest)]
      exact hfilter 0 rest
    | succ m =>
      cases rest with
      | nil =>
        have hhead : ∀ l ∈ ws.head?, Text.IsBlank l := fun l hl => hws l (List.mem_of_mem_head? hl)
        rw [insertAt_nil, filter_drop_one (by simpa using hhead)]
        exact List.filter_eq_nil_iff.2 (by simpa using hws)
      | cons l rest => exact hfilter m rest
  next => exact hfilter m ls

/-- Lines say the same with blank lines between them. -/
theorem holdsCommands_insertAt (hws : ∀ l ∈ ws, Text.IsBlank l)
    (hm : Bootstrap.opens (ls.map Bootstrap.migrate) = true →
      m ≠ 0 ∧ (m = 1 → ∀ l ∈ (ls.drop 1).head?, Text.IsBlank l)) :
    HoldsCommands (insertAt m ws ls) commands ↔ HoldsCommands ls commands := by
  rw [HoldsCommands, HoldsCommands, map_insertAt, Bootstrap.map_migrate_of_isBlank hws,
    ownLines_insertAt hws]
  intro hopens
  obtain ⟨hzero, hone⟩ := hm hopens
  refine ⟨hzero, fun hm l hl => ?_⟩
  rw [← List.map_drop, List.head?_map, Option.mem_def, Option.map_eq_some_iff] at hl
  obtain ⟨l, hl, rfl⟩ := hl
  rw [Bootstrap.migrate_eq_self (Bootstrap.holdsFormerName_of_isBlank (hone hm l hl))]
  exact hone hm l hl

/-- Below a blank line all lines hold commands. -/
theorem holdsCommands_append_of_isBlank (hws : ∀ l ∈ ws, Text.IsBlank l) (hne : ws ≠ []) :
    HoldsCommands (ws ++ ls) commands ↔ Represents commands (ls.map Bootstrap.migrate) := by
  have hfilter := filter_insertAt (p := fun line => ¬ Text.IsBlank line) (by simpa using hws) 0
    (ls.map Bootstrap.migrate)
  rw [insertAt_zero] at hfilter
  rw [HoldsCommands, List.map_append, Bootstrap.map_migrate_of_isBlank hws, ownLines,
    Bootstrap.opens_append_of_isBlank hws hne, if_neg Bool.false_ne_true, hfilter, Represents]

/-! ### Blank lines in a recipe -/

/-- Lines put below the first `n` come neither between the first two lines and what is taken for the
script, nor between its first line and a second one that says something. -/
def KeepsScript (text : Text) (n : Nat) : Prop :=
  Bootstrap.opens (migratedLines text) = true →
    n ≠ 2 ∧ (n = 3 → ∀ l ∈ (Text.lines text)[3]?, Text.IsBlank l)

section

variable {first second : Text} {ps : List Text}

theorem bodyLines_of_splitOn (hsplit : text.splitOn '\n' = first :: second :: ps) :
    bodyLines text = Text.linesOfPieces ps := by
  rw [bodyLines_eq, hsplit]
  rfl

theorem opens_migratedLines (hsplit : text.splitOn '\n' = first :: second :: ps) :
    Bootstrap.opens (migratedLines text) = Bootstrap.opens (ps.map Bootstrap.migrate) := by
  rw [migratedLines, bodyLines_of_splitOn hsplit, opens_linesOfPieces]

/-- What the pieces of a text read as. -/
theorem parse_eq_ok_iff_of_splitOn (hsplit : text.splitOn '\n' = first :: second :: ps) :
    parse kind id (some text) = .ok r ↔ ∃ header commands,
      AddHeader.parse (Text.dropReturn first) = .ok header ∧ HoldsCommands ps commands ∧
        r = ofParts kind id header commands text := by
  have hne : text ≠ [] := by
    rintro rfl
    simp at hsplit
  have hheader : headerLine text = Text.dropReturn first := by
    rw [headerLine, Text.lines, hsplit]
    rfl
  rw [parse_some hne, parseText_eq_ok_iff, hheader, bodyLines_of_splitOn hsplit]
  simp only [holdsCommands_linesOfPieces]

theorem splitOn_insertLines_add_two (hsplit : text.splitOn '\n' = first :: second :: ps)
    (hmore : ∀ l ∈ more, '\n' ∉ l) (m : Nat) :
    (Text.insertLines (m + 2) more text).splitOn '\n' = first :: second :: insertAt m more ps := by
  rw [Text.splitOn_insertLines hmore, hsplit, insertAt_succ_cons, insertAt_succ_cons]

/-- Below blank lines each line of a text has its command, also those taken for the script. -/
theorem holdsCommands_append_iff_represents (hsplit : text.splitOn '\n' = first :: second :: ps)
    (hopens : Bootstrap.opens (migratedLines text) = true) (hws : ∀ l ∈ ws, Text.IsBlank l)
    (hne : ws ≠ []) :
    HoldsCommands (ws ++ ps) commands ↔ Represents commands (migratedLines text) := by
  have hps : ps ≠ [] := by
    rintro rfl
    rw [opens_migratedLines hsplit] at hopens
    simp [Bootstrap.opens] at hopens
  have hreturns : ∀ l ∈ ws.map Text.dropReturn, Text.IsBlank l :=
    List.forall_mem_map.2 fun l hl => Text.isBlank_dropReturn.2 (hws l hl)
  rw [← holdsCommands_linesOfPieces, Text.linesOfPieces_append hps,
    holdsCommands_append_of_isBlank hreturns (by simpa using hne), migratedLines,
    bodyLines_of_splitOn hsplit]

/-- The place in the text is one in the lines below the first two. -/
theorem KeepsScript.pieces (h : KeepsScript text (m + 2))
    (hsplit : text.splitOn '\n' = first :: second :: ps)
    (hopens : Bootstrap.opens (ps.map Bootstrap.migrate) = true) :
    m ≠ 0 ∧ (m = 1 → ∀ l ∈ (ps.drop 1).head?, Text.IsBlank l) := by
  rw [← opens_migratedLines hsplit] at hopens
  obtain ⟨hzero, hone⟩ := h hopens
  refine ⟨by omega, fun hm l hl => ?_⟩
  obtain ⟨qs, hqs⟩ := List.head?_eq_some_iff.1 hl
  have hlines : (Text.lines text)[3]? = (Text.linesOfPieces (l :: qs)).head? := by
    rw [← List.head?_drop, Text.lines, Text.drop_linesOfPieces, hsplit, List.drop_succ_cons,
      List.drop_succ_cons, hqs]
  exact Text.isBlank_of_mem_head?_linesOfPieces fun l' hl' => hone (by omega) l' (hlines ▸ hl')

end

/-- **Blank lines in a recipe.**  A text is read as the same recipe with blank lines below its first
two lines or further down, unless they part or displace what is taken for the script.  If the script
is displaced, all lines of the text have to hold commands, and the recipe has them for its own. -/
theorem parse_insertLines (h : parse kind id (some text) = .ok r)
    (hlines : 2 ≤ (Text.lines text).length) (hmore : ∀ l ∈ more, Text.IsBlank l ∧ '\n' ∉ l) :
    (2 ≤ n → KeepsScript text n →
        ∃ r', parse kind id (some (Text.insertLines n more text)) = .ok r' ∧
          r' = { r with source := some (Text.insertLines n more text) } ∧
          ∀ taken, r'.render taken = r.render taken) ∧
      (Bootstrap.opens (migratedLines text) = true → more ≠ [] → ∀ r',
        parse kind id (some (Text.insertLines 2 more text)) = .ok r' ↔
          ∃ commands, Represents commands (migratedLines text) ∧ r' = { r with
            commands := commands
            hasBootstrap := false
            source := some (Text.insertLines 2 more text) }) := by
  obtain ⟨first, second, ps, hsplit⟩ := Text.exists_splitOn_of_two_le hlines
  obtain ⟨header, commands, hheader, hholds, rfl⟩ := (parse_eq_ok_iff_of_splitOn hsplit).1 h
  have hblank : ∀ l ∈ more, Text.IsBlank l := fun l hl => (hmore l hl).1
  have hsplit' (m : Nat) := splitOn_insertLines_add_two hsplit (fun l hl => (hmore l hl).2) m
  constructor
  · intro hn hkeeps
    obtain ⟨m, rfl⟩ : ∃ m, n = m + 2 := ⟨n - 2, by omega⟩
    have hm := hkeeps.pieces hsplit
    have hopens : Bootstrap.opens (migratedLines (Text.insertLines (m + 2) more text)) =
        Bootstrap.opens (migratedLines text) := by
      rw [opens_migratedLines (hsplit' m), opens_migratedLines hsplit, map_insertAt,
        Bootstrap.map_migrate_of_isBlank hblank, Bootstrap.opens_insertAt hblank fun h => (hm h).1]
    refine ⟨_, ?_, rfl, fun _ => rfl⟩
    refine (parse_eq_ok_iff_of_splitOn (hsplit' m)).2 ⟨header, commands, hheader, ?_, ?_⟩
    · exact (holdsCommands_insertAt hblank hm).2 hholds
    · simp only [ofParts, hopens]
  · intro hopens hne r'
    have hclosed : Bootstrap.opens (migratedLines (Text.insertLines 2 more text)) = false := by
      rw [opens_migratedLines (hsplit' 0), insertAt_zero, List.map_append,
        Bootstrap.map_migrate_of_isBlank hblank]
      exact Bootstrap.opens_append_of_isBlank hblank hne _
    have hrepresents (commands : List Command) :
        HoldsCommands (insertAt 0 more ps) commands ↔
          Represents commands (migratedLines text) := by
      rw [insertAt_zero]
      exact holdsCommands_append_iff_represents hsplit hopens hblank hne
    rw [parse_eq_ok_iff_of_splitOn (hsplit' 0)]
    simp only [hheader, hrepresents, ofParts, hclosed, Except.ok.injEq]
    constructor
    · rintro ⟨_, commands, rfl, hcommands, rfl⟩
      exact ⟨commands, hcommands, rfl⟩
    · rintro ⟨commands, hcommands, rfl⟩
      exact ⟨_, commands, rfl, hcommands, rfl⟩

/-- A text that begins with the bootstrap script. -/
def scriptText : Text :=
  Text.joinLines ["ADD [\"./a\", \"/x\"]".toList, "WORKDIR /x".toList,
    "ADD ./find_and_replace.sh find_and_replace.sh".toList,
    "RUN bash find_and_replace.sh".toList, "RUN make".toList]

/-- The recipe in this text. -/
def scripted : Recipe where
  id := []
  name := "a".toList
  path := "x".toList
  commands := [⟨some .run, "make".toList, false⟩]
  hasBootstrap := true
  legacyAdd := false
  fromText := true
  source := some scriptText

theorem parse_scriptText : parse .file [] (some scriptText) = .ok scripted := by decide +kernel

theorem two_le_lines_scriptText : 2 ≤ (Text.lines scriptText).length := by decide +kernel

/-- Blank lines below the script say nothing. -/
theorem parse_insertLines_scriptText : parse .file [] (some scriptText) = .ok scripted ∧
    Bootstrap.opens (migratedLines scriptText) = true ∧
    ∃ r', parse .file [] (some (Text.insertLines 4 ["  ".toList] scriptText)) = .ok r' ∧
      r'.commands = scripted.commands ∧ r'.hasBootstrap = true ∧
      ∀ taken, r'.render taken = scripted.render taken := by
  have hkeeps : KeepsScript scriptText 4 := fun _ => by decide
  have hblank : ∀ l ∈ ["  ".toList], Text.IsBlank l ∧ '\n' ∉ l := by decide
  obtain ⟨r', hread, rfl, hrender⟩ :=
    (parse_insertLines parse_scriptText two_le_lines_scriptText hblank).1 (by decide) hkeeps
  exact ⟨parse_scriptText, by decide +kernel, _, hread, rfl, rfl, hrender⟩

/-- Not every blank line below the first two says nothing: right above the script it takes the
script away. -/
theorem not_parse_insertLines_above_script :
    ¬ ∀ (kind : RecipeKind) (id text : Text) (r : Recipe) (n : Nat) (line : Text),
      parse kind id (some text) = .ok r → 2 ≤ (Text.lines text).length → 2 ≤ n →
        Text.IsBlank line → '\n' ∉ line →
        ∃ r', parse kind id (some (Text.insertLines n [line] text)) = .ok r' ∧
          r'.name = r.name ∧ r'.path = r.path ∧ r'.hasBootstrap = r.hasBootstrap ∧
          r'.commands = r.commands ∧ ∀ taken, r'.render taken = r.render taken := by
  intro hall
  obtain ⟨r', hread, -, -, hboot, -⟩ := hall .file [] scriptText scripted 2 []
    parse_scriptText two_le_lines_scriptText (by decide) (by decide) (by decide)
  have hdisplaced : (parse .file [] (some (Text.insertLines 2 [[]] scriptText))).map
      Recipe.hasBootstrap = .ok false := by decide +kernel
  rw [hread, Except.map, hboot] at hdisplaced
  exact absurd (Except.ok.inj hdisplaced) (by decide)

end Recipe

end BuildCards
