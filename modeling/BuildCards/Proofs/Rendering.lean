import BuildCards.Proofs.Grammar
import BuildCards.Proofs.RecipeLines

/-!
# The lines of what is written

The block of a recipe is written with its two values, the name and the path, in three places: in
the header, where they are quoted, behind `WORKDIR`, and in the command of an SSH key, where they
are not.  A value without quotes keeps to its line unless it holds a line feed.

* `Block.lines_wrap`: the lines of a block.
* `Recipe.newline_notMem_contentLines_iff`: of a recipe that was read, the one value that is written
  without quotes (`Recipe.looseValue`) decides whether every text of its block is one line.
* `Document.keepsToLines_iff`: hence the block has the lines that it is meant to have exactly if
  that value holds no line feed or is not written at all.
-/

namespace BuildCards

/-! ### Blocks -/

namespace Block

/-- The line of a start marker. -/
def startLine (kind : Kind) : Text := startMarker ++ ' ' :: kind.label

variable (kind : Kind)

theorem trim_startLine : Text.trim (startLine kind) = startLine kind := by
  rcases kind with (_ | _ | _ | _) | _ <;> rfl

theorem newline_notMem_startLine : '\n' ∉ startLine kind := by
  rcases kind with (_ | _ | _ | _) | _ <;> decide

theorem dropReturn_startLine : Text.dropReturn (startLine kind) = startLine kind :=
  Text.dropReturn_eq_self (Text.trimEnd_of_trim (trim_startLine kind))

theorem starts_startLine : Starts (startLine kind) (' ' :: kind.label) := trim_startLine kind

theorem trim_label : kind.label = Text.trim (' ' :: kind.label) := by
  rcases kind with (_ | _ | _ | _) | _ <;> rfl

theorem stops_endMarker : Stops endMarker := rfl

/-- A trimmed line that does not begin as markers do is none. -/
theorem plain_of_head {line : Text} (ht : Text.trim line = line) (h : line.head? ≠ some '#') :
    Plain line := by
  constructor
  · intro label hs
    have hline : line = '#' :: ("Start:".toList ++ label) := ht.symm.trans hs
    exact h (by rw [hline]; rfl)
  · intro hs
    have hline : line = '#' :: "End".toList := ht.symm.trans hs
    exact h (by rw [hline]; rfl)

/-- Nor is a line that begins otherwise than markers and blanks do. -/
theorem plain_of_cons {c : Char} (t : Text) (hb : Text.isBlank c = false) (hc : c ≠ '#') :
    Plain (c :: t) := by
  have htrim : Text.trim (c :: t) <+: c :: t := by
    rw [Text.trim, Text.trimStart_cons hb]
    exact Text.trimEnd_isPrefix _
  constructor
  · intro label hs
    rw [hs] at htrim
    exact hc (List.cons_prefix_cons.1 htrim).1.symm
  · intro hs
    rw [hs] at htrim
    exact hc (List.cons_prefix_cons.1 htrim).1.symm

theorem wrap_eq (content : Text) :
    wrap kind content = startLine kind ++ '\n' :: (content ++ '\n' :: endMarker) := by
  simp [wrap, startLine]

theorem wrap_ne_nil (content : Text) : wrap kind content ≠ [] := by
  rw [wrap_eq]
  exact List.append_ne_nil_of_right_ne_nil _ (List.cons_ne_nil _ _)

/-- The pieces of a block between line feeds. -/
theorem splitOn_wrap (content : Text) : (wrap kind content).splitOn '\n' =
    startLine kind :: (content.splitOn '\n' ++ [endMarker]) := by
  have hend : endMarker.splitOn '\n' = [endMarker] := List.splitOn_eq_singleton (by decide)
  rw [wrap_eq, Text.splitOn_newline_append, Text.splitOn_newline_append, hend,
    List.splitOn_eq_singleton (newline_notMem_startLine kind)]
  rfl

/-- The lines of a block: nothing but the ends of lines is lost. -/
theorem lines_wrap (content : Text) : Text.lines (wrap kind content) =
    startLine kind :: ((content.splitOn '\n').map Text.dropReturn ++ [endMarker]) := by
  have hend : endMarker ≠ [] := by decide
  rw [Text.lines, splitOn_wrap, ← List.cons_append, Text.linesOfPieces_concat hend, List.map_cons,
    dropReturn_startLine]
  rfl

variable {kind} {ls : List Text}

/-- Lines that need no trimming at the end are the lines of the block that they are put into. -/
theorem lines_wrap_joinLines (hne : ls ≠ []) (hn : ∀ l ∈ ls, '\n' ∉ l)
    (ht : ∀ l ∈ ls, Text.trimEnd l = l) :
    Text.lines (wrap kind (Text.joinLines ls)) = startLine kind :: (ls ++ [endMarker]) := by
  rw [lines_wrap, Text.splitOn_joinLines hne, Text.flatMap_splitOn_of_notMem hn,
    Text.map_dropReturn_eq_self ht]

end Block

/-! ### Commands that say something -/

namespace Command

/-- The lines of the commands that say something. -/
def texts (commands : List Command) : List Text := (commands.map text).filter (!·.isEmpty)

variable {cs ds : List Command} {l : Text}

theorem texts_append : texts (cs ++ ds) = texts cs ++ texts ds := by simp [texts]

theorem texts_cons {c : Command} (h : c.text ≠ []) : texts (c :: cs) = c.text :: texts cs := by
  simp [texts, h]

theorem mem_texts : l ∈ texts cs ↔ l ≠ [] ∧ ∃ c ∈ cs, c.text = l := by
  simp [texts, and_comm]

theorem texts_map_clone (h : ∀ c ∈ cs, c.IsNormal) : texts (cs.map clone) = texts cs := by
  have hmap : (cs.map clone).map text = cs.map text := by
    rw [List.map_map]
    exact List.map_congr_left fun c hc => (h c hc).text_clone
  rw [texts, hmap, texts]

end Command

theorem Bootstrap.isNormal_of_mem_commands {c : Command} (h : c ∈ commands) : c.IsNormal := by
  rcases List.mem_cons.1 h with rfl | h
  · exact ⟨by decide, fun _ => by decide⟩
  · rw [List.mem_singleton] at h
    subst h
    exact ⟨by decide, fun _ => by decide⟩

namespace Card

/-- The commands of a recipe were read from lines; of lists of packages nothing is said. -/
def IsRead : Card → Prop
  | recipe _ r => r.IsRead
  | packages _ => True

theorem isRead_of_parse {kind : Kind} {id : Text} {source : Option Text} {card : Card}
    (h : parse kind id source = .ok card) : card.IsRead := by
  rcases eq_of_parse h with ⟨k, r, rfl, hr, rfl⟩ | ⟨rfl, rfl⟩
  · exact Recipe.isRead_of_parse hr
  · exact trivial

end Card

namespace Recipe

variable (kind : RecipeKind) (r : Recipe)

/-- The commands of its own that run when the recipe is taken as one of the given kind. -/
def ownCommands : List Command :=
  if kind = .sshKey then [sshKeyCommand r.name] else r.commands.map Command.clone

theorem renderedLines_eq : r.renderedLines kind =
    (if r.hasBootstrap then Command.texts Bootstrap.commands else []) ++
      Command.texts (r.ownCommands kind) := by
  have htexts : r.renderedLines kind = Command.texts (r.effectiveCommands kind) := rfl
  have hown : (if (kind : Kind) = .recipe .sshKey then [sshKeyCommand r.name]
      else r.commands.map Command.clone) = r.ownCommands kind := by
    cases kind <;> rfl
  rw [htexts, effectiveCommands, hown, Command.texts_append]
  cases r.hasBootstrap <;> rfl

theorem mem_renderedLines {kind : Kind} {l : Text} :
    l ∈ r.renderedLines kind ↔ l ≠ [] ∧ ∃ c ∈ r.effectiveCommands kind, c.text = l :=
  Command.mem_texts

variable {kind r}

/-- A line is one of the bootstrap script or of a command of its own. -/
theorem mem_texts_of_mem_renderedLines {l : Text} (h : l ∈ r.renderedLines kind) :
    l ∈ Command.texts Bootstrap.commands ∨ l ∈ Command.texts (r.ownCommands kind) := by
  rw [renderedLines_eq, List.mem_append] at h
  refine h.imp_left fun hboot => ?_
  split at hboot
  · exact hboot
  · simp at hboot

theorem trim_of_mem_renderedLines {l : Text} (h : l ∈ r.renderedLines kind) : Text.trim l = l := by
  obtain ⟨-, c, -, rfl⟩ := r.mem_renderedLines.1 h
  exact c.trim_text

variable (kind r)

/-! ### The lines of a block -/

/-- What stands before the path in the line that names the working directory. -/
def directoryMark : Text := "WORKDIR /".toList

/-- The line that names the working directory. -/
def directoryLine (path : Text) : Text := directoryMark ++ path

/-- The texts that stand one below the other in the block of a recipe. -/
def contentLines : List Text :=
  AddHeader.text r.renderedName (r.renderedPath kind) ::
    if r.renderedLines kind = [] then []
    else directoryLine (r.renderedPath kind) :: r.renderedLines kind

theorem contentLines_ne_nil : r.contentLines kind ≠ [] := List.cons_ne_nil _ _

theorem content_eq : r.content kind = Text.joinLines (r.contentLines kind) := by
  by_cases h : r.renderedLines kind = []
  · simp [content, contentLines, h, Text.joinLines]
  · have hmark : "\nWORKDIR /".toList = '\n' :: directoryMark := by decide
    have hlines : (r.renderedLines kind).isEmpty = false := by simpa using h
    have hjoin : Text.joinLines (r.contentLines kind) =
        AddHeader.text r.renderedName (r.renderedPath kind) ++
          '\n' :: (directoryLine (r.renderedPath kind) ++
            '\n' :: Text.joinLines (r.renderedLines kind)) := by
      rw [contentLines, if_neg h, Text.joinLines_cons (List.cons_ne_nil _ _),
        Text.joinLines_cons h]
    rw [hjoin, content, hlines, hmark]
    simp [directoryLine]

/-- A text that begins with a header is not blank. -/
theorem not_isBlank_joinLines (name path : Text) (rest : List Text) :
    ¬ Text.IsBlank (Text.joinLines (AddHeader.text name path :: rest)) := by
  intro hb
  have hmem : 'A' ∈ Text.joinLines (AddHeader.text name path :: rest) := by
    have hheader : 'A' ∈ AddHeader.text name path := List.mem_cons_self
    cases rest with
    | nil => simpa [Text.joinLines] using hheader
    | cons l rest =>
      rw [Text.joinLines_cons (List.cons_ne_nil _ _)]
      exact List.mem_append_left _ hheader
  exact absurd (hb 'A' hmem) (by decide)

/-- A block that begins with a header has a text. -/
theorem source_header (kind : Kind) (n m : Nat) (name path : Text) (body : List Text) :
    Block.source ⟨kind, n, AddHeader.text name path :: body, m⟩ =
      some (Text.joinLines (AddHeader.text name path :: body)) :=
  if_neg (not_isBlank_joinLines name path body)

/-- The lines of the block of a recipe. -/
theorem lines_render : Text.lines (r.render kind) =
    Block.startLine kind ::
      (((r.contentLines kind).flatMap (·.splitOn '\n')).map Text.dropReturn ++
        [Block.endMarker]) := by
  rw [render, content_eq, Block.lines_wrap, Text.splitOn_joinLines (r.contentLines_ne_nil kind)]

theorem trimEnd_directoryLine {path : Text} (h : Text.trim path = path) :
    Text.trimEnd (directoryLine path) = directoryLine path := by
  by_cases hpath : Text.IsBlank path
  · have hnil : path = [] := h ▸ Text.trim_eq_nil_iff.2 hpath
    rw [hnil]
    decide
  · rw [directoryLine, Text.trimEnd_append hpath, Text.trimEnd_of_trim h]

theorem trimEnd_of_mem_contentLines {l : Text} (h : l ∈ r.contentLines kind) :
    Text.trimEnd l = l := by
  rw [contentLines] at h
  rcases List.mem_cons.1 h with rfl | h
  · exact Text.trimEnd_of_trim (AddHeader.trim_text _ _)
  · split at h
    · simp at h
    · rcases List.mem_cons.1 h with rfl | h
      · exact trimEnd_directoryLine Text.trim_trim
      · exact Text.trimEnd_of_trim (trim_of_mem_renderedLines h)

/-- Texts without line feeds are the lines of the block. -/
theorem lines_render_of_notMem (h : ∀ l ∈ r.contentLines kind, '\n' ∉ l) :
    Text.lines (r.render kind) =
      Block.startLine kind :: (r.contentLines kind ++ [Block.endMarker]) := by
  rw [render, content_eq]
  exact Block.lines_wrap_joinLines (r.contentLines_ne_nil kind) h fun l hl =>
    r.trimEnd_of_mem_contentLines kind hl

/-! ### The command of an SSH key -/

/-- What stands before the name of the key in the command of an SSH key. -/
def keyMark : Text := "chmod 0400 ".toList

/-- What stands between the two places of the name. -/
def keyMiddle : Text := " && echo \"IdentityFile /".toList ++ Kind.sshKeyPath

/-- What stands after the name. -/
def keyEnd : Text :=
  "\" >> /etc/ssh/ssh_config && ssh-keyscan -H github.com > /etc/ssh/ssh_known_hosts".toList

variable (name : Text)

theorem body_sshKeyCommand : (sshKeyCommand name).body =
    keyMark ++ (Text.trim name ++ (keyMiddle ++ (Text.trim name ++ keyEnd))) := by
  have hbody : (sshKeyCommand name).body =
      keyMark ++ Text.trim name ++ " && echo \"IdentityFile /".toList ++ Kind.sshKeyPath ++
        Text.trim name ++ keyEnd := rfl
  have hassoc (a k b p e : Text) :
      a ++ k ++ b ++ p ++ k ++ e = a ++ (k ++ ((b ++ p) ++ (k ++ e))) := by simp
  exact hbody.trans (hassoc _ _ _ _ _)

/-- The command holds the name twice, and nothing else that could be a line feed. -/
theorem newline_notMem_body_sshKeyCommand :
    '\n' ∉ (sshKeyCommand name).body ↔ '\n' ∉ Text.trim name := by
  have hmark : '\n' ∉ keyMark := by decide
  have hmiddle : '\n' ∉ keyMiddle := by decide
  have hend : '\n' ∉ keyEnd := by decide
  rw [body_sshKeyCommand]
  simp only [List.mem_append, hmark, hmiddle, hend, or_false, false_or, or_self]

theorem isNormal_sshKeyCommand : (sshKeyCommand name).IsNormal := by
  have hend : ¬ Text.IsBlank keyEnd := by decide
  have htrimEnd : Text.trimEnd (Text.trim name ++ (keyMiddle ++ (Text.trim name ++ keyEnd))) =
      Text.trim name ++ (keyMiddle ++ (Text.trim name ++ keyEnd)) := by
    have happ (u : Text) : Text.trimEnd (u ++ keyEnd) = u ++ keyEnd :=
      (Text.trimEnd_append hend).trans (congrArg (u ++ ·) (by decide))
    simpa using happ (Text.trim name ++ (keyMiddle ++ Text.trim name))
  have hmiddle : keyMiddle ≠ [] := by decide
  have hne : Text.trim name ++ (keyMiddle ++ (Text.trim name ++ keyEnd)) ≠ [] := by
    simp [hmiddle]
  refine ⟨?_, fun _ => ?_⟩
  · rw [body_sshKeyCommand]
    exact Text.trim_append_of_trimmed (by decide) htrimEnd (by decide) hne
  · -- the end of the command is longer than a marker and has none
    have hsuffix : keyEnd <:+ (sshKeyCommand name).body := by
      rw [body_sshKeyCommand]
      exact ⟨keyMark ++ (Text.trim name ++ (keyMiddle ++ Text.trim name)), by simp⟩
    rw [Command.beforeMarker?_eq_none_iff]
    refine ⟨fun h => ?_, fun h => ?_⟩
    · exact absurd (List.suffix_of_suffix_length_le h hsuffix (by decide)) (by decide)
    · exact absurd (List.suffix_of_suffix_length_le h hsuffix (by decide)) (by decide)

theorem text_sshKeyCommand_ne_nil : (sshKeyCommand name).text ≠ [] := by
  rw [Ne, Command.text_eq_nil_iff, body_sshKeyCommand, Text.isBlank_append, not_or]
  exact ⟨by simp [sshKeyCommand], fun h => absurd h.1 (by decide)⟩

theorem newline_notMem_text_sshKeyCommand :
    '\n' ∉ (sshKeyCommand name).text ↔ '\n' ∉ Text.trim name := by
  rw [← newline_notMem_body_sshKeyCommand]
  refine ⟨fun h hm => h ?_, Command.newline_notMem_text⟩
  have hparse := (isNormal_sshKeyCommand name).parse_text (text_sshKeyCommand_ne_nil name)
  exact (Command.body_infix_of_parse hparse).mem hm

theorem texts_ownCommands_sshKey :
    Command.texts (r.ownCommands .sshKey) = [(sshKeyCommand r.name).text] := by
  simp [Command.texts, ownCommands, text_sshKeyCommand_ne_nil]

/-! ### No line of a recipe is a marker -/

variable {kind r}

theorem plain_header (name path : Text) : Block.Plain (AddHeader.text name path) :=
  Block.plain_of_head (AddHeader.trim_text name path) (by
    have hopening : AddHeader.opening = 'A' :: "DD ".toList := rfl
    simp [AddHeader.text, hopening])

theorem plain_directoryLine {path : Text} (h : Text.trim path = path) :
    Block.Plain (directoryLine path) := by
  have htrim : Text.trim (directoryLine path) = directoryLine path := by
    rw [Text.trim_eq_trimStart_trimEnd, trimEnd_directoryLine h]
    exact Text.trimStart_cons (by decide)
  have hcons : directoryLine path = 'W' :: ("ORKDIR /".toList ++ path) := rfl
  refine Block.plain_of_head htrim ?_
  rw [hcons, List.head?_cons]
  decide

theorem plain_of_mem_renderedLines {l : Text} (h : l ∈ r.renderedLines kind) : Block.Plain l := by
  obtain ⟨-, c, -, rfl⟩ := r.mem_renderedLines.1 h
  exact Block.plain_of_head c.trim_text c.head?_text

theorem plain_of_mem_contentLines {l : Text} (h : l ∈ r.contentLines kind) : Block.Plain l := by
  rw [contentLines] at h
  rcases List.mem_cons.1 h with rfl | h
  · exact plain_header _ _
  · split at h
    · simp at h
    · rcases List.mem_cons.1 h with rfl | h
      · exact plain_directoryLine Text.trim_trim
      · exact plain_of_mem_renderedLines h

variable (kind r)

/-! ### Where line feeds can come from -/

theorem newline_notMem_directoryLine_iff {path : Text} :
    '\n' ∉ directoryLine path ↔ '\n' ∉ path := by
  have hmark : '\n' ∉ directoryMark := by decide
  simp [directoryLine, hmark]

theorem newline_notMem_of_mem_texts_bootstrap {l : Text}
    (h : l ∈ Command.texts Bootstrap.commands) : '\n' ∉ l := by
  revert l
  decide

/-- The value of a recipe that is written without quotes. -/
def looseValue : Text := if kind = .sshKey then r.renderedName else r.renderedPath kind

variable {kind r}

/-- Commands that were read have no line feed to write. -/
theorem IsRead.newline_notMem_texts (h : r.IsRead) {l : Text}
    (hl : l ∈ Command.texts (r.commands.map Command.clone)) : '\n' ∉ l := by
  obtain ⟨-, c, hc, rfl⟩ := Command.mem_texts.1 hl
  obtain ⟨d, hd, rfl⟩ := List.mem_map.1 hc
  obtain ⟨line, hline, hparse⟩ := h d hd
  have hbody : '\n' ∉ d.body := fun hm =>
    Bootstrap.newline_notMem_migrate hline ((Command.body_infix_of_parse hparse).mem hm)
  exact Command.newline_notMem_text (Command.newline_notMem_clone hbody)

theorem renderedPath_sshKey : r.renderedPath (.recipe .sshKey) = Kind.sshKeyPath := by
  simp only [renderedPath, Kind.defaultPath, ↓reduceIte]
  decide

/-- Recipes other than SSH keys write what was read from lines. -/
theorem IsRead.newline_notMem_renderedLines (h : r.IsRead) (hkind : kind ≠ .sshKey) {l : Text}
    (hl : l ∈ r.renderedLines kind) : '\n' ∉ l := by
  rcases mem_texts_of_mem_renderedLines hl with hl | hl
  · exact newline_notMem_of_mem_texts_bootstrap hl
  · rw [ownCommands, if_neg hkind] at hl
    exact h.newline_notMem_texts hl

/-- Of a recipe that was read, the value without quotes decides whether every text of its block is
one line; a recipe without commands does not write it. -/
theorem IsRead.newline_notMem_contentLines_iff (h : r.IsRead) :
    (∀ l ∈ r.contentLines kind, '\n' ∉ l) ↔
      r.renderedLines kind = [] ∨ '\n' ∉ r.looseValue kind := by
  have hheader := AddHeader.newline_notMem_text r.renderedName (r.renderedPath kind)
  by_cases hnil : r.renderedLines kind = []
  · simp [contentLines, hnil, hheader]
  have hboot : ∀ l ∈ (if r.hasBootstrap then Command.texts Bootstrap.commands else []),
      '\n' ∉ l := by
    intro l hl
    split at hl
    · exact newline_notMem_of_mem_texts_bootstrap hl
    · simp at hl
  rw [contentLines, if_neg hnil, List.forall_mem_cons, List.forall_mem_cons,
    newline_notMem_directoryLine_iff]
  by_cases hkind : kind = .sshKey
  · subst hkind
    have hpath : '\n' ∉ r.renderedPath (.recipe .sshKey) := by
      rw [renderedPath_sshKey]
      decide
    have hvalue : r.looseValue .sshKey = Text.trim r.name := rfl
    have hlines : (∀ l ∈ r.renderedLines (.recipe .sshKey), '\n' ∉ l) ↔
        (∀ l ∈ (if r.hasBootstrap then Command.texts Bootstrap.commands else []), '\n' ∉ l) ∧
          '\n' ∉ Text.trim r.name := by
      rw [renderedLines_eq, List.forall_mem_append, texts_ownCommands_sshKey,
        List.forall_mem_singleton, newline_notMem_text_sshKeyCommand]
    rw [hlines, hvalue]
    constructor
    · rintro ⟨-, -, -, hname⟩
      exact .inr hname
    · intro hname
      exact ⟨hheader, hpath, hboot, hname.resolve_left hnil⟩
  · have hvalue : r.looseValue kind = r.renderedPath kind := if_neg hkind
    have hlines : ∀ l ∈ r.renderedLines kind, '\n' ∉ l := fun l hl =>
      h.newline_notMem_renderedLines hkind hl
    rw [hvalue]
    constructor
    · rintro ⟨-, hpath, -⟩
      exact .inr hpath
    · intro hpath
      exact ⟨hheader, hpath.resolve_left hnil, hlines⟩

/-! ### What a block is meant to be -/

variable (kind r)

/-- The block of the recipe has the lines that it is meant to have: the start marker, a header with
an array of two strings, the end marker and, between them, if any command says something, a line
with the path of the header and a line for each such command, those of the bootstrap script
first. -/
def KeepsToLines : Prop :=
  let texts := Command.texts ((if r.hasBootstrap then Bootstrap.commands else []) ++
    r.ownCommands kind)
  ∃ json source path, Json.parse? json = some (.array [.string source, .string ('/' :: path)]) ∧
    Text.lines (r.render kind) = Block.startLine kind :: (AddHeader.opening ++ json) ::
      ((if texts = [] then [] else directoryLine path :: texts) ++ [Block.endMarker])

theorem texts_effectiveCommands :
    Command.texts ((if r.hasBootstrap then Bootstrap.commands else []) ++ r.ownCommands kind) =
      r.renderedLines kind := by
  rw [renderedLines_eq, Command.texts_append]
  cases r.hasBootstrap <;> rfl

variable {kind r}

/-- Texts with a line feed in one of them have more lines than there are texts. -/
theorem keepsToLines_iff_notMem : r.KeepsToLines kind ↔ ∀ l ∈ r.contentLines kind, '\n' ∉ l := by
  simp only [KeepsToLines, texts_effectiveCommands]
  constructor
  · rintro ⟨json, source, path, -, hlines⟩
    refine Text.notMem_of_length_flatMap_splitOn ?_
    have hlen := congrArg List.length (hlines.symm.trans (r.lines_render kind))
    rw [contentLines] at hlen ⊢
    split at hlen <;>
      simp only [List.length_cons, List.length_append, List.length_map, List.length_nil, *,
        ↓reduceIte] at hlen ⊢ <;>
      omega
  · intro h
    refine ⟨_, AddHeader.nameMark ++ r.renderedName, r.renderedPath kind,
      AddHeader.parse?_quotes _ _, ?_⟩
    rw [lines_render_of_notMem kind r h, contentLines]
    rfl

end Recipe

/-- A card is written as a block or not at all. -/
theorem Card.render_eq_nil_or_wrap (card : Card) :
    card.render = [] ∨ ∃ content, card.render = Block.wrap card.kind content := by
  cases card with
  | recipe kind r => exact .inr ⟨_, rfl⟩
  | packages p =>
    by_cases hlist : (Packages.normalize p.packageList).isEmpty = true
    · exact .inl (by simp [render, Packages.render, hlist])
    · refine .inr ⟨Packages.preamble ++ Packages.normalize p.packageList, ?_⟩
      simp [render, Packages.render, hlist, kind]

namespace Document

/-- The lines of a document are those of its blocks. -/
theorem lines_render (cards : List Card) :
    Text.lines (render cards) = cards.flatMap fun card => Text.lines card.render := by
  -- a block ends in a line of its own, so its lines do not depend on what follows
  have hblock (card : Card) (h : card.render ≠ []) :
      Text.lines card.render = (card.render.splitOn '\n').map Text.dropReturn := by
    obtain ⟨content, hcontent⟩ := card.render_eq_nil_or_wrap.resolve_left h
    have hend : Text.dropReturn Block.endMarker = Block.endMarker := by decide
    rw [hcontent, Block.lines_wrap, Block.splitOn_wrap, List.map_cons, List.map_append,
      Block.dropReturn_startLine]
    simp [hend]
  induction cards with
  | nil => exact Text.lines_nil
  | cons card cards ih =>
    rw [List.flatMap_cons, ← ih]
    by_cases hcard : card.render = []
    · simp [render, hcard, Text.lines_nil]
    · by_cases hrest : (cards.map Card.render).filter (!·.isEmpty) = []
      · have hnil : render cards = [] := by rw [render, hrest]; rfl
        have hsingle : render (card :: cards) = card.render := by
          simp [render, hcard, hrest, Text.joinLines]
        rw [hnil, hsingle, Text.lines_nil, List.append_nil]
      · have hcons : render (card :: cards) = card.render ++ '\n' :: render cards := by
          have hfilter : ((card :: cards).map Card.render).filter (!·.isEmpty) =
              card.render :: (cards.map Card.render).filter (!·.isEmpty) := by
            simp [hcard]
          rw [render, hfilter, Text.joinLines_cons hrest, render]
        rw [hcons, Text.lines_append_newline, hblock card hcard]

theorem isRead_of_parse {text : Text} {ids : IdSupply} {cards : List Card}
    (h : (parse text ids).result = .ok cards) : ∀ card ∈ cards, card.IsRead := by
  obtain ⟨blocks, -, hreads⟩ := parse_eq_ok_iff.1 h
  intro card hc
  obtain ⟨kind, id, source, hparse⟩ := hreads.exists_parse hc
  exact Card.isRead_of_parse hparse

/-- **Values keep to their lines.**  Of a recipe that is read in a document, the block has the lines
that it is meant to have exactly if it has no commands to write or the value that is written without
quotes holds no line feed. -/
theorem keepsToLines_iff {text : Text} {ids : IdSupply} {cards : List Card} {kind : RecipeKind}
    {r : Recipe} (h : (parse text ids).result = .ok cards) (hr : .recipe kind r ∈ cards) :
    r.KeepsToLines kind ↔ r.renderedLines kind = [] ∨ '\n' ∉ r.looseValue kind := by
  have hread : r.IsRead := isRead_of_parse h _ hr
  rw [Recipe.keepsToLines_iff_notMem]
  exact hread.newline_notMem_contentLines_iff

/-- The text of a recipe with a line feed in its path. -/
def spillingText : Text := "ADD [\"./a\", \"/x\\nRUN make\"]\nWORKDIR /\nRUN true".toList

/-- The recipe in this text. -/
def spilling : Recipe where
  id := "id-1".toList
  name := "a".toList
  path := "x\nRUN make".toList
  commands := [⟨some .run, "true".toList, false⟩]
  hasBootstrap := false
  legacyAdd := false
  fromText := true
  source := some spillingText

theorem parse_spillingText : (parse (Block.wrap (.recipe .file) spillingText) .sequential).result =
    .ok [.recipe .file spilling] := by decide +kernel

/-- A path that holds a line feed adds a line with a command. -/
theorem not_keepsToLines_spilling :
    (parse (Block.wrap (.recipe .file) spillingText) .sequential).result =
      .ok [.recipe .file spilling] ∧
    ¬ spilling.KeepsToLines .file ∧
    "RUN make".toList ∈ Text.lines (spilling.render (.recipe .file)) := by
  refine ⟨parse_spillingText, fun h => ?_, by decide +kernel⟩
  rcases (keepsToLines_iff parse_spillingText (List.mem_singleton_self _)).1 h with h | h
  · exact absurd h (by decide)
  · exact absurd h (by decide)

end Document

end BuildCards
