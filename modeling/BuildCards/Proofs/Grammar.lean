import BuildCards.Document
import Mathlib.Data.List.Forall2
import Mathlib.Data.List.Induction

/-!
# The grammar of documents

A document is cut into blocks by a scanner that goes through its lines once.  Here its grammar is
stated without a scanner, and the two are proved to agree.

* `Layout n lines blocks` says that the lines, numbered from `n`, are blank lines and these blocks;
* `Closed` and `Open` describe the lines before which no line offends, and `Offends` the one line
  after them that does;
* `Document.parse_eq_ok_iff` and `Document.parse_eq_error_iff` say that a document is read exactly
  if its lines have a layout whose blocks hold cards, and that otherwise the fault is that of the
  first line that offends.

What is read, reported and drawn for blocks that hold cards is said once for all of them
(`Document.readBlocks_append`).  The two directions meet in `Closed.step` and `Open.step`: every
line after lines without a fault either offends or leaves lines without a fault.
-/

namespace BuildCards

/-! ### Markers -/

namespace Block

/-- Between its blanks the line is the start marker and this label. -/
def Starts (line label : Text) : Prop := Text.trim line = startMarker ++ label

/-- Between its blanks the line is the end marker. -/
def Stops (line : Text) : Prop := Text.trim line = endMarker

/-- The line is no marker. -/
def Plain (line : Text) : Prop := (∀ label, ¬ Starts line label) ∧ ¬ Stops line

variable {line label : Text}

theorem not_stops_of_starts (h : Starts line label) : ¬ Stops line := by
  intro hs
  -- the markers differ in their second character
  have h' : '#' :: 'S' :: ("tart:".toList ++ label) = '#' :: 'E' :: "nd".toList := h.symm.trans hs
  exact absurd (List.cons.inj (List.cons.inj h').2).1 (by decide)

theorem Starts.label_unique {label' : Text} (h : Starts line label) (h' : Starts line label') :
    label = label' :=
  List.append_cancel_left (h.symm.trans h')

theorem starts_or_stops_or_plain (line : Text) :
    (∃ label, Starts line label) ∨ Stops line ∨ Plain line := by
  by_cases hstart : ∃ label, Starts line label
  · exact .inl hstart
  · by_cases hstop : Stops line
    · exact .inr (.inl hstop)
    · exact .inr (.inr ⟨fun label h => hstart ⟨label, h⟩, hstop⟩)

theorem plain_of_isBlank (h : Text.IsBlank line) : Plain line := by
  have ht := Text.trim_eq_nil_iff.2 h
  constructor
  · intro label hs
    have hnil : [] = '#' :: ("Start:".toList ++ label) := ht.symm.trans hs
    exact absurd hnil (List.cons_ne_nil _ _).symm
  · intro hs
    have hnil : [] = '#' :: "End".toList := ht.symm.trans hs
    exact absurd hnil (List.cons_ne_nil _ _).symm

end Block

namespace Marker

variable {line label : Text}

theorem ofLine_of_starts (h : Block.Starts line label) : ofLine line = .start label := by
  have h' : Text.afterStart? Block.startMarker (Text.trim line) = some label :=
    Text.afterStart?_eq_some_iff.2 h
  simp [ofLine, h']

theorem afterStart?_of_not_starts (h : ∀ label, ¬ Block.Starts line label) :
    Text.afterStart? Block.startMarker (Text.trim line) = none := by
  cases hs : Text.afterStart? Block.startMarker (Text.trim line) with
  | none => rfl
  | some label => exact absurd (Text.afterStart?_eq_some_iff.1 hs) (h label)

theorem ofLine_of_stops (h : Block.Stops line) : ofLine line = .stop := by
  have hs := afterStart?_of_not_starts fun _ hl => Block.not_stops_of_starts hl h
  have ht : Text.trim line = Block.endMarker := h
  rw [ht] at hs
  simp [ofLine, hs, ht]

theorem ofLine_of_isBlank (h : Text.IsBlank line) : ofLine line = .blank := by
  have hs := afterStart?_of_not_starts (Block.plain_of_isBlank h).1
  have ht := Text.trim_eq_nil_iff.2 h
  rw [ht] at hs
  simp [ofLine, hs, ht, Block.endMarker]

theorem ofLine_of_plain (h : Block.Plain line) (hb : ¬ Text.IsBlank line) :
    ofLine line = .other := by
  have hs := afterStart?_of_not_starts h.1
  have ht : Text.trim line ≠ Block.endMarker := h.2
  have hne : Text.trim line ≠ [] := fun hn => hb (Text.trim_eq_nil_iff.1 hn)
  simp [ofLine, hs, ht, hne]

end Marker

/-! ### What blocks hold -/

namespace Block

/-- The text of the block holds a card. -/
def Accepted (b : Block) : Prop := ∃ id card, Card.parse b.kind id b.source = .ok card

/-- The text of the block holds no card, for this reason. -/
def Rejected (b : Block) (fault : Fault) : Prop :=
  ∃ id, Card.parse b.kind id b.source = .error fault

theorem Accepted.parse {b : Block} (h : b.Accepted) (id : Text) :
    ∃ card, Card.parse b.kind id b.source = .ok card := by
  obtain ⟨id', card, hc⟩ := h
  exact ⟨card.withId id, by rw [Card.parse_withId b.kind id' id, hc]; rfl⟩

theorem Rejected.parse {b : Block} {fault : Fault} (h : b.Rejected fault) (id : Text) :
    Card.parse b.kind id b.source = .error fault := by
  obtain ⟨id', hc⟩ := h
  rw [Card.parse_withId b.kind id' id, hc]
  rfl

theorem accepted_or_rejected (b : Block) : b.Accepted ∨ ∃ fault, b.Rejected fault := by
  cases h : Card.parse b.kind [] b.source with
  | ok card => exact .inl ⟨[], card, h⟩
  | error fault => exact .inr ⟨fault, [], h⟩

end Block

/-! ### Layouts -/

/-- A member of a list that is not before another member is that one or comes after it. -/
theorem append_cons_eq_append_cons {α : Type} {xs ys us vs : List α} {a b : α}
    (h : xs ++ a :: ys = us ++ b :: vs) (ha : a ∉ us) :
    (xs = us ∧ a = b ∧ ys = vs) ∨ ∃ ws, xs = us ++ b :: ws ∧ vs = ws ++ a :: ys := by
  rcases List.append_eq_append_iff.1 h with ⟨ws, rfl, hws⟩ | ⟨ws, rfl, hws⟩
  · cases ws with
    | nil =>
      rw [List.nil_append, List.cons.injEq] at hws
      exact .inl ⟨(List.append_nil _).symm, hws⟩
    | cons w ws =>
      rw [List.cons_append, List.cons.injEq] at hws
      exact absurd (by simp [hws.1]) ha
  · cases ws with
    | nil =>
      rw [List.nil_append, List.cons.injEq] at hws
      exact .inl ⟨List.append_nil _, hws.1.symm, hws.2.symm⟩
    | cons w ws =>
      rw [List.cons_append, List.cons.injEq] at hws
      exact .inr ⟨ws, by rw [hws.1], hws.2⟩

/-- Lines without a marker are told from what follows by the end marker behind them. -/
theorem Block.append_stop_inj {ls ms us vs : List Text} {a b : Text} (hl : ∀ l ∈ ls, Plain l)
    (hm : ∀ m ∈ ms, Plain m) (ha : Stops a) (hb : Stops b) (h : ls ++ a :: us = ms ++ b :: vs) :
    ls = ms ∧ a = b ∧ us = vs := by
  rcases append_cons_eq_append_cons h fun hmem => (hm a hmem).2 ha with hall | ⟨ws, rfl, -⟩
  · exact hall
  · exact absurd hb (hl b (by simp)).2

/-- The lines, the first of which has number `n`, are blank lines and these blocks. -/
inductive Layout : Nat → List Text → List Block → Prop
  | nil {n : Nat} : Layout n [] []
  | blank {n : Nat} {line : Text} {rest : List Text} {blocks : List Block}
      (hline : Text.IsBlank line) (hrest : Layout (n + 1) rest blocks) :
      Layout n (line :: rest) blocks
  | block {n : Nat} {line label : Text} {kind : Kind} {body : List Text} {stop : Text}
      {rest : List Text} {blocks : List Block} (hline : Block.Starts line label)
      (hkind : kind.label = Text.trim label) (hbody : ∀ l ∈ body, Block.Plain l)
      (hstop : Block.Stops stop) (hrest : Layout (n + body.length + 2) rest blocks) :
      Layout n (line :: (body ++ stop :: rest)) (⟨kind, n, body, n + body.length + 1⟩ :: blocks)

namespace Layout

variable {n : Nat} {ls ms : List Text} {blocks blocks' : List Block}

theorem append (h : Layout n ls blocks) (h' : Layout (n + ls.length) ms blocks') :
    Layout n (ls ++ ms) (blocks ++ blocks') := by
  induction h with
  | nil => exact h'
  | @blank n line rest blocks hline _ ih =>
    refine blank hline (ih ?_)
    have hn : n + 1 + rest.length = n + (line :: rest).length := by
      rw [List.length_cons]; omega
    rw [hn]
    exact h'
  | @block n line label kind body stop rest blocks hline hkind hbody hstop _ ih =>
    have happ : line :: (body ++ stop :: rest) ++ ms = line :: (body ++ stop :: (rest ++ ms)) := by
      simp
    rw [happ]
    refine block hline hkind hbody hstop (ih ?_)
    have hn : n + body.length + 2 + rest.length = n + (line :: (body ++ stop :: rest)).length := by
      simp only [List.length_cons, List.length_append]; omega
    rw [hn]
    exact h'

/-- What begins with a start marker begins with a block. -/
theorem of_starts {line label : Text} (hl : Block.Starts line label)
    (h : Layout n (line :: ls) blocks) :
    ∃ (kind : Kind) (body : List Text) (stop : Text) (rest : List Text) (blocks' : List Block),
      ls = body ++ stop :: rest ∧ kind.label = Text.trim label ∧ (∀ l ∈ body, Block.Plain l) ∧
        Block.Stops stop ∧ blocks = ⟨kind, n, body, n + body.length + 1⟩ :: blocks' ∧
        Layout (n + body.length + 2) rest blocks' := by
  cases h with
  | blank hline hrest => exact absurd hl ((Block.plain_of_isBlank hline).1 label)
  | block hline hkind hbody hstop hrest =>
    rw [hline.label_unique hl] at hkind
    exact ⟨_, _, _, _, _, rfl, hkind, hbody, hstop, rfl, hrest⟩

/-- No block goes on behind an end marker, so a layout can be cut there. -/
theorem split {stop : Text} (hs : Block.Stops stop) (h : Layout n (ls ++ stop :: ms) blocks) :
    ∃ before after, blocks = before ++ after ∧ Layout n (ls ++ [stop]) before ∧
      Layout (n + ls.length + 1) ms after := by
  generalize hlines : ls ++ stop :: ms = lines at h
  induction h generalizing ls with
  | nil => simp at hlines
  | @blank n line rest blocks hline hrest ih =>
    cases ls with
    | nil =>
      rw [List.nil_append, List.cons.injEq] at hlines
      exact absurd (hlines.1 ▸ hs) (Block.plain_of_isBlank hline).2
    | cons l ls =>
      rw [List.cons_append, List.cons.injEq] at hlines
      obtain ⟨rfl, hlines⟩ := hlines
      obtain ⟨before, after, rfl, hbefore, hafter⟩ := ih hlines
      have hn : n + 1 + ls.length + 1 = n + (l :: ls).length + 1 := by
        rw [List.length_cons]; omega
      exact ⟨before, after, rfl, .blank hline hbefore, hn ▸ hafter⟩
  | @block n line label kind body stop' rest blocks hline hkind hbody hstop hrest ih =>
    cases ls with
    | nil =>
      rw [List.nil_append, List.cons.injEq] at hlines
      exact absurd (hlines.1 ▸ hs) (Block.not_stops_of_starts hline)
    | cons l ls =>
      rw [List.cons_append, List.cons.injEq] at hlines
      obtain ⟨rfl, hlines⟩ := hlines
      have hmem : stop ∉ body := fun hmem => (hbody stop hmem).2 hs
      rcases append_cons_eq_append_cons hlines hmem with ⟨rfl, rfl, rfl⟩ | ⟨us, rfl, rfl⟩
      · -- the cut is at the end of the block
        have hn : n + ls.length + 2 = n + (l :: ls).length + 1 := by
          rw [List.length_cons]; omega
        refine ⟨[_], blocks, rfl, ?_, hn ▸ hrest⟩
        exact Layout.block hline hkind hbody hstop .nil
      · obtain ⟨before, after, rfl, hbefore, hafter⟩ := ih rfl
        have hn : n + body.length + 2 + us.length + 1 =
            n + (l :: (body ++ stop' :: us)).length + 1 := by
          simp only [List.length_append, List.length_cons]; omega
        refine ⟨_ :: before, after, rfl, ?_, hn ▸ hafter⟩
        simpa using Layout.block hline hkind hbody hstop hbefore

/-- The number of the first line only shifts the numbers of the blocks. -/
theorem renumber (h : Layout n ls blocks) (m : Nat) :
    ∃ blocks', Layout m ls blocks' ∧
      List.Forall₂ (fun b b' : Block => b'.kind = b.kind ∧ b'.body = b.body) blocks blocks' := by
  induction h generalizing m with
  | nil => exact ⟨[], .nil, .nil⟩
  | @blank n line rest blocks hline _ ih =>
    obtain ⟨blocks', hlayout, hsame⟩ := ih (m + 1)
    exact ⟨blocks', .blank hline hlayout, hsame⟩
  | @block n line label kind body stop rest blocks hline hkind hbody hstop _ ih =>
    obtain ⟨blocks', hlayout, hsame⟩ := ih (m + body.length + 2)
    exact ⟨_, .block hline hkind hbody hstop hlayout, .cons ⟨rfl, rfl⟩ hsame⟩

end Layout

/-- The cards are those of the blocks, in order, with the next identifiers of the supply. -/
inductive ReadsAs : IdSupply → List Block → List Card → Prop
  | nil {ids : IdSupply} : ReadsAs ids [] []
  | cons {ids : IdSupply} {b : Block} {blocks : List Block} {card : Card} {cards : List Card}
      (hcard : Card.parse b.kind ids.next b.source = .ok card)
      (hcards : ReadsAs (ids.skip 1) blocks cards) : ReadsAs ids (b :: blocks) (card :: cards)

theorem exists_readsAs {blocks : List Block} (h : ∀ b ∈ blocks, b.Accepted) (ids : IdSupply) :
    ∃ cards, ReadsAs ids blocks cards := by
  induction blocks generalizing ids with
  | nil => exact ⟨[], .nil⟩
  | cons b blocks ih =>
    obtain ⟨card, hcard⟩ := (h b List.mem_cons_self).parse ids.next
    obtain ⟨cards, hcards⟩ := ih (fun b' hb' => h b' (List.mem_cons_of_mem _ hb')) (ids.skip 1)
    exact ⟨card :: cards, .cons hcard hcards⟩

theorem ReadsAs.exists_parse {ids : IdSupply} {blocks : List Block} {cards : List Card}
    (h : ReadsAs ids blocks cards) {card : Card} (hc : card ∈ cards) :
    ∃ kind id source, Card.parse kind id source = .ok card := by
  induction h with
  | nil => simp at hc
  | cons hcard _ ih =>
    rcases List.mem_cons.1 hc with rfl | hc
    · exact ⟨_, _, _, hcard⟩
    · exact ih hc

namespace ReadsAs

variable {ids : IdSupply} {bs bs' : List Block} {cs cs' : List Card}

theorem append (h : ReadsAs ids bs cs) (h' : ReadsAs (ids.skip bs.length) bs' cs') :
    ReadsAs ids (bs ++ bs') (cs ++ cs') := by
  induction h with
  | nil => exact h'
  | @cons ids b blocks card cards hcard _ ih =>
    refine .cons hcard (ih ?_)
    rw [IdSupply.skip_skip, Nat.add_comm]
    exact h'

theorem split (h : ReadsAs ids (bs ++ bs') cs) :
    ∃ before after, cs = before ++ after ∧ ReadsAs ids bs before ∧
      ReadsAs (ids.skip bs.length) bs' after := by
  induction bs generalizing ids cs with
  | nil => exact ⟨[], cs, rfl, .nil, h⟩
  | cons b bs ih =>
    obtain _ | ⟨hcard, hcards⟩ := h
    obtain ⟨before, after, rfl, hbefore, hafter⟩ := ih hcards
    refine ⟨_ :: before, after, rfl, .cons hcard hbefore, ?_⟩
    rw [IdSupply.skip_skip, Nat.add_comm] at hafter
    exact hafter

end ReadsAs

/-! ### The first fault -/

/-- No line offends, and no block is open after the lines. -/
def Closed (before : List Text) : Prop :=
  ∃ blocks, Layout 1 before blocks ∧ ∀ b ∈ blocks, b.Accepted

/-- No line offends, and after the lines a block of this kind is open, which line `start` opened and
which holds `body` so far. -/
def Open (before : List Text) (kind : Kind) (start : Nat) (body : List Text) : Prop :=
  ∃ closed line label, before = closed ++ line :: body ∧ Closed closed ∧
    Block.Starts line label ∧ kind.label = Text.trim label ∧ start = closed.length + 1 ∧
    ∀ l ∈ body, Block.Plain l

/-- After `before`, where no line offends, `line` does. -/
inductive Offends (before : List Text) (line : Text) : Fault → Prop
  | unknownKind {label : Text} (hbefore : Closed before) (hline : Block.Starts line label)
      (hlabel : ∀ kind : Kind, kind.label ≠ Text.trim label) :
      Offends before line (.unknownKind (Text.trim label))
  | strayEnd (hbefore : Closed before) (hline : Block.Stops line) :
      Offends before line (.document (before.length + 1) .strayEnd)
  | strayText (hbefore : Closed before) (hline : Block.Plain line) (hblank : ¬ Text.IsBlank line) :
      Offends before line (.document (before.length + 1) .strayText)
  | unclosed {kind : Kind} {start : Nat} {body : List Text} {label : Text}
      (hbefore : Open before kind start body) (hline : Block.Starts line label) :
      Offends before line (.document (before.length + 1) (.unclosed start))
  | card {kind : Kind} {start : Nat} {body : List Text} {fault : Fault}
      (hbefore : Open before kind start body) (hline : Block.Stops line)
      (hcard : (Block.mk kind start body (before.length + 1)).Rejected fault) :
      Offends before line fault

/-- The fault is that of the first line that offends or, when none does, of a block that is open at
the end. -/
def FirstFault (lines : List Text) (fault : Fault) : Prop :=
  (∃ before line after, lines = before ++ line :: after ∧ Offends before line fault) ∨
    ∃ kind start body, Open lines kind start body ∧ fault = .document start .missingEnd

variable {before : List Text} {line : Text}

theorem Closed.nil : Closed [] := ⟨[], .nil, by simp⟩

theorem Closed.append_blank (h : Closed before) (hl : Text.IsBlank line) :
    Closed (before ++ [line]) := by
  obtain ⟨blocks, hb, ha⟩ := h
  have happ := hb.append (Layout.blank (n := 1 + before.length) hl .nil)
  exact ⟨blocks, by simpa using happ, ha⟩

theorem Closed.append_start {label : Text} {kind : Kind} (h : Closed before)
    (hl : Block.Starts line label) (hk : kind.label = Text.trim label) :
    Open (before ++ [line]) kind (before.length + 1) [] :=
  ⟨before, line, label, rfl, h, hl, hk, rfl, by simp⟩

section

variable {kind : Kind} {start : Nat} {body : List Text}

theorem Open.append_plain (h : Open before kind start body) (hl : Block.Plain line) :
    Open (before ++ [line]) kind start (body ++ [line]) := by
  obtain ⟨closed, first, label, rfl, hc, hf, hk, hs, hb⟩ := h
  refine ⟨closed, first, label, by simp, hc, hf, hk, hs, fun l hmem => ?_⟩
  rcases List.mem_append.1 hmem with hmem | hmem
  · exact hb l hmem
  · rw [List.mem_singleton.1 hmem]
    exact hl

theorem Open.append_stop (h : Open before kind start body) (hl : Block.Stops line)
    (ha : (Block.mk kind start body (before.length + 1)).Accepted) : Closed (before ++ [line]) := by
  obtain ⟨closed, first, label, rfl, ⟨blocks, hlay, hacc⟩, hf, hk, rfl, hb⟩ := h
  have hblock := Layout.block (n := 1 + closed.length) hf hk hb hl .nil
  refine ⟨_, by simpa using hlay.append hblock, fun b hmem => ?_⟩
  rcases List.mem_append.1 hmem with hmem | hmem
  · exact hacc b hmem
  · rw [List.mem_singleton.1 hmem]
    exact ha

/-- **One line more.**  After lines without a fault, a line offends or leaves lines without a
fault. -/
theorem Closed.step (h : Closed before) (line : Text) :
    (∃ fault, Offends before line fault) ∨ Closed (before ++ [line]) ∨
      ∃ kind start body, Open (before ++ [line]) kind start body := by
  rcases Block.starts_or_stops_or_plain line with ⟨label, hl⟩ | hl | hl
  · by_cases hk : ∃ kind : Kind, kind.label = Text.trim label
    · obtain ⟨kind, hk⟩ := hk
      exact .inr (.inr ⟨kind, _, _, h.append_start hl hk⟩)
    · exact .inl ⟨_, .unknownKind h hl fun kind hkind => hk ⟨kind, hkind⟩⟩
  · exact .inl ⟨_, .strayEnd h hl⟩
  · by_cases hb : Text.IsBlank line
    · exact .inr (.inl (h.append_blank hb))
    · exact .inl ⟨_, .strayText h hl hb⟩

theorem Open.step (h : Open before kind start body) (line : Text) :
    (∃ fault, Offends before line fault) ∨ Closed (before ++ [line]) ∨
      ∃ kind start body, Open (before ++ [line]) kind start body := by
  rcases Block.starts_or_stops_or_plain line with ⟨label, hl⟩ | hl | hl
  · exact .inl ⟨_, .unclosed h hl⟩
  · rcases Block.accepted_or_rejected ⟨kind, start, body, before.length + 1⟩ with ha | ⟨fault, hr⟩
    · exact .inr (.inl (h.append_stop hl ha))
    · exact .inl ⟨fault, .card h hl hr⟩
  · exact .inr (.inr ⟨kind, start, _, h.append_plain hl⟩)

end

/-- Lines either are without a fault or have a first one. -/
theorem closed_or_open_or_offends (lines : List Text) :
    Closed lines ∨ (∃ kind start body, Open lines kind start body) ∨
      ∃ before line after fault, lines = before ++ line :: after ∧ Offends before line fault := by
  -- from the first line on, one line at a time
  induction lines using List.reverseRecOn with
  | nil => exact .inl Closed.nil
  | append_singleton before line ih =>
    have hstep : (∃ fault, Offends before line fault) ∨ Closed (before ++ [line]) ∨
        (∃ kind start body, Open (before ++ [line]) kind start body) ∨
        ∃ before' line' after fault, before = before' ++ line' :: after ∧
          Offends before' line' fault := by
      rcases ih with hc | ⟨kind, start, body, ho⟩ | hoff
      · rcases hc.step line with h | h | h
        · exact .inl h
        · exact .inr (.inl h)
        · exact .inr (.inr (.inl h))
      · rcases ho.step line with h | h | h
        · exact .inl h
        · exact .inr (.inl h)
        · exact .inr (.inr (.inl h))
      · exact .inr (.inr (.inr hoff))
    rcases hstep with ⟨fault, h⟩ | h | h | ⟨before', line', after, fault, rfl, h⟩
    · exact .inr (.inr ⟨before, line, [], fault, rfl, h⟩)
    · exact .inl h
    · exact .inr (.inl h)
    · exact .inr (.inr ⟨before', line', after ++ [line], fault, by simp, h⟩)

/-! ### The scanner -/

namespace Outline

variable {n : Nat} {rest : List Text}

theorem ofLinesFrom_start {line label : Text} {kind : Kind} (hl : Block.Starts line label)
    (hk : kind.label = Text.trim label) :
    ofLinesFrom none n (line :: rest) = ofLinesFrom (some ⟨kind, n, []⟩) (n + 1) rest := by
  simp [ofLinesFrom, Marker.ofLine_of_starts hl, Kind.ofLabel_eq_ok_iff.2 hk]

theorem ofLinesFrom_plain {body : List Text} (o : Opening) (h : ∀ l ∈ body, Block.Plain l) :
    ofLinesFrom (some o) n (body ++ rest) =
      ofLinesFrom (some ⟨o.kind, o.start, body.reverse ++ o.lines⟩) (n + body.length) rest := by
  induction body generalizing o n with
  | nil => rfl
  | cons l body ih =>
    have hstep : ofLinesFrom (some o) n (l :: (body ++ rest)) =
        ofLinesFrom (some { o with lines := l :: o.lines }) (n + 1) (body ++ rest) := by
      by_cases hb : Text.IsBlank l
      · simp [ofLinesFrom, Marker.ofLine_of_isBlank hb]
      · simp [ofLinesFrom, Marker.ofLine_of_plain (h l List.mem_cons_self) hb]
    rw [List.cons_append, hstep, ih _ fun m hm => h m (List.mem_cons_of_mem _ hm)]
    have hn : n + 1 + body.length = n + (l :: body).length := by rw [List.length_cons]; omega
    rw [hn]
    simp

theorem ofLinesFrom_stop {line : Text} (o : Opening) (hl : Block.Stops line) :
    ofLinesFrom (some o) n (line :: rest) =
      cons ⟨o.kind, o.start, o.lines.reverse, n⟩ (ofLinesFrom none (n + 1) rest) := by
  simp [ofLinesFrom, Marker.ofLine_of_stops hl]

/-- A layout is scanned into its blocks, whatever follows it. -/
theorem ofLinesFrom_append {ls : List Text} {blocks : List Block} (h : Layout n ls blocks)
    (rest : List Text) :
    ofLinesFrom none n (ls ++ rest) =
      ⟨blocks ++ (ofLinesFrom none (n + ls.length) rest).blocks,
        (ofLinesFrom none (n + ls.length) rest).fault⟩ := by
  induction h with
  | nil => rfl
  | @blank n line ls blocks hline _ ih =>
    have hstep : ofLinesFrom none n (line :: (ls ++ rest)) =
        ofLinesFrom none (n + 1) (ls ++ rest) := by
      simp [ofLinesFrom, Marker.ofLine_of_isBlank hline]
    have hn : n + 1 + ls.length = n + (line :: ls).length := by rw [List.length_cons]; omega
    rw [List.cons_append, hstep, ih, hn]
  | @block n line label kind body stop ls blocks hline hkind hbody hstop _ ih =>
    have happ : line :: (body ++ stop :: ls) ++ rest = line :: (body ++ stop :: (ls ++ rest)) := by
      simp
    have hn : n + body.length + 2 + ls.length = n + (line :: (body ++ stop :: ls)).length := by
      simp only [List.length_cons, List.length_append]; omega
    have hn' : n + 1 + body.length + 1 = n + body.length + 2 := by omega
    rw [happ, ofLinesFrom_start hline hkind, ofLinesFrom_plain _ hbody, ofLinesFrom_stop _ hstop,
      hn', ih, hn]
    have hstop' : n + 1 + body.length = n + body.length + 1 := by omega
    simp [cons, hstop']

/-- The scanner of an open block, after the lines that came with it. -/
theorem ofLinesFrom_open {before : List Text} {kind : Kind} {start : Nat} {body : List Text}
    (h : Open before kind start body) :
    ∃ blocks, (∀ b ∈ blocks, b.Accepted) ∧ ∀ rest,
      ofLinesFrom none 1 (before ++ rest) =
        ⟨blocks ++ (ofLinesFrom (some ⟨kind, start, body.reverse⟩) (before.length + 1) rest).blocks,
          (ofLinesFrom (some ⟨kind, start, body.reverse⟩) (before.length + 1) rest).fault⟩ := by
  obtain ⟨closed, line, label, rfl, ⟨blocks, hlay, hacc⟩, hl, hk, rfl, hb⟩ := h
  refine ⟨blocks, hacc, fun rest => ?_⟩
  have happ : closed ++ line :: body ++ rest = closed ++ (line :: (body ++ rest)) := by simp
  have hn : 1 + closed.length + 1 + body.length = (closed ++ line :: body).length + 1 := by
    simp only [List.length_append, List.length_cons]; omega
  have hs : 1 + closed.length = closed.length + 1 := by omega
  rw [happ, ofLinesFrom_append hlay _, ofLinesFrom_start hl hk, ofLinesFrom_plain _ hb, hn, hs]
  simp

end Outline

/-- What is reported of a block. -/
def Block.report (b : Block) : List Event :=
  .parsingBlock b.kind b.start b.stop :: Card.log b.kind b.source

namespace Document

variable {ids : IdSupply} {blocks : List Block} {cards : List Card} {fault : Fault}

/-- **Reading goes on behind blocks that hold cards.**  They draw one identifier each, and what is
reported of them comes first. -/
theorem readBlocks_append (h : ReadsAs ids blocks cards) (rest : List Block) :
    readBlocks ids (blocks ++ rest) =
      let later := readBlocks (ids.skip blocks.length) rest
      ⟨blocks.flatMap Block.report ++ later.events, later.ids, later.result.map (cards ++ ·)⟩ := by
  induction h with
  | @nil ids =>
    have hmap : (readBlocks ids rest).result.map (([] : List Card) ++ ·) =
        (readBlocks ids rest).result := by
      cases (readBlocks ids rest).result <;> rfl
    show readBlocks ids rest = ⟨_, _, (readBlocks ids rest).result.map ([] ++ ·)⟩
    rw [hmap]
    rfl
  | @cons ids b blocks card cards hcard _ ih =>
    have hfirst : (readBlock b ids).result = .ok card := hcard
    have hevents : (readBlock b ids).events = b.report := rfl
    have hids : (readBlock b ids).ids = ids.skip 1 := rfl
    have hlength : 1 + blocks.length = (b :: blocks).length := Nat.add_comm _ _
    simp only [List.cons_append, readBlocks, hfirst, hevents, hids, ih, IdSupply.skip_skip, hlength,
      List.flatMap_cons, List.append_assoc]
    -- the card is put before those behind it
    cases (readBlocks (ids.skip (b :: blocks).length) rest).result <;> rfl

/-- Blocks that hold cards are read as these cards. -/
theorem readBlocks_of_readsAs (h : ReadsAs ids blocks cards) :
    readBlocks ids blocks = ⟨blocks.flatMap Block.report, ids.skip blocks.length, .ok cards⟩ := by
  have happend := readBlocks_append h []
  simpa [readBlocks, Except.map] using happend

/-- Blocks are read up to the first that holds no card, which has drawn an identifier. -/
theorem readBlocks_of_rejected {b : Block} {rest : List Block} (h : ∀ b ∈ blocks, b.Accepted)
    (hb : b.Rejected fault) :
    readBlocks ids (blocks ++ b :: rest) =
      ⟨blocks.flatMap Block.report ++ b.report, ids.skip (blocks.length + 1), .error fault⟩ := by
  obtain ⟨cards, hcards⟩ := exists_readsAs h ids
  have hfirst : (readBlock b (ids.skip blocks.length)).result = .error fault := hb.parse _
  have hrest : readBlocks (ids.skip blocks.length) (b :: rest) =
      ⟨b.report, ids.skip (blocks.length + 1), .error fault⟩ := by
    simp only [readBlocks, hfirst]
    rfl
  rw [readBlocks_append hcards, hrest]
  rfl

/-- A document whose outline ends in a fault is read up to there. -/
theorem parse_of_fault {text : Text} {o : Outline} (ho : Outline.ofLines (Text.lines text) = o)
    (hf : o.fault = some fault) (h : ∀ b ∈ o.blocks, b.Accepted) :
    (parse text ids).result = .error fault := by
  obtain ⟨cards, hcards⟩ := exists_readsAs h ids
  have hread := readBlocks_of_readsAs hcards
  simp only [parse, ho, hf, hread]
  rfl

/-- A document with a block that holds no card is read up to that block. -/
theorem parse_of_rejected {text : Text} {o : Outline} {b : Block} {rest : List Block}
    (ho : Outline.ofLines (Text.lines text) = o) (hb : o.blocks = blocks ++ b :: rest)
    (h : ∀ b ∈ blocks, b.Accepted) (hr : b.Rejected fault) :
    (parse text ids).result = .error fault := by
  have hread : (readBlocks ids o.blocks).result = .error fault := by
    rw [hb, readBlocks_of_rejected h hr]
  simp only [parse, ho]
  cases o.fault with
  | none => exact hread
  | some fault' =>
    change (readBlocks ids o.blocks).result.bind _ = _
    rw [hread]
    rfl

/-- Lines with a layout are read as its blocks. -/
theorem parse_eq_readBlocks {text : Text} (h : Layout 1 (Text.lines text) blocks) :
    parse text ids = readBlocks ids blocks := by
  have ho : Outline.ofLines (Text.lines text) = ⟨blocks, none⟩ := by
    have happ := Outline.ofLinesFrom_append h []
    simpa [Outline.ofLines, Outline.ofLinesFrom] using happ
  simp only [parse, ho]

theorem parse_of_layout {text : Text} (h : Layout 1 (Text.lines text) blocks)
    (hr : ReadsAs ids blocks cards) : (parse text ids).result = .ok cards := by
  rw [parse_eq_readBlocks h, readBlocks_of_readsAs hr]

/-- A line that ends the outline after lines without a fault gives the fault. -/
theorem parse_of_closed {text : Text} {before rest : List Text} (h : Closed before)
    (ht : Text.lines text = before ++ rest)
    (hend : Outline.ofLinesFrom none (before.length + 1) rest = ⟨[], some fault⟩) :
    (parse text ids).result = .error fault := by
  obtain ⟨bs, hlay, hacc⟩ := h
  have ho := Outline.ofLinesFrom_append hlay rest
  rw [← ht, Nat.add_comm, hend] at ho
  exact parse_of_fault ho rfl (by simpa using hacc)

theorem parse_of_offends {text : Text} {before after : List Text} {line : Text}
    (ht : Text.lines text = before ++ line :: after) (h : Offends before line fault) :
    (parse text ids).result = .error fault := by
  cases h with
  | unknownKind hbefore hline hlabel =>
    refine parse_of_closed hbefore ht ?_
    simp [Outline.ofLinesFrom, Marker.ofLine_of_starts hline, Kind.ofLabel_eq_error hlabel]
  | strayEnd hbefore hline =>
    refine parse_of_closed hbefore ht ?_
    simp [Outline.ofLinesFrom, Marker.ofLine_of_stops hline]
  | strayText hbefore hline hblank =>
    refine parse_of_closed hbefore ht ?_
    simp [Outline.ofLinesFrom, Marker.ofLine_of_plain hline hblank]
  | unclosed hbefore hline =>
    obtain ⟨bs, hacc, hopen⟩ := Outline.ofLinesFrom_open hbefore
    have ho := hopen (line :: after)
    rw [← ht] at ho
    refine parse_of_fault ho ?_ ?_
    · simp [Outline.ofLinesFrom, Marker.ofLine_of_starts hline]
    · simpa [Outline.ofLinesFrom, Marker.ofLine_of_starts hline] using hacc
  | card hbefore hline hcard =>
    obtain ⟨bs, hacc, hopen⟩ := Outline.ofLinesFrom_open hbefore
    have ho := hopen (line :: after)
    rw [← ht, Outline.ofLinesFrom_stop _ hline, List.reverse_reverse] at ho
    exact parse_of_rejected ho rfl hacc hcard

theorem parse_of_open {text : Text} {kind : Kind} {start : Nat} {body : List Text}
    (h : Open (Text.lines text) kind start body) :
    (parse text ids).result = .error (.document start .missingEnd) := by
  obtain ⟨bs, hacc, hopen⟩ := Outline.ofLinesFrom_open h
  have ho := hopen []
  rw [List.append_nil] at ho
  exact parse_of_fault ho rfl (by simpa [Outline.ofLinesFrom] using hacc)

theorem parse_of_firstFault {text : Text} (h : FirstFault (Text.lines text) fault) :
    (parse text ids).result = .error fault := by
  rcases h with ⟨before, line, after, ht, hoff⟩ | ⟨kind, start, body, ho, rfl⟩
  · exact parse_of_offends ht hoff
  · exact parse_of_open ho

/-! ### The theorem -/

/-- Lines have a layout of blocks that hold cards, or a first fault. -/
theorem closed_or_firstFault (lines : List Text) :
    Closed lines ∨ ∃ fault, FirstFault lines fault := by
  rcases closed_or_open_or_offends lines with h | ⟨kind, start, body, h⟩ |
    ⟨before, line, after, fault, hl, h⟩
  · exact .inl h
  · exact .inr ⟨_, .inr ⟨kind, start, body, h, rfl⟩⟩
  · exact .inr ⟨fault, .inl ⟨before, line, after, hl, h⟩⟩

/-- **What is read.** -/
theorem parse_eq_ok_iff {text : Text} : (parse text ids).result = .ok cards ↔
    ∃ blocks, Layout 1 (Text.lines text) blocks ∧ ReadsAs ids blocks cards := by
  constructor
  · intro h
    rcases closed_or_firstFault (Text.lines text) with ⟨blocks, hlay, hacc⟩ | ⟨fault, hf⟩
    · obtain ⟨cards', hr⟩ := exists_readsAs hacc ids
      have hcards := h.symm.trans (parse_of_layout hlay hr)
      rw [Except.ok.injEq] at hcards
      exact ⟨blocks, hlay, hcards ▸ hr⟩
    · simp [parse_of_firstFault hf] at h
  · rintro ⟨blocks, hlay, hr⟩
    exact parse_of_layout hlay hr

/-- **Which fault is reported.** -/
theorem parse_eq_error_iff {text : Text} : (parse text ids).result = .error fault ↔
    FirstFault (Text.lines text) fault := by
  constructor
  · intro h
    rcases closed_or_firstFault (Text.lines text) with ⟨blocks, hlay, hacc⟩ | ⟨fault', hf⟩
    · obtain ⟨cards, hr⟩ := exists_readsAs hacc ids
      simp [parse_of_layout hlay hr] at h
    · have hfault := h.symm.trans (parse_of_firstFault hf)
      rw [Except.error.injEq] at hfault
      exact hfault ▸ hf
  · exact parse_of_firstFault

/-- **The grammar of documents.**  A document is read exactly if its lines are blank lines and
blocks with known labels whose texts hold cards of their kinds, and it is read as those cards; if it
is not read, the fault is that of the first line that offends or, if none does, of a block that is
still open at the end. -/
theorem parse_iff_layout (text : Text) (ids : IdSupply) :
    (∀ cards, (parse text ids).result = .ok cards ↔
      ∃ blocks, Layout 1 (Text.lines text) blocks ∧ ReadsAs ids blocks cards) ∧
    ∀ fault, (parse text ids).result = .error fault ↔ FirstFault (Text.lines text) fault :=
  ⟨fun _ => parse_eq_ok_iff, fun _ => parse_eq_error_iff⟩

end Document

end BuildCards
