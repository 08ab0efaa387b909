import BuildCards.Json.Reader
import BuildCards.Json.Basic

/-!
# Reading JSON that was written

A value is written without space or over several lines, and both texts read as that value
(**`Json.parse?_write`**), as long as it has no numbers, which are kept as they are written, and its
arrays and objects do not lie too deep in each other (`Json.Fits`).  So different values are written
differently (`Json.write_inj`).

Between a text and its value stand the tokens of the value (`Json.toTokens`).  The text has these
tokens, whatever follows it that does not go on with a word (`Json.tokens_write`), and from the
tokens the value is read (`Json.readValue_toTokens`).

The text without space stands on one line (`Json.space_le_of_mem_compact`).
-/

namespace BuildCards

/-- A list with a mark between each two parts is its first part and the others with the mark before
them. -/
theorem intercalate_singleton_cons {α : Type} (mark : α) (x : List α) (xs : List (List α)) :
    [mark].intercalate (x :: xs) = x ++ xs.flatMap (mark :: ·) := by
  induction xs generalizing x with
  | nil => simp
  | cons y ys ih => rw [List.intercalate_cons_cons, ih, List.flatMap_cons]; simp

theorem mem_intercalate_singleton {α : Type} {mark a : α} {xs : List (List α)}
    (h : a ∈ [mark].intercalate xs) : a = mark ∨ ∃ x ∈ xs, a ∈ x := by
  cases xs with
  | nil => simp at h
  | cons x xs =>
    rw [intercalate_singleton_cons, List.mem_append, List.mem_flatMap] at h
    rcases h with h | ⟨y, hy, h⟩
    · exact .inr ⟨x, List.mem_cons_self, h⟩
    · rcases List.mem_cons.1 h with h | h
      · exact .inl h
      · exact .inr ⟨y, List.mem_cons_of_mem _ hy, h⟩

namespace Json

/-! ### Values and their tokens -/

/-- No number occurs in the value, and at most `n` arrays and objects lie in each other. -/
inductive Fits : Nat → Json → Prop
  | null {n : Nat} : Fits n .null
  | bool {n : Nat} (b : Bool) : Fits n (.bool b)
  | string {n : Nat} (s : Text) : Fits n (.string s)
  | array {n : Nat} {items : List Json} (h : ∀ v ∈ items, Fits n v) : Fits (n + 1) (.array items)
  | object {n : Nat} {members : List (Text × Json)} (h : ∀ m ∈ members, Fits n m.2) :
      Fits (n + 1) (.object members)

mutual

/-- The tokens of a value. -/
def toTokens : Json → List Token
  | .null => [.scalar .null]
  | .bool b => [.scalar (.bool b)]
  | .number literal => [.scalar (.number literal)]
  | .string s => [.scalar (.string s)]
  | .array items => .openArray :: ([Token.comma].intercalate (itemTokens items) ++ [.closeArray])
  | .object members =>
    .openObject :: ([Token.comma].intercalate (memberTokens members) ++ [.closeObject])

/-- The tokens of each value. -/
def itemTokens : List Json → List (List Token)
  | [] => []
  | v :: rest => toTokens v :: itemTokens rest

/-- The tokens of each member. -/
def memberTokens : List (Text × Json) → List (List Token)
  | [] => []
  | (key, v) :: rest => (.scalar (.string key) :: .colon :: toTokens v) :: memberTokens rest

end

/-- The tokens of a member. -/
def tokensOfMember (m : Text × Json) : List Token :=
  .scalar (.string m.1) :: .colon :: toTokens m.2

theorem itemTokens_eq (items : List Json) : itemTokens items = items.map toTokens := by
  induction items with
  | nil => rfl
  | cons v rest ih => rw [itemTokens, ih, List.map_cons]

theorem memberTokens_eq (members : List (Text × Json)) :
    memberTokens members = members.map tokensOfMember := by
  induction members with
  | nil => rfl
  | cons m rest ih => rw [memberTokens, ih, List.map_cons, tokensOfMember]

theorem writeItems_eq (indent : Option Nat) (items : List Json) :
    writeItems indent items = items.map (write indent) := by
  induction items with
  | nil => rfl
  | cons v rest ih => rw [writeItems, ih, List.map_cons]

theorem writeMembers_eq (indent : Option Nat) (members : List (Text × Json)) :
    writeMembers indent members =
      members.map fun m => member indent.isSome m.1 (write indent m.2) := by
  induction members with
  | nil => rfl
  | cons m rest ih => rw [writeMembers, ih, List.map_cons]

/-! ### The tokens of a text -/

/-- The text does not go on with a word. -/
def Separated (t : Text) : Prop := ∀ c ∈ t.head?, c.isLower = false

theorem separated_nil : Separated [] := by simp [Separated]

theorem separated_cons {c : Char} (t : Text) (hc : c.isLower = false) : Separated (c :: t) := by
  simpa [Separated] using hc

theorem separated_lineBreak (indent : Option Nat) {t : Text} (ht : Separated t) :
    Separated (lineBreak indent ++ t) := by
  cases indent with
  | none => exact ht
  | some depth => exact separated_cons _ rfl

/-- A character that is a mark or a space is done with at once. -/
theorem tokens_cons (c : Char) (done : List Token) (h : Scan.start c = (done, .between))
    (t : Text) :
    tokens (c :: t) = done ++ tokens t := by
  simp [tokens, Scan.run_cons, Scan.step, h]

theorem tokens_lineBreak (indent : Option Nat) (t : Text) :
    tokens (lineBreak indent ++ t) = tokens t := by
  cases indent with
  | none => rfl
  | some depth =>
    have hspaces (n : Nat) : tokens (List.replicate n ' ' ++ t) = tokens t := by
      induction n with
      | zero => rfl
      | succ n ih =>
        rw [List.replicate_succ, List.cons_append, tokens_cons ' ' [] rfl, List.nil_append, ih]
    rw [lineBreak, List.cons_append, tokens_cons '\n' [] rfl, List.nil_append, hspaces]

theorem tokens_quote (s t : Text) :
    tokens (quote s ++ t) = .scalar (.string s) :: tokens t := by
  simp [tokens, Scan.run_quote]

/-- A word ends where no letter follows. -/
theorem tokens_word (word read : Text) {t : Text}
    (hword : Scan.run .between (word ++ t) = Scan.run (.word read) t) (ht : Separated t) :
    tokens (word ++ t) = Token.ofWord read.reverse :: tokens t := by
  cases t with
  | nil =>
    rw [tokens, hword]
    rfl
  | cons c t =>
    have hc : c.isLower = false := ht c rfl
    rw [tokens, hword]
    simp [tokens, Scan.run_cons, Scan.step, hc]

theorem tokens_null {t : Text} (ht : Separated t) :
    tokens ("null".toList ++ t) = .scalar .null :: tokens t :=
  tokens_word "null".toList "llun".toList rfl ht

theorem tokens_boolText (b : Bool) {t : Text} (ht : Separated t) :
    tokens (boolText b ++ t) = .scalar (.bool b) :: tokens t := by
  cases b with
  | true => exact tokens_word "true".toList "eurt".toList rfl ht
  | false => exact tokens_word "false".toList "eslaf".toList rfl ht

/-- Parts whose tokens are known, with a separator between each two that is scanned as a comma. -/
theorem tokens_intercalate {α : Type} {part : α → Text} {read : α → List Token} {separator : Text}
    (hcomma : ∀ t, tokens (separator ++ t) = .comma :: tokens t)
    (hseparated : ∀ t, Separated (separator ++ t)) {xs : List α}
    (h : ∀ x ∈ xs, ∀ t, Separated t → tokens (part x ++ t) = read x ++ tokens t) {t : Text}
    (ht : Separated t) :
    tokens (separator.intercalate (xs.map part) ++ t) =
      [Token.comma].intercalate (xs.map read) ++ tokens t := by
  induction xs with
  | nil => rfl
  | cons x xs ih =>
    have hx := h x List.mem_cons_self
    have ih' := ih fun y hy => h y (List.mem_cons_of_mem _ hy)
    cases xs with
    | nil => simpa using hx t ht
    | cons y ys =>
      simp only [List.map_cons, List.intercalate_cons_cons, List.append_assoc] at ih' ⊢
      rw [hx _ (hseparated _), hcomma, ih']
      simp

theorem tokens_member (spaced : Bool) (m : Text × Json) {value t : Text}
    (h : tokens (value ++ t) = toTokens m.2 ++ tokens t) :
    tokens (member spaced m.1 value ++ t) = tokensOfMember m ++ tokens t := by
  have hspace : tokens ((if spaced then [' '] else []) ++ (value ++ t)) = tokens (value ++ t) := by
    cases spaced with
    | true => exact tokens_cons ' ' [] rfl _
    | false => rfl
  rw [member, List.append_assoc, List.cons_append, List.append_assoc, tokens_quote,
    tokens_cons ':' [.colon] rfl, hspace, h]
  rfl

/-- Parts between brackets. -/
theorem tokens_block {α : Type} {part : α → Text} {read : α → List Token} {opening closing : Char}
    {first last : Token} (hfirst : Scan.start opening = ([first], .between))
    (hlast : Scan.start closing = ([last], .between)) (hclosing : closing.isLower = false)
    (indent : Option Nat) {xs : List α}
    (h : ∀ x ∈ xs, ∀ t, Separated t → tokens (part x ++ t) = read x ++ tokens t) (t : Text) :
    tokens (block indent opening closing (xs.map part) ++ t) =
      first :: ([Token.comma].intercalate (xs.map read) ++ [last]) ++ tokens t := by
  have hopen (t : Text) : tokens (opening :: t) = first :: tokens t := tokens_cons _ _ hfirst t
  have hclose (t : Text) : tokens (closing :: t) = last :: tokens t := tokens_cons _ _ hlast t
  cases xs with
  | nil =>
    show tokens (opening :: closing :: t) = first :: last :: tokens t
    rw [hopen, hclose]
  | cons x xs =>
    have hcomma (t : Text) :
        tokens (',' :: lineBreak (indent.map (· + 1)) ++ t) = .comma :: tokens t := by
      rw [List.cons_append, tokens_cons ',' [.comma] rfl, tokens_lineBreak]
      rfl
    have hseparated (t : Text) : Separated (',' :: lineBreak (indent.map (· + 1)) ++ t) :=
      separated_cons _ rfl
    have hlines := tokens_intercalate hcomma hseparated h
      (separated_lineBreak indent (separated_cons t hclosing))
    have hblock : block indent opening closing ((x :: xs).map part) ++ t =
        opening :: (lineBreak (indent.map (· + 1)) ++
          ((',' :: lineBreak (indent.map (· + 1))).intercalate ((x :: xs).map part) ++
            (lineBreak indent ++ closing :: t))) := by
      simp [block]
    rw [hblock, hopen, tokens_lineBreak, hlines, tokens_lineBreak, hclose]
    simp

/-- **The text of a value has its tokens**, with space and without. -/
theorem tokens_write {n : Nat} {v : Json} (h : Fits n v) (indent : Option Nat) {t : Text}
    (ht : Separated t) : tokens (write indent v ++ t) = toTokens v ++ tokens t := by
  induction h generalizing indent t with
  | null => exact tokens_null ht
  | bool b => exact tokens_boolText b ht
  | string s => exact tokens_quote s t
  | @array n items h ih =>
    rw [write, writeItems_eq, toTokens, itemTokens_eq]
    exact tokens_block rfl rfl rfl indent (fun v hv t ht => ih v hv _ ht) t
  | @object n members h ih =>
    rw [write, writeMembers_eq, toTokens, memberTokens_eq]
    exact tokens_block rfl rfl rfl indent
      (fun m hm t ht => tokens_member _ m (ih m hm _ ht)) t

/-! ### Reading tokens -/

theorem readValue_openArray {stack : List Frame} {ts : List Token}
    (hs : stack.length < maxDepth) (hts : ∀ rest, ts ≠ .closeArray :: rest) :
    readValue stack (.openArray :: ts) = readValue (.array [] :: stack) ts := by
  rw [readValue]
  · exact if_pos hs
  · exact hts

theorem resume_comma {v : Json} {done : List Json} {stack : List Frame} {ts : List Token}
    (hts : ∀ key rest, ts ≠ .scalar (.string key) :: .colon :: rest) :
    resume v (.array done :: stack) (.comma :: ts) = readValue (.array (v :: done) :: stack) ts := by
  rw [resume]
  exact hts

theorem toTokens_append_ne_close (v : Json) (ts rest : List Token) :
    toTokens v ++ ts ≠ .closeArray :: rest := by
  cases v <;> simp [toTokens]

/-- A value in an array is not taken for the key of an object. -/
theorem toTokens_append_ne_key (v : Json) {ts : List Token} (hts : ∀ rest, ts ≠ .colon :: rest)
    (key : Text) (rest : List Token) :
    toTokens v ++ ts ≠ .scalar (.string key) :: .colon :: rest := by
  cases v with
  | string s => simpa [toTokens] using fun _ => hts rest
  | _ => simp [toTokens]

/-- The tokens of the value are read as it, inside any arrays and objects that are not too many. -/
def ReadsBack (n : Nat) (v : Json) : Prop :=
  ∀ stack rest, stack.length + n ≤ maxDepth →
    readValue stack (toTokens v ++ rest) = resume v stack rest

theorem readValue_items {n : Nat} {stack : List Frame} (hs : stack.length + 1 + n ≤ maxDepth)
    {v : Json} {items : List Json} (h : ∀ w ∈ v :: items, ReadsBack n w) (done : List Json)
    (rest : List Token) :
    readValue (.array done :: stack)
        (toTokens v ++ (items.flatMap fun w => .comma :: toTokens w) ++ .closeArray :: rest) =
      resume (.array (done.reverse ++ v :: items)) stack rest := by
  induction items generalizing v done with
  | nil =>
    rw [List.flatMap_nil, List.append_nil, h v List.mem_cons_self _ _ (by simpa using hs), resume]
    simp
  | cons w items ih =>
    have htail : ∀ u ∈ w :: items, ReadsBack n u := fun u hu => h u (List.mem_cons_of_mem _ hu)
    have hmore (rest' : List Token) :
        (items.flatMap fun w => .comma :: toTokens w) ++ Token.closeArray :: rest ≠
          .colon :: rest' := by
      cases items <;> simp
    rw [List.append_assoc, h v List.mem_cons_self _ _ (by simpa using hs), List.flatMap_cons,
      List.cons_append, List.cons_append, List.append_assoc,
      resume_comma (toTokens_append_ne_key w hmore), ← List.append_assoc, ih htail]
    simp

theorem readValue_members {n : Nat} {stack : List Frame} (hs : stack.length + 1 + n ≤ maxDepth)
    {key : Text} {v : Json} {members : List (Text × Json)}
    (h : ∀ m ∈ (key, v) :: members, ReadsBack n m.2) (done : List (Text × Json))
    (rest : List Token) :
    readValue (.object done key :: stack)
        (toTokens v ++ (members.flatMap fun m => .comma :: tokensOfMember m) ++
          .closeObject :: rest) =
      resume (.object (done.reverse ++ (key, v) :: members)) stack rest := by
  induction members generalizing key v done with
  | nil =>
    have hv : ReadsBack n v := h (key, v) List.mem_cons_self
    rw [List.flatMap_nil, List.append_nil, hv _ _ (by simpa using hs), resume]
    simp
  | cons m members ih =>
    have hv : ReadsBack n v := h (key, v) List.mem_cons_self
    have htail : ∀ m' ∈ (m.1, m.2) :: members, ReadsBack n m'.2 := fun m' hm' =>
      h m' (List.mem_cons_of_mem _ hm')
    rw [List.append_assoc, hv _ _ (by simpa using hs), List.flatMap_cons, tokensOfMember,
      List.cons_append, List.cons_append, List.cons_append, List.cons_append, List.cons_append,
      List.cons_append, resume, ih htail]
    simp

/-- **From its tokens a value is read.** -/
theorem readValue_toTokens {n : Nat} {v : Json} (h : Fits n v) : ReadsBack n v := by
  induction h with
  | null => exact fun stack rest _ => rfl
  | bool b => exact fun stack rest _ => rfl
  | string s => exact fun stack rest _ => rfl
  | @array n items h ih =>
    intro stack rest hs
    have hlt : stack.length < maxDepth := by omega
    cases items with
    | nil =>
      change readValue stack (.openArray :: .closeArray :: rest) = _
      rw [readValue, if_pos hlt]
    | cons v items =>
      have hbound : stack.length + 1 + n ≤ maxDepth := by omega
      have hitems := readValue_items hbound ih [] rest
      rw [toTokens, itemTokens_eq, List.map_cons, intercalate_singleton_cons, List.flatMap_map,
        List.cons_append, List.append_assoc, List.singleton_append, readValue_openArray hlt, hitems]
      · rfl
      · intro ts
        rw [List.append_assoc]
        exact toTokens_append_ne_close v _ ts
  | @object n members h ih =>
    intro stack rest hs
    have hlt : stack.length < maxDepth := by omega
    cases members with
    | nil =>
      change readValue stack (.openObject :: .closeObject :: rest) = _
      rw [readValue, if_pos hlt]
    | cons m members =>
      have hbound : stack.length + 1 + n ≤ maxDepth := by omega
      have hmembers := readValue_members hbound ih [] rest
      rw [toTokens, memberTokens_eq, List.map_cons, intercalate_singleton_cons, List.flatMap_map,
        List.cons_append, List.append_assoc, List.singleton_append, tokensOfMember,
        List.cons_append, List.cons_append, List.cons_append, List.cons_append, readValue,
        if_pos hlt, hmembers]
      rfl

/-! ### Reading texts -/

/-- A text with the tokens of a value is read as it. -/
theorem parse?_of_tokens {n : Nat} {v : Json} {t : Text} (h : Fits n v) (hn : n ≤ maxDepth)
    (ht : tokens t = toTokens v) : parse? t = some v := by
  have hread := readValue_toTokens h [] [] (by simpa using hn)
  rw [List.append_nil] at hread
  rw [parse?, ht, hread]
  rfl

/-- **What is written reads as the value.** -/
theorem parse?_write {n : Nat} {v : Json} (h : Fits n v) (hn : n ≤ maxDepth)
    (indent : Option Nat) : parse? (write indent v) = some v := by
  have ht := tokens_write h indent separated_nil
  rw [List.append_nil] at ht
  exact parse?_of_tokens h hn (ht.trans (List.append_nil _))

/-- **Different values are written differently.** -/
theorem write_inj {n : Nat} {v w : Json} (hv : Fits n v) (hw : Fits n w) (hn : n ≤ maxDepth)
    (indent : Option Nat) : write indent v = write indent w ↔ v = w := by
  refine ⟨fun h => ?_, fun h => h ▸ rfl⟩
  have hread := parse?_write hv hn indent
  rw [h, parse?_write hw hn indent, Option.some.injEq] at hread
  exact hread.symm

/-! ### One line -/

/-- Between two brackets there are commas and parts. -/
theorem space_le_of_mem_block {opening closing c : Char} {pieces : List Text}
    (hopening : ' ' ≤ opening) (hclosing : ' ' ≤ closing)
    (hpieces : ∀ t ∈ pieces, ∀ c ∈ t, ' ' ≤ c) (hc : c ∈ block none opening closing pieces) :
    ' ' ≤ c := by
  have hbracketed : c = opening ∨ c ∈ [','].intercalate pieces ∨ c = closing := by
    unfold block at hc
    split at hc
    · simp only [List.mem_cons, List.not_mem_nil, or_false] at hc
      exact hc.imp_right .inr
    · simpa [lineBreak] using hc
  rcases hbracketed with rfl | hc | rfl
  · exact hopening
  · rcases mem_intercalate_singleton hc with rfl | ⟨t, ht, hct⟩
    · decide
    · exact hpieces t ht c hct
  · exact hclosing

/-- **The text without space has no character below the space.**  So it stands on one line. -/
theorem space_le_of_mem_compact {n : Nat} {v : Json} (h : Fits n v) {c : Char}
    (hc : c ∈ v.compact) : ' ' ≤ c := by
  have hword {t : Text} {c : Char} (ht : t.all (' ' ≤ ·) = true) (hc : c ∈ t) : ' ' ≤ c := by
    simpa using List.all_eq_true.1 ht c hc
  rw [compact] at hc
  induction h generalizing c with
  | null => exact hword (t := "null".toList) (by decide) hc
  | bool b =>
    cases b with
    | true => exact hword (t := "true".toList) (by decide) hc
    | false => exact hword (t := "false".toList) (by decide) hc
  | string s => exact space_le_of_mem_quote hc
  | @array n items h ih =>
    rw [write, writeItems_eq] at hc
    refine space_le_of_mem_block (by decide) (by decide) (fun t ht c hct => ?_) hc
    obtain ⟨v, hv, rfl⟩ := List.mem_map.1 ht
    exact ih v hv hct
  | @object n members h ih =>
    rw [write, writeMembers_eq] at hc
    refine space_le_of_mem_block (by decide) (by decide) (fun t ht c hct => ?_) hc
    obtain ⟨m, hm, rfl⟩ := List.mem_map.1 ht
    rw [member, List.mem_append, List.mem_cons] at hct
    rcases hct with hct | rfl | hct
    · exact space_le_of_mem_quote hct
    · decide
    · exact ih m hm hct

end Json

end BuildCards
