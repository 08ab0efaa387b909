import BuildCards.Fault
import BuildCards.Json.Reader
import BuildCards.Text.Search

/-!
# `ADD` headers

The first line of a recipe says what is added and where it goes.  It is written with an array of
two strings (`AddHeader.text`) and also read in a legacy form, two tokens with a space between
them, in which a backslash lets a blank character belong to a token.

In the legacy form the first token is as long as it can be: of the spaces that may end it, the last
one does (`AddHeader.splitName?`).
-/

namespace BuildCards

/-- What the first line of a recipe says. -/
structure AddHeader where
  /-- What is added. -/
  name : Text
  /-- Where it goes. -/
  path : Text
  /-- The line has the legacy form. -/
  legacy : Bool
  deriving DecidableEq

namespace AddHeader

/-- The word that begins a header. -/
def opening : Text := "ADD ".toList

/-- What stands before every name. -/
def nameMark : Text := "./".toList

/-- What stands before every path. -/
def pathMark : Text := "/".toList

/-! ### The legacy form -/

/-- The first token and what follows the space after it.  `escaped` says that a backslash stands
before the text. -/
def splitName? (escaped : Bool) : Text → Option (Text × Text)
  | [] => none
  | c :: t =>
    if Text.isBlank c && !escaped then if c = ' ' then some ([], t) else none
    else
      match splitName? (c == '\\') t with
      | some (name, rest) => some (c :: name, rest)
      | none => if c = ' ' then some ([], t) else none

/-- The token at the start of a text, up to a blank without a backslash before it. -/
def takePath (escaped : Bool) : Text → Text
  | [] => []
  | c :: t => if Text.isBlank c && !escaped then [] else c :: takePath (c == '\\') t

/-- The two tokens of the legacy form. -/
def splitTokens? (t : Text) : Option (Text × Text) :=
  (splitName? false t).map fun (name, rest) => (name, takePath false rest)

/-! ### Reading and writing -/

/-- The header for these two strings, each without its mark. -/
def ofStrings (name path : Text) (legacy : Bool) : AddHeader :=
  ⟨Text.dropStart nameMark name, Text.dropStart pathMark path, legacy⟩

/-- The header in a line.  What is a JSON value has to be an array of two strings; only what is none
is read in the legacy form. -/
def parse (line : Text) : Except Fault AddHeader :=
  match Text.afterStart? opening line with
  | none => .error (.addLine line)
  | some rest =>
    match Json.parse? rest with
    | some (.array [.string name, .string path]) => .ok (ofStrings name path false)
    | some _ => .error (.addLine line)
    | none =>
      match splitTokens? rest with
      | some (name, path) => .ok (ofStrings name path true)
      | none => .error (.addLine line)

/-- The fault of a line that is no header quotes it. -/
theorem eq_addLine_of_parse {line : Text} {fault : Fault} (h : parse line = .error fault) :
    fault = .addLine line := by
  unfold parse at h
  split at h
  · exact (Except.error.inj h).symm
  · split at h
    · simp at h
    · exact (Except.error.inj h).symm
    · split at h
      · simp at h
      · exact (Except.error.inj h).symm

/-- The line that adds `name` at `path`. -/
def text (name path : Text) : Text :=
  opening ++
    ('[' :: Json.quote (nameMark ++ name) ++ ", ".toList ++ Json.quote (pathMark ++ path) ++ [']'])

/-- The line with an array of these two strings. -/
def arrayText (first second : Text) : Text :=
  "ADD [".toList ++ (Json.quote first ++ (", ".toList ++ (Json.quote second ++ "]".toList)))

/-- What is written is an array of the name and the path, each with its mark. -/
theorem text_eq (name path : Text) : text name path =
    "ADD [".toList ++ (Json.quote ("./".toList ++ name) ++ (", ".toList ++
      (Json.quote ("/".toList ++ path) ++ "]".toList))) := by
  simp [text, opening, nameMark, pathMark]

/-! ### Reading what was written -/

open Json

/-- An array of two quoted strings reads as just that. -/
theorem parse?_quotes (a b : Text) :
    Json.parse? ('[' :: quote a ++ ", ".toList ++ quote b ++ [']']) =
      some (.array [.string a, .string b]) := by
  have h : tokens ('[' :: quote a ++ ", ".toList ++ quote b ++ [']']) =
      [.openArray, .scalar (.string a), .comma, .scalar (.string b), .closeArray] := by
    simp [tokens, Scan.run_cons, Scan.step, Scan.start, Scan.run_quote, Scan.isSpace, Scan.run,
      Scan.finish]
  rw [Json.parse?, h]
  simp [readValue, resume, maxDepth]

theorem parse_arrayText (first second : Text) :
    parse (arrayText first second) = .ok (ofStrings first second false) := by
  have hopening : arrayText first second =
      opening ++ ('[' :: quote first ++ ", ".toList ++ quote second ++ [']']) := by
    simp [arrayText, opening]
  rw [hopening, parse, Text.afterStart?_append]
  simp only [parse?_quotes]

/-- Reading undoes writing. -/
theorem parse_text (name path : Text) : parse (text name path) = .ok ⟨name, path, false⟩ := by
  have hmarks : ofStrings (nameMark ++ name) (pathMark ++ path) false = ⟨name, path, false⟩ := by
    simp [ofStrings, Text.dropStart]
  rw [text_eq, ← hmarks]
  exact parse_arrayText _ _

/-- Headers for other names or paths are other lines. -/
theorem text_inj {name name' path path' : Text} :
    text name path = text name' path' ↔ name = name' ∧ path = path' := by
  constructor
  · intro h
    have hparse := congrArg parse h
    rw [parse_text, parse_text, Except.ok.injEq, AddHeader.mk.injEq] at hparse
    exact ⟨hparse.1, hparse.2.1⟩
  · rintro ⟨rfl, rfl⟩
    rfl

/-! ### The line that is written -/

theorem space_le_of_mem_arrayText {first second : Text} {c : Char}
    (h : c ∈ arrayText first second) :
    ' ' ≤ c := by
  have hopening : "ADD [".toList.all (' ' ≤ ·) = true := by decide
  have hcomma : ", ".toList.all (' ' ≤ ·) = true := by decide
  have hclosing : "]".toList.all (' ' ≤ ·) = true := by decide
  simp only [arrayText, List.mem_append] at h
  rcases h with h | h | h | h | h
  · exact of_decide_eq_true (List.all_eq_true.1 hopening c h)
  · exact space_le_of_mem_quote h
  · exact of_decide_eq_true (List.all_eq_true.1 hcomma c h)
  · exact space_le_of_mem_quote h
  · exact of_decide_eq_true (List.all_eq_true.1 hclosing c h)

/-- Whatever is added, the line has no character below the space. -/
theorem space_le_of_mem_text {name path : Text} {c : Char} (h : c ∈ text name path) : ' ' ≤ c := by
  rw [text_eq] at h
  exact space_le_of_mem_arrayText h

theorem newline_notMem_text (name path : Text) : '\n' ∉ text name path := fun h =>
  absurd (space_le_of_mem_text h) (by decide)

theorem text_ne_nil (name path : Text) : text name path ≠ [] := List.cons_ne_nil _ _

theorem trim_text (name path : Text) : Text.trim (text name path) = text name path := by
  have hsplit : text name path = opening ++
      ('[' :: quote (nameMark ++ name) ++ ", ".toList ++ quote (pathMark ++ path) ++ [']']) := rfl
  rw [hsplit]
  refine Text.trim_append_of_trimmed rfl ?_ (List.cons_ne_nil _ _) (List.cons_ne_nil _ _)
  exact Text.trimEnd_append (by decide)

end AddHeader

end BuildCards
