import BuildCards.Proofs.Rendering

/-!
# The text of a header

A header is written by one piece of code, which puts marks before a name and a path and quotes them,
and read by another, which reads any JSON text and takes the marks off.  Every name and every path
come back, also those that hold quotes or line feeds or begin with a mark themselves.

**Main theorem** (`AddHeader.parse_written`).  Reading a header that was written gives the name and
the path, and the header stands on one line, since it has no character below the space.  So the line
after the start marker of every block of a recipe gives the name and the path as they are written.
-/

namespace BuildCards

namespace Recipe

variable (r : Recipe) (kind : Kind)

/-- The text of a recipe begins with its header, which has a piece for itself. -/
theorem exists_splitOn_content : ∃ rest, (r.content kind).splitOn '\n' =
    AddHeader.text r.renderedName (r.renderedPath kind) :: rest := by
  have hheader := List.splitOn_eq_singleton
    (AddHeader.newline_notMem_text r.renderedName (r.renderedPath kind))
  by_cases h : (r.renderedLines kind).isEmpty = true
  · refine ⟨[], ?_⟩
    rw [content, if_pos h, List.append_nil, hheader]
  · have hmark : "\nWORKDIR /".toList = '\n' :: "WORKDIR /".toList := by decide
    refine ⟨("WORKDIR /".toList ++ r.renderedPath kind ++
      '\n' :: Text.joinLines (r.renderedLines kind)).splitOn '\n', ?_⟩
    rw [content, if_neg h, hmark, List.cons_append, List.cons_append, Text.splitOn_newline_append,
      hheader, List.singleton_append]

/-- The line after the start marker is the header. -/
theorem exists_lines_render : ∃ rest, Text.lines (r.render kind) =
    Block.startLine kind :: AddHeader.text r.renderedName (r.renderedPath kind) :: rest := by
  obtain ⟨rest, hrest⟩ := r.exists_splitOn_content kind
  have hreturn := Text.dropReturn_eq_self
    (Text.trimEnd_of_trim (AddHeader.trim_text r.renderedName (r.renderedPath kind)))
  refine ⟨rest.map Text.dropReturn ++ [Block.endMarker], ?_⟩
  rw [render, Block.lines_wrap, hrest, List.map_cons, hreturn, List.cons_append]

end Recipe

/-- **Headers come back.**  A header that was written, of whatever name and path, is read as an
array with just these, and has no character below the space.  The first line in the block of a
recipe is such a header. -/
theorem AddHeader.parse_written :
    (∀ name path line : Text, line = "ADD [".toList ++ (Json.quote ("./".toList ++ name) ++
        (", ".toList ++ (Json.quote ("/".toList ++ path) ++ "]".toList))) →
      parse line = .ok ⟨name, path, false⟩ ∧ ∀ c ∈ line, ' ' ≤ c) ∧
    ∀ (r : Recipe) (kind : Kind), ∃ line rest,
      Text.lines (r.render kind) = Block.startLine kind :: line :: rest ∧
        parse line = .ok ⟨Text.trim r.name,
          Text.trim (kind.defaultPath (Text.trim r.name) r.path), false⟩ := by
  constructor
  · intro name path line hline
    rw [hline, ← text_eq]
    exact ⟨parse_text name path, fun _ => space_le_of_mem_text⟩
  · intro r kind
    obtain ⟨rest, hrest⟩ := r.exists_lines_render kind
    exact ⟨_, rest, hrest, parse_text _ _⟩

/-- Only one mark is taken off. -/
example : AddHeader.parse "ADD [\"././\\\"\\n\", \"/\"]".toList =
    .ok ⟨"./\"\n".toList, [], false⟩ := by decide +kernel

end BuildCards
