import BuildCards.Text.Basic

/-!
# Instructions

The thirteen instructions that may begin a line of a build step.  A keyword is recognised in any
mix of upper and lower case ASCII letters and is always written in upper case.
-/

namespace BuildCards

/-- An instruction of a build step. -/
inductive Instruction
  | cmd
  | from
  | maintainer
  | run
  | expose
  | env
  | add
  | entrypoint
  | volume
  | user
  | workdir
  | onbuild
  | copy
  deriving DecidableEq

namespace Instruction

/-- All instructions. -/
def all : List Instruction :=
  [cmd, .from, maintainer, run, expose, env, add, entrypoint, volume, user, workdir, onbuild, copy]

/-- The keyword of an instruction. -/
def keyword : Instruction → Text
  | cmd => "CMD".toList
  | .from => "FROM".toList
  | maintainer => "MAINTAINER".toList
  | run => "RUN".toList
  | expose => "EXPOSE".toList
  | env => "ENV".toList
  | add => "ADD".toList
  | entrypoint => "ENTRYPOINT".toList
  | volume => "VOLUME".toList
  | user => "USER".toList
  | workdir => "WORKDIR".toList
  | onbuild => "ONBUILD".toList
  | copy => "COPY".toList

theorem mem_all (i : Instruction) : i ∈ all := by cases i <;> decide

/-- The instruction with this keyword, in any case of its letters. -/
def ofKeyword? (word : Text) : Option Instruction :=
  all.find? fun i => i.keyword == word.map Char.toUpper

theorem ofKeyword?_keyword (i : Instruction) : ofKeyword? i.keyword = some i := by
  cases i <;> rfl

theorem keyword_injective {i j : Instruction} (h : i.keyword = j.keyword) : i = j := by
  have := congrArg ofKeyword? h
  rwa [ofKeyword?_keyword, ofKeyword?_keyword, Option.some_inj] at this

theorem ofKeyword?_eq_some_iff {word : Text} {i : Instruction} :
    ofKeyword? word = some i ↔ word.map Char.toUpper = i.keyword := by
  constructor
  · intro h
    have := List.find?_some h
    exact (by simpa using this : i.keyword = _).symm
  · intro h
    cases hf : ofKeyword? word with
    | none =>
      have := List.find?_eq_none.1 hf i (mem_all i)
      simp [h] at this
    | some j =>
      have := List.find?_some hf
      rw [h] at this
      exact congrArg some (keyword_injective (by simpa using this))

end Instruction

end BuildCards
