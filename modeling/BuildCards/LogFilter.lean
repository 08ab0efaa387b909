import BuildCards.Event

/-!
# Filters of the log

A filter of the log is a list of *directives*.  A directive selects events by the part of the
program that reports them and by a field they have, and gives the least level at which they are
shown.  Of all directives that select an event the most specific one decides
(`LogFilter.directiveFor?`), and an event that none selects is not shown.
-/

namespace BuildCards

/-- What is shown of some events. -/
structure Directive where
  /-- What the names of their origins begin with; without it all origins are meant. -/
  origin : Option Text := none
  /-- A field that they have. -/
  field : Option Text := none
  /-- The least level that is shown; without it none is. -/
  limit : Option Level
  /-- Only what happens inside of spans is meant.  This program has no spans. -/
  onlySpans : Bool := false
  deriving DecidableEq

namespace Directive

variable (d : Directive)

/-- The directive is about the event. -/
def selects (e : Event) : Bool :=
  !d.onlySpans && (d.origin.all fun o => o.isPrefixOf e.origin) &&
    d.field.all fun f => e.fieldNames.contains f

/-- The directive lets events of this level through. -/
def admits (level : Level) : Bool := d.limit.any fun limit => level.rank ≤ limit.rank

/-- How much of the origin the directive gives. -/
def originWeight : Nat :=
  match d.origin with
  | none => 0
  | some o => o.length + 1

/-- Of two directives about one event, `d` is at least as specific as `other`: it gives more of the
origin or, with as much of it, a field or a field whose name comes later. -/
def atLeastAsSpecific (other : Directive) : Bool :=
  if d.originWeight = other.originWeight then
    match other.field, d.field with
    | none, _ => true
    | some _, none => false
    | some f, some g => !g.lex f (· < ·)
  else decide (other.originWeight < d.originWeight)

end Directive

/-- What is shown of all events. -/
abbrev LogFilter := List Directive

namespace LogFilter

/-- The filter that shows all events of a level and those that matter more. -/
def upTo (level : Level) : LogFilter := [{ limit := some level }]

/-- The directive that decides about an event: the most specific one, the last of several. -/
def directiveFor? (filter : LogFilter) (e : Event) : Option Directive :=
  (filter.filter (·.selects e)).foldl choose none
where
  /-- The more specific of two directives, the second if they are equally so. -/
  choose : Option Directive → Directive → Option Directive
    | none, d => some d
    | some other, d => some (if d.atLeastAsSpecific other then d else other)

/-- The filter shows the event. -/
def shows (filter : LogFilter) (e : Event) : Bool :=
  (directiveFor? filter e).any (·.admits e.level)

theorem shows_upTo (level : Level) (e : Event) :
    shows (upTo level) e = decide (e.level.rank ≤ level.rank) := by
  simp [shows, directiveFor?, directiveFor?.choose, upTo, Directive.selects, Directive.admits]

end LogFilter

end BuildCards
