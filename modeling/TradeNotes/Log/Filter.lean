import TradeNotes.Log.Directive

namespace TradeNotes.Log

/-- A filter is the list of its directives. -/
abbrev Filter := List Directive

namespace Filter

/-- Reads a filter: directives with commas between them. Without any, errors pass. -/
def ofText? (t : Text) : Option Filter := do
  let parts := (t.splitOnP (· == ',')).filter (!·.isEmpty)
  let directives ← parts.mapM Directive.ofText?
  return if directives.isEmpty then [{ limit := Level.error.rank }] else directives

/-- Whether an event passes. The most special directive that is about the event
    decides, of equally special ones the last. -/
def passes (f : Filter) (e : Event) : Bool :=
  let choose (best : Option Directive) (d : Directive) : Option Directive :=
    if d.isStatic && d.concerns e && best.all d.overrides then some d else best
  match f.foldl choose none with
  | some d => e.level.rank ≤ d.limit
  | none => false

end Filter

end TradeNotes.Log
