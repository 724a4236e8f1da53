import MeshTelemetry.Log.Directive
import MeshTelemetry.Text.Split

/-!
Which log events are kept.

A filter is written as directives with commas between them. For an event, of the directives that
speak about it the one with the longest target decides, and of two with one target and one scope the
later one. What no directive speaks about is not kept.
-/

namespace MeshTelemetry.Log

/-- Directives in the order in which they were given. -/
abbrev Filter := List Directive

/-- The texts between commas, without empty ones. -/
def directiveTexts (text : String) : List (List Char) :=
  (Text.parts ',' text.toList).filter (· ≠ [])

/-- Read a filter; any directive that is not well formed spoils it. -/
def Filter.parse? (text : String) : Option Filter :=
  ((directiveTexts text).mapM Directive.read).toOption

/-- Read a filter and leave out what is not well formed. Errors are kept if nothing is left. -/
def Filter.ofText (text : String) : Filter :=
  match (directiveTexts text).filterMap fun t => (Directive.read t).toOption with
  | [] => [⟨none, .all, some .error⟩]
  | directives => directives

/-- What is said about the directives of a filter that are not well formed. -/
def Filter.complaints (text : String) : List String :=
  (directiveTexts text).filterMap fun t =>
    match Directive.read t with
    | .ok _ => none
    | .error c => some ("ignoring `" ++ String.ofList t ++ "`: " ++ c.message)

/-- The directive that decides about an event. -/
def Filter.governing? (f : Filter) (e : Event) : Option Directive :=
  (f.filter fun d => d.applies e).foldl
    (fun best d => if best.all fun b => b.yieldsTo d then some d else best) none

/-- The filter keeps an event. -/
def Filter.keeps (f : Filter) (e : Event) : Bool :=
  (f.governing? e).any fun d => d.threshold.admits e.level

end MeshTelemetry.Log
