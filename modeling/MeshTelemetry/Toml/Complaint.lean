import MeshTelemetry.Text.Utf8
import MeshTelemetry.Toml.Basic

/-!
Complaints about a place in a text: the line and column, the line itself with the place marked
under it, and the cause.
-/

namespace MeshTelemetry.Toml

/-- The line that a place falls into, its number counted from zero, and the number of characters
before the place in it. -/
structure Spot where
  line : Nat
  column : Nat
  content : List Char
deriving Repr

/-- The spot `offset` characters behind the beginning of a text. -/
def spotAt (text : List Char) (offset : Nat) : Spot :=
  let before := text.take offset
  let head := (before.reverse.takeWhile (· ≠ '\n')).reverse
  ⟨before.count '\n', head.length, head ++ (text.drop offset).takeWhile (· ≠ '\n')⟩

/-- How many marks stand under a place of a line: one for each byte of the place that is inside
the line, and at least one. -/
def markCount (text : List Char) (span : Span) (spot : Spot) : Nat :=
  let bytes := fun cs => Text.byteLength (String.ofList cs)
  let place := (text.drop span.start).take (span.stop - span.start)
  max 1 (min (bytes place) (bytes spot.content - spot.column))

/-- `count` blanks. -/
def blankText (count : Nat) : String :=
  String.ofList (List.replicate count ' ')

/-- The complaint about a place in a text. -/
def complaint (text : String) (span : Span) (cause : String) : String :=
  let chars := text.toList
  let spot := spotAt chars span.start
  let number := toString (spot.line + 1)
  let margin := blankText (number.length + 1) ++ "|"
  let marks := String.ofList (List.replicate (markCount chars span spot) '^')
  "TOML parse error at line " ++ number ++ ", column " ++ toString (spot.column + 1) ++ "\n" ++
    margin ++ "\n" ++
    number ++ " | " ++ String.ofList spot.content ++ "\n" ++
    margin ++ blankText (spot.column + 1) ++ marks ++ "\n" ++
    cause ++ "\n"

end MeshTelemetry.Toml
