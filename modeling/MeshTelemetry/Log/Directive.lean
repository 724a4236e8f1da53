import MeshTelemetry.Event
import MeshTelemetry.Text.Alphanumeric
import MeshTelemetry.Text.Blank
import MeshTelemetry.Text.Natural
import MeshTelemetry.Text.Utf8

/-!
What a log filter says about some of the events.

A directive is a level for all targets, `target=level` for the targets that begin with a text, or
a target alone for everything of it. Behind the target, or instead of it, brackets may narrow it to
the events that carry a field, `[{field}]`, or to what happens inside of spans, `[span]`. The
program opens no spans.
-/

namespace MeshTelemetry.Log

/-! ## Thresholds -/

/-- The least severe level that is kept; nothing is kept without one. -/
abbrev Threshold := Option Level

/-- Events of this level are kept. -/
def Threshold.admits (t : Threshold) (level : Level) : Bool :=
  t.any fun least => level.rank ≤ least.rank

/-- Everything is kept. -/
def Threshold.everything : Threshold :=
  some .trace

/-- The threshold of a number from zero, nothing, to five, everything. -/
def Threshold.ofNat? : Nat → Option Threshold
  | 0 => some none
  | 1 => some (some .error)
  | 2 => some (some .warn)
  | 3 => some (some .info)
  | 4 => some (some .debug)
  | 5 => some (some .trace)
  | _ => none

/-- The threshold of a name in lower case. -/
def Threshold.ofName? (name : String) : Option Threshold :=
  if name = "off" then some none
  else if name = "error" then some (some .error)
  else if name = "warn" then some (some .warn)
  else if name = "info" then some (some .info)
  else if name = "debug" then some (some .debug)
  else if name = "trace" then some (some .trace)
  else none

/-- The threshold that a text names, as a number or by name in any case. -/
def Threshold.parse? (text : List Char) : Option Threshold :=
  match Text.readNatural 0xffffffffffffffff text with
  | .ok n => Threshold.ofNat? n
  | .error _ => Threshold.ofName? (String.ofList (text.map Char.toLower))

/-! ## Directives -/

/-- What a directive speaks about among the events of its targets. -/
inductive Scope
  /-- Every event. -/
  | all
  /-- The events that carry a field. -/
  | carrying (field : String)
  /-- What happens inside of spans, and so no event. -/
  | spans
deriving Repr, DecidableEq

/-- An event is within the scope. The message counts as a field. -/
def Scope.covers (e : Event) : Scope → Bool
  | .all => true
  | .carrying field => field = "message" || e.fields.any fun (name, _) => name = field
  | .spans => false

/-- The field that a scope asks for, empty if it asks for none. -/
def Scope.field : Scope → String
  | .all => ""
  | .carrying field => field
  | .spans => ""

/-- A threshold for all targets, or for those that begin with a text, within a scope. -/
structure Directive where
  target : Option String
  scope : Scope
  threshold : Threshold
deriving Repr, DecidableEq

/-- A directive speaks about an event. -/
def Directive.applies (d : Directive) (e : Event) : Bool :=
  d.scope.covers e && d.target.all fun start => start.toList.isPrefixOf e.target.toList

/-- The length of the target of a directive in bytes; any target counts more than none. -/
def Directive.weight (d : Directive) : Nat :=
  d.target.elim 0 fun start => Text.byteLength start + 1

/-- The first directive gives way to the second: that one has the longer target or, with one of the
same length, asks for the same field or one that is later in the order of texts. -/
def Directive.yieldsTo (d other : Directive) : Bool :=
  d.weight < other.weight || (d.weight = other.weight && decide (d.scope.field ≤ other.scope.field))

/-! ## Reading -/

/-- Why a text is no directive. -/
inductive Complaint
  | malformed
  | unknownLevel
deriving Repr, DecidableEq

def Complaint.message : Complaint → String
  | .malformed => "invalid filter directive"
  | .unknownLevel => "error parsing level filter: expected one of \"off\", \"error\", \"warn\", " ++
      "\"info\", \"debug\", \"trace\", or a number 0-5"

/-- A character that the target of a directive may begin with. -/
def opensTarget (c : Char) : Bool :=
  Text.isAlphanumeric c || c = '-' || c = ':' || c = '_'

/-- The scope that brackets describe, behind the opening one, and the text behind the closing one. A
field for which a value is asked is one of a span. -/
def readBrackets (text : List Char) : Except Complaint (Scope × List Char) :=
  let inName := fun c => c ≠ ']' && c ≠ '\x7b'
  let span := text.takeWhile inName
  match text.dropWhile inName with
  | ']' :: rest => .ok (.spans, rest)
  | '\x7b' :: inner =>
    let field := inner.takeWhile (· ≠ '\x7d')
    match inner.dropWhile (· ≠ '\x7d') with
    | '\x7d' :: ']' :: rest =>
      if field = [] then .error .malformed
      else if span = [] ∧ '=' ∉ field then .ok (.carrying (String.ofList field), rest)
      else .ok (.spans, rest)
    | _ => .error .malformed
  | _ => .error .malformed

/-- A directive cut into its parts: the target, which may be empty, what is said in brackets, and
the text of the level. -/
structure Parts where
  target : List Char
  scope : Option Scope
  level : Option (List Char)
deriving Repr, DecidableEq

/-- What stands behind the equals sign, if there is one; else nothing but blanks may be left. -/
def levelText (rest : List Char) : Except Complaint (Option (List Char)) :=
  match rest with
  | '=' :: level => .ok (some level)
  | _ => if rest.all Text.isBlank then .ok none else .error .malformed

/-- Cut a directive that no blank stands in front of. -/
def Parts.ofText (text : List Char) : Except Complaint Parts := do
  let inTarget := fun c => c ≠ '=' && c ≠ '['
  let target := text.takeWhile inTarget
  if (target ++ text.dropWhile inTarget).head?.any fun c => c = '[' || opensTarget c then
    match text.dropWhile inTarget with
    | '[' :: inner =>
      let (scope, rest) ← readBrackets inner
      return ⟨target, some scope, ← levelText rest⟩
    | rest => return ⟨target, none, ← levelText rest⟩
  else .error .malformed

/-- The threshold of a level behind an equals sign; everything is kept if it is empty. -/
def readLevel (level : List Char) : Except Complaint Threshold :=
  if level = [] then .ok .everything
  else
    match Threshold.parse? level with
    | some t => .ok t
    | none => .error .unknownLevel

/-- Read a directive. Blanks in front of it count as part of its target, so that brackets behind
them concern no event, and no level can be given behind them. -/
def Directive.read (text : List Char) : Except Complaint Directive := do
  let indented := text.head?.any Text.isBlank
  let parts ← Parts.ofText (text.dropWhile Text.isBlank)
  let target := if parts.target = [] then none else some (String.ofList parts.target)
  match parts.scope, parts.level with
  | _, some level =>
    if indented then .error .unknownLevel
    else return ⟨target, parts.scope.getD .all, ← readLevel level⟩
  | some scope, none => return ⟨target, if indented then .spans else scope, .everything⟩
  | none, none =>
    match Threshold.parse? text with
    | some t => return ⟨none, .all, t⟩
    | none => return ⟨some (String.ofList text), .all, .everything⟩

end MeshTelemetry.Log
