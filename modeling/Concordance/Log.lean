import Concordance.Decimal.Style
import Concordance.Text.Quoted

/-!
# Log events

An event has a level, a message, and fields that are written behind the message.
-/

namespace Concordance

/-- How much detail an event is. -/
inductive Level where
  | warn
  | info
  | debug
  | trace
  deriving DecidableEq, Repr

namespace Level

/-- The name of a level in a log. -/
def name : Level → String
  | warn => "WARN"
  | info => "INFO"
  | debug => "DEBUG"
  | trace => "TRACE"

/-- Levels with more detail have larger numbers. -/
def detail : Level → Nat
  | warn => 0
  | info => 1
  | debug => 2
  | trace => 3

end Level

/-- Something worth noting. -/
structure Event where
  level : Level
  message : String
  fields : List (String × String)
  deriving DecidableEq, Repr

namespace Event

/-- The line of an event. -/
def text (e : Event) : String :=
  e.level.name ++ " " ++ e.message ++
    String.join (e.fields.map fun (name, value) => " " ++ name ++ "=" ++ value)

/-- The events that a log with the given level shows. -/
def shown (level : Level) (events : List Event) : List Event :=
  events.filter fun e => decide (e.level.detail ≤ level.detail)

/-! ## Values of fields -/

/-- A text between quotes. -/
def quotedField (s : String) : String := String.ofList (Text.quoted s.toList)

/-- A double as it stands in a program text. -/
def floatField (x : Binary64) : String := String.ofList x.literalText

/-- A number that may be missing. -/
def optionField : Option Nat → String
  | some n => "Some(" ++ toString n ++ ")"
  | none => "None"

end Event
end Concordance
