/-!
# Log events

An event carries a level, a message and fields, and lies in the spans that enclose it, from the
outside in. A logger answers a span for the name of a component, or none if it is disabled.
-/

namespace CloudQueue

inductive Level where
  | debug
  | info
  deriving DecidableEq, Repr

def Level.text : Level → String
  | .debug => "DEBUG"
  | .info => "INFO"

inductive FieldValue where
  | flag (b : Bool)
  | text (s : String)
  deriving DecidableEq, Repr

/-- A named stretch of work that events lie in. -/
structure Span where
  name : String
  fields : List (String × String)
  deriving DecidableEq, Repr

structure Event where
  level : Level
  message : String
  fields : List (String × FieldValue)
  spans : List Span := []
  deriving DecidableEq, Repr

/-- The event as it is recorded inside a span; a disabled span adds nothing. -/
def Event.within (span : Option Span) (e : Event) : Event :=
  { e with spans := span.toList ++ e.spans }

/-- Hands out a span for the name of a component, or none if it is disabled. -/
structure Logger where
  span? : String → Option Span

def Logger.standard : Logger := ⟨fun name => some ⟨"plugin", [("name", name)]⟩⟩

@[simp] theorem Event.spans_within (span : Option Span) (e : Event) :
    (e.within span).spans = span.toList ++ e.spans := rfl

end CloudQueue
