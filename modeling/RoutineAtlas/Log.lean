/-!
# Log entries

What an index reports about failures that are no problem of any source text.
-/

namespace RoutineAtlas

/-- How grave a log entry is. -/
inductive LogSeverity where
  | info
  | warning
  | error
deriving DecidableEq, Repr

/-- A log entry, with a message for the user if it deserves attention. -/
structure LogEntry where
  content : String
  severity : LogSeverity
  alert : Option String
deriving DecidableEq, Repr

namespace LogEntry

/-- An entry without a message for the user. -/
def quiet (severity : LogSeverity) (content : String) : LogEntry :=
  ⟨content, severity, none⟩

/-- The entry with a message for the user. -/
def withAlert (e : LogEntry) (alert : String) : LogEntry :=
  { e with alert := some alert }

end LogEntry

end RoutineAtlas
