/-!
Lines of the log that an operation writes, in order.
-/

namespace Rulebook

inductive Severity where
  | debug
  | info
  | warning
  | error
  deriving DecidableEq, Repr

def Severity.name : Severity → String
  | debug => "DEBUG"
  | info => "INFO"
  | warning => "WARNING"
  | error => "ERROR"

structure LogLine where
  severity : Severity
  message : String
  deriving DecidableEq, Repr

end Rulebook
