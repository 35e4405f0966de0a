import CatalogTypes.Text

/-! # Log

What a run reports, in order. Only the level and the message of an entry are kept.
-/
namespace CatalogTypes

inductive LogLevel where
  | debug
  | info
  | warning
  | error
  deriving DecidableEq, Repr

def LogLevel.name : LogLevel → Text
  | .debug => "DEBUG"
  | .info => "INFO"
  | .warning => "WARNING"
  | .error => "ERROR"

structure LogEntry where
  level : LogLevel
  message : Text
  deriving DecidableEq, Repr

abbrev Log := List LogEntry

end CatalogTypes
