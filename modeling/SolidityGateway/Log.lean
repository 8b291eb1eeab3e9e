import SolidityGateway.Text.Decimal

/-!
Log records: a level, the name of the logger and a message. The trace of an exception that is written
below a record is left out.
-/

namespace SolidityGateway

/-- How much a record matters. -/
inductive LogLevel
  | info
  | error
deriving DecidableEq

namespace LogLevel

def word : LogLevel → String
  | info => "INFO"
  | error => "ERROR"

/-- The rank of a level; loggers let pass what is not below theirs. -/
def rank : LogLevel → Nat
  | info => 20
  | error => 40

end LogLevel

structure LogRecord where
  level : LogLevel
  logger : String
  message : Text
deriving DecidableEq

def LogRecord.line (record : LogRecord) : Text :=
  record.level.word ++ (":     " : Text) ++ record.logger ++ " - " ++ record.message ++ "\n"

end SolidityGateway
