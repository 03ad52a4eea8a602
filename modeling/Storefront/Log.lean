/-!
# Log lines
-/

namespace Storefront

/-- How much a log line matters. -/
inductive Level where
  | trace
  | debug
  | info
  | warn
  | error
deriving DecidableEq, Repr

/-- The word for a level. -/
def Level.word : Level -> String
  | trace => "trace"
  | debug => "debug"
  | info => "info"
  | warn => "warn"
  | error => "error"

/-- One log line. -/
structure LogLine where
  level : Level
  text : String
deriving DecidableEq, Repr

end Storefront
