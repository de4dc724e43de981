/-!
# The journal

What the program reports about its own work, next to its results. A notice has a level and the area
of the program that it comes from.
-/

namespace I2cTopology

/-- How much a notice matters, from most to least. -/
inductive Level where
  | error
  | warn
  | info
  | debug
  deriving DecidableEq, Repr

namespace Level

/-- The position in the order from the most important level to the most detailed one. -/
def rank : Level → Nat
  | error => 0
  | warn => 1
  | info => 2
  | debug => 3

/-- The name of a level in a journal line. -/
def name : Level → String
  | error => "ERROR"
  | warn => "WARN"
  | info => "INFO"
  | debug => "DEBUG"

/-- Is a notice of this level recorded when `limit` is the most detailed level asked for? -/
def within (limit level : Level) : Bool :=
  level.rank ≤ limit.rank

end Level

/-- The part of the program that a notice comes from. -/
inductive Area where
  | config
  | context
  | control
  | handle
  | matching
  | scan
  | tree
  deriving DecidableEq, Repr

/-- The name of an area in a journal line. -/
def Area.target : Area → String
  | config => "i2cdiscov::config"
  | context => "i2cdiscov::context"
  | control => "i2cdiscov::devctl"
  | handle => "i2cdiscov::handle"
  | matching => "i2cdiscov::matcher"
  | scan => "i2cdiscov::scan"
  | tree => "i2cdiscov::tree"

/-- One entry of the journal. -/
structure Notice where
  level : Level
  area : Area
  message : String
  deriving DecidableEq, Repr

end I2cTopology
