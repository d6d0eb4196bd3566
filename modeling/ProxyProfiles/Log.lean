/-!
# Log records

What happens on the way is reported as records, in order. A record has a level and a text.
-/

namespace ProxyProfiles

/-- How important a record is. -/
inductive Level where
  | debug
  | info
  | warn
deriving DecidableEq, Repr

/-- The name of a level. -/
def Level.name : Level → String
  | debug => "DEBUG"
  | info => "INFO"
  | warn => "WARN"

/-- A report of something that happened. -/
structure Record where
  /-- How important it is. -/
  level : Level
  /-- What happened. -/
  text : String
deriving DecidableEq, Repr

namespace Record

/-- A record of a detail. -/
def debug (text : String) : Record := ⟨.debug, text⟩

/-- A record of a change. -/
def info (text : String) : Record := ⟨.info, text⟩

/-- A record of a failure. -/
def warn (text : String) : Record := ⟨.warn, text⟩

/-- A record on one line. -/
def line (r : Record) : String := r.level.name ++ " " ++ r.text

end Record

end ProxyProfiles
