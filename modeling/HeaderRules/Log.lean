/-!
# Log entries

What the rule engine reports while it works. Every entry has a level and a line of text that begins
with the name of the engine.
-/

namespace HeaderRules.Log

inductive Level
  | debug
  | info
  | warning
  | error
deriving DecidableEq, Repr

namespace Level

def name : Level → String
  | debug => "DEBUG"
  | info => "INFO"
  | warning => "WARNING"
  | error => "ERROR"

/-- The rank of a level; a threshold lets through the entries of its rank or above. -/
def rank : Level → Int
  | debug => 10
  | info => 20
  | warning => 30
  | error => 40

end Level

structure Entry where
  level : Level
  message : String
deriving DecidableEq, Repr

def Entry.text (e : Entry) : String := "ChHeader: " ++ e.message

def debug (message : String) : Entry := ⟨.debug, message⟩

def info (message : String) : Entry := ⟨.info, message⟩

def warning (message : String) : Entry := ⟨.warning, message⟩

def error (message : String) : Entry := ⟨.error, message⟩

end HeaderRules.Log
