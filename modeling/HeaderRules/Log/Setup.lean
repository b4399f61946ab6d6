import HeaderRules.Log
/-!
# Setting up the log

The engine runs inside a proxy, which shows log entries by itself, or on its own, and then prints
them. Setting up the log twice changes nothing the second time.
-/

namespace HeaderRules.Log

/-- The state of the log of a process: the lowest rank that is let through, with zero for a log
that nobody has set up, the number of outputs, whether one of them is the engine's own, the lowest
rank let through of the proxy's own entries, and whether the engine has reported that it set up the
log. -/
structure Setup where
  threshold : Int
  outputs : Nat
  printed : Bool
  proxyThreshold : Int
  announced : Bool
deriving DecidableEq, Repr

/-- The name under which the engine writes its entries. -/
def channel : String := "chheader"

/-- Whether a process with the given arguments is a proxy, which shows log entries by itself. -/
def isProxy (arguments : List String) : Bool :=
  arguments.any fun a => "mitm".toList.isPrefixOf a.toList

namespace Setup

def admits (s : Setup) (e : Entry) : Bool := s.threshold ≤ e.level.rank

def prepare (arguments : List String) (s : Setup) : Setup × List Entry :=
  let adds := s.outputs == 0 && !isProxy arguments
  ({ threshold := if s.threshold = 0 then Level.info.rank else s.threshold
     outputs := if adds then 1 else s.outputs
     printed := s.printed || adds
     proxyThreshold := Level.warning.rank
     announced := true },
   if s.announced then [] else [debug "system logger initialized"])

def prepareTimes (arguments : List String) : Nat → Setup → Setup × List Entry
  | 0, s => (s, [])
  | n + 1, s =>
    let (first, entries) := s.prepare arguments
    let (last, more) := prepareTimes arguments n first
    (last, entries ++ more)

/-- The printed line of an entry, with a mark in place of the time. -/
def line (time : String) (e : Entry) : String :=
  time ++ " [" ++ e.level.name ++ "] " ++ e.text ++ "\n"

def printedText (s : Setup) (time : String) (entries : List Entry) : String :=
  if s.printed then String.join ((entries.filter s.admits).map (line time)) else ""

end Setup

end HeaderRules.Log
