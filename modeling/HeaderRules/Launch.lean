/-!
# Starting the proxy

The arguments with which the proxy is started so that it loads the rule engine.
-/

namespace HeaderRules

/-- What the environment of a process says to the engine and its launcher. -/
structure Environment where
  profilesFile : Option String
  maxRules : Option String
  listenPort : Option String
  confdir : Option String
deriving DecidableEq, Repr

namespace Launch

def standardPort : String := "8080"

def standardConfdir : String := "~/.mitmproxy"

/-- The arguments of the proxy: its port, its settings directory, the engine installed under some
directory, and what the caller adds. -/
def arguments (directory : String) (env : Environment) (added : List String) : List String :=
  ["mitmdump",
   "--listen-port", env.listenPort.getD standardPort,
   "--set", "confdir=" ++ env.confdir.getD standardConfdir,
   "-s", directory ++ "/addons/entry.py"] ++ added

end Launch

end HeaderRules
