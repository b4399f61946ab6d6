import HeaderRules.Launch
/-!
# Command line

Prints the command that starts the proxy with the rule engine, one argument a line. The arguments
of the program are passed on to the proxy.
-/

open HeaderRules in
def main (arguments : List String) : IO Unit := do
  let env : Environment :=
    { profilesFile := ← IO.getEnv "CHHEADER_PROFILES_FILE"
      maxRules := ← IO.getEnv "CHHEADER_MAX_RULES"
      listenPort := ← IO.getEnv "CHHEADER_LISTEN_PORT"
      confdir := ← IO.getEnv "MITMPROXY_CONFDIR" }
  for argument in Launch.arguments (← IO.appDir).toString env arguments do
    IO.println argument
