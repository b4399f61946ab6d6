import HeaderRules.Apply
import HeaderRules.Enforce
import HeaderRules.Launch
import HeaderRules.Profile.Loader
import HeaderRules.Profile.Path
import HeaderRules.Rule.OfProfile
/-!
# The addon

Keeps the installed rules in step with the profile in use, and puts every flow through them. A
failure to refresh the rules is reported and never disturbs a flow.
-/

namespace HeaderRules

/-- The state of the addon: the installed rules, the profiles, and the number of times that the
rules are still to be applied. -/
structure Addon where
  store : Store
  loader : Loader
  pending : Nat

/-- What the addon finds around it: the time in seconds, and what stands at the path of the profile
document. -/
structure Surroundings where
  now : Number.Binary64
  file : FileState

namespace Addon

inductive Fault
  | load (fault : LoadFault)
  | compile (fault : RawText.EncodeFault)
  | apply (fault : ApplyFault Store.Fault)

def Fault.message : Fault → String
  | load fault => fault.message
  | compile fault => fault.message
  | apply (.ids fault) => fault.message
  | apply (.repeated ids) => Rule.repeatedMessage ids
  | apply (.store fault) => fault.message

structure Stepped (α : Type) where
  addon : Addon
  outcome : Except Fault α
  log : List Log.Entry

/-! ## Starting -/

/-- The seconds between two looks at the profile document. -/
def standardInterval : Number.Binary64 := .ofInt 1

def maxRulesOf (env : Environment) : Except Number.IntegerFault Int :=
  match env.maxRules with
  | none => .ok Store.defaultMaxRules
  | some text => Number.readInteger text.toList

def start (maxRules : Int) (path : String) (interval : Number.Binary64) : Addon :=
  ⟨.empty maxRules, .start path interval, 0⟩

def startNotes (a : Addon) : List Log.Entry := [a.loader.startNote]

def ofEnvironment (env : Environment) : Except Number.IntegerFault Addon := do
  return start (← maxRulesOf env) (ProfilePath.choose none env.profilesFile) standardInterval

/-! ## Refreshing the rules -/

def load (a : Addon) (s : Surroundings) (force : Bool) : Stepped Bool :=
  let loaded := a.loader.load s.now s.file force
  ⟨{ a with loader := loaded.loader }, loaded.outcome.mapError .load, loaded.log⟩

def apply (a : Addon) (rules : List Rule) : Stepped Receipt :=
  let applied := Apply.run a.store rules
  ⟨{ a with store := applied.store }, applied.outcome.mapError .apply, applied.log⟩

def activeNote (active : Option Profile) : Log.Entry :=
  Log.info ("applied profile " ++ (active.map Profile.label).getD "None")

def applyActive (a : Addon) : Stepped Receipt :=
  let active := a.loader.active
  match rulesOf active with
  | .error fault => ⟨a, .error (.compile fault), []⟩
  | .ok rules =>
    let applied := a.apply rules
    match applied.outcome with
    | .ok _ => { applied with log := applied.log ++ [activeNote active] }
    | .error _ => applied

/-- Looks at the profile document and, if a condition holds of what that gives, installs the rules
of the profile in use. -/
def loadThenApply (a : Addon) (s : Surroundings) (force : Bool) (needed : Bool → Bool) :
    Stepped (Option Receipt) :=
  let loaded := a.load s force
  match loaded.outcome with
  | .error fault => ⟨loaded.addon, .error fault, loaded.log⟩
  | .ok changed =>
    if needed changed then
      let applied := loaded.addon.applyActive
      ⟨applied.addon, applied.outcome.map some, loaded.log ++ applied.log⟩
    else ⟨loaded.addon, .ok none, loaded.log⟩

/-- Installs the rules anew if the profile document has changed. -/
def sync (a : Addon) (s : Surroundings) : Stepped (Option Receipt) :=
  a.loadThenApply s false id

def Stepped.reported {α : Type} (step : Stepped α) (before : String) : Addon × List Log.Entry :=
  match step.outcome with
  | .ok _ => (step.addon, step.log)
  | .error fault => (step.addon, step.log ++ [Log.error (before ++ fault.message)])

/-- Installs the rules when the proxy has come up. -/
def running (a : Addon) (s : Surroundings) : Addon × List Log.Entry :=
  (a.loadThenApply s true fun _ => true).reported "Initial rule apply failed: "

/-- Looks at the profile document at once and leaves it to be applied. -/
def requestApply (a : Addon) (s : Surroundings) : Stepped Unit :=
  let loaded := a.load s true
  match loaded.outcome with
  | .error fault => ⟨loaded.addon, .error fault, loaded.log⟩
  | .ok _ => ⟨{ loaded.addon with pending := loaded.addon.pending + 1 }, .ok (), loaded.log⟩

def applyPending (a : Addon) : Addon × List Log.Entry :=
  if a.pending = 0 then (a, [])
  else { a with pending := a.pending - 1 }.applyActive.reported "chheader.apply failed: "

/-! ## Flows -/

/-- Handles a flow and turns a misuse into a report. -/
def reportMisuse (handled : Handled) (before : String) : Flow × List Log.Entry :=
  match handled.misuse with
  | none => (handled.flow, handled.log)
  | some misuse => (handled.flow, handled.log ++ [Log.error (before ++ misuse.message)])

/-- Refreshes the rules and handles the request of a flow. -/
def request (a : Addon) (s : Surroundings) (flow : Flow) : Addon × Flow × List Log.Entry :=
  let (a, refreshed) := (a.sync s).reported "Failed to refresh rules: "
  let (flow, handled) :=
    reportMisuse (a.store.handleRequest flow) "Critical error in CoreAddon.request: "
  (a, flow, refreshed ++ handled)

def response (flow : Flow) : Flow × List Log.Entry :=
  reportMisuse flow.handleResponse "Critical error in CoreAddon.response: "

end Addon

end HeaderRules
