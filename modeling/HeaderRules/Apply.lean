import HeaderRules.Store
/-!
# Applying rules

Installing a freshly compiled list of rules in place of all that a store holds. Two steps touch the
store: its ids are read, and then replaced by the rules that are left after rules with an id that
came before have been dropped.
-/

namespace HeaderRules

structure Updated (σ ε : Type) where
  store : σ
  outcome : Except ε Unit
  log : List Log.Entry

/-- What applying rules needs of a store. -/
class RuleStore (σ : Type) (ε : outParam Type) where
  ids : σ → List Value
  update : σ → List Value → List Rule → Updated σ ε
  describe : ε → String

/-- A refused update leaves the store as it was and reports nothing. -/
def Store.update (s : Store) (remove : List Value) (add : List Rule) : Updated Store Store.Fault :=
  match s.replace remove add with
  | .ok updated => ⟨updated, .ok (), [updated.updateNote]⟩
  | .error fault => ⟨s, .error fault, []⟩

instance : RuleStore Store Store.Fault where
  ids := Store.ids
  update := Store.update
  describe := Store.Fault.message

inductive ApplyFault (ε : Type)
  | ids (fault : IdFault)
  | repeated (ids : List Scalar)
  | store (fault : ε)

/-- What was applied: how many rules are new, how many are gone, and the ids that were skipped. -/
structure Receipt where
  applied : Nat
  removed : Nat
  skipped : List Value
deriving Repr

structure Applied (σ ε : Type) where
  store : σ
  outcome : Except (ApplyFault ε) Receipt
  log : List Log.Entry

namespace Apply

/-- The rules to install, each with an id of its own, and the ids of those left out. -/
def prepare {ε : Type} (rules : List Rule) : Except (ApplyFault ε) Rule.Sifted := do
  let sifted ← (Rule.sift rules).mapError .ids
  let repeated ← (Rule.repeatedIds sifted.kept).mapError .ids
  if repeated.isEmpty then return sifted else throw (.repeated repeated)

def skipNotes (skipped : List Value) : List Log.Entry :=
  skipped.map fun id => Log.warning ("skipping duplicate rule ID " ++ id.toText)

def doneNote (receipt : Receipt) : Log.Entry :=
  Log.info ("applied " ++ toString receipt.applied ++ " rule(s), removed " ++
    toString receipt.removed ++ " old rule(s)")

variable {σ ε : Type} [RuleStore σ ε]

/-- The second step: installs prepared rules in place of the rules with the ids that were read. -/
def install (store : σ) (found : List Value) (sifted : Rule.Sifted) : Applied σ ε :=
  let updated := RuleStore.update store found sifted.kept
  match updated.outcome with
  | .ok () =>
    let receipt : Receipt := ⟨sifted.kept.length, found.length, sifted.skipped⟩
    ⟨updated.store, .ok receipt, updated.log ++ [doneNote receipt]⟩
  | .error fault =>
    let note := Log.error ("failed to apply rules: " ++ RuleStore.describe σ fault)
    ⟨updated.store, .error (.store fault), updated.log ++ [note]⟩

/-- Installs rules in place of all that the store holds. -/
def run (store : σ) (rules : List Rule) : Applied σ ε :=
  match prepare rules with
  | .error fault => ⟨store, .error fault, []⟩
  | .ok sifted =>
    let applied := install store (RuleStore.ids store) sifted
    { applied with log := skipNotes sifted.skipped ++ applied.log }

end Apply

/-! ## A store that records -/

structure UpdateCall where
  remove : List Value
  add : List Rule
deriving Repr

/-- A store that writes down every update, checks none, and refuses all if it is told to. -/
structure RecordingStore where
  ids : List Value
  calls : List UpdateCall
  refusal : Option String
deriving Repr

namespace RecordingStore

def update (s : RecordingStore) (remove : List Value) (add : List Rule) :
    Updated RecordingStore String :=
  let recorded := { s with calls := s.calls ++ [⟨remove, add⟩] }
  match s.refusal with
  | some reason => ⟨recorded, .error reason, []⟩
  | none => ⟨{ recorded with ids := add.map (·.id) }, .ok (), []⟩

instance : RuleStore RecordingStore String where
  ids := RecordingStore.ids
  update := RecordingStore.update
  describe := id

end RecordingStore

end HeaderRules
