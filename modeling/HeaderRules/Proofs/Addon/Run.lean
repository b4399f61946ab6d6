import HeaderRules.Addon
import HeaderRules.Proofs.Apply.Atomic
import HeaderRules.Proofs.Profile.Loading
/-!
# Runs of the addon

An addon lives among a file that changes and a clock that goes on. It looks at the file when the
proxy comes up, with every request and on command, and what a command asks for is applied later.
Whatever happens in whatever order, its installed rules are those of the profile in use, unless
rules are still to be applied or could not be applied.
-/

namespace HeaderRules

namespace Addon

/-- The installed rules are those of the profile in use, each id once. -/
def InStep (a : Addon) : Prop :=
  ∃ rules sifted, rulesOf a.loader.active = .ok rules ∧ Rule.sift rules = .ok sifted ∧
    a.store.rules = sifted.kept

/-- What installing rules came to in a step, if a step came to that at all. -/
def attempted : Except Fault (Option Receipt) → Option (Except Fault Receipt)
  | .ok none | .error (.load _) => none
  | .ok (some receipt) => some (.ok receipt)
  | .error (.compile fault) => some (.error (.compile fault))
  | .error (.apply fault) => some (.error (.apply fault))

/-- A store after the rules of a profile have been compiled and applied, and what that came to. -/
def installed (s : Store) (active : Option Profile) : Store × Except Fault Receipt :=
  match rulesOf active with
  | .error fault => (s, .error (.compile fault))
  | .ok rules => ((Apply.run s rules).store, (Apply.run s rules).outcome.mapError .apply)

@[simp] theorem reported_fst {α : Type} (step : Stepped α) (before : String) :
    (step.reported before).1 = step.addon := by
  unfold Stepped.reported
  split <;> rfl

theorem installed_of_ok {s : Store} {active : Option Profile} {rules : List Rule}
    (h : rulesOf active = .ok rules) :
    installed s active =
      ((Apply.run s rules).store, (Apply.run s rules).outcome.mapError .apply) := by
  simp only [installed, h]

theorem installed_of_error {s : Store} {active : Option Profile} {fault : RawText.EncodeFault}
    (h : rulesOf active = .error fault) : installed s active = (s, .error (.compile fault)) := by
  simp only [installed, h]

theorem installed_reachable {s : Store} (hs : s.Reachable) (active : Option Profile) :
    (installed s active).1.Reachable := by
  cases hrules : rulesOf active with
  | error ragged =>
    rw [installed_of_error hrules]
    exact hs
  | ok rules =>
    rw [installed_of_ok hrules]
    exact Apply.run_reachable hs rules

theorem installed_eq_error {s : Store} (hs : s.Reachable) {active : Option Profile}
    {fault : Fault} (h : (installed s active).2 = .error fault) : (installed s active).1 = s := by
  cases hrules : rulesOf active with
  | error ragged => rw [installed_of_error hrules]
  | ok rules =>
    rw [installed_of_ok hrules] at h ⊢
    cases houtcome : (Apply.run s rules).outcome with
    | error refusal => exact Apply.store_of_run_error hs houtcome
    | ok receipt =>
      rw [houtcome] at h
      cases h

theorem installed_eq_ok {s : Store} (hs : s.Reachable) {active : Option Profile}
    {receipt : Receipt} (h : (installed s active).2 = .ok receipt) :
    ∃ rules sifted, rulesOf active = .ok rules ∧ Rule.sift rules = .ok sifted ∧
      (installed s active).1.rules = sifted.kept := by
  cases hrules : rulesOf active with
  | error ragged =>
    rw [installed_of_error hrules] at h
    cases h
  | ok rules =>
    rw [installed_of_ok hrules] at h ⊢
    obtain ⟨sifted, hverdict, -, hstore⟩ := Apply.run_eq_ok hs (Outcome.mapError_eq_ok.1 h)
    refine ⟨rules, sifted, rfl, (Apply.verdict_eq_ok hverdict).1, ?_⟩
    rw [hstore]

theorem attempted_installed (s : Store) (active : Option Profile) :
    attempted ((installed s active).2.map some) = some (installed s active).2 := by
  cases hrules : rulesOf active with
  | error ragged =>
    rw [installed_of_error hrules]
    rfl
  | ok rules =>
    rw [installed_of_ok hrules]
    cases (Apply.run s rules).outcome <;> rfl

/-- Installing the rules of the profile in use changes the store alone. -/
theorem applyActive_spec (a : Addon) :
    a.applyActive.addon = { a with store := (installed a.store a.loader.active).1 } ∧
      a.applyActive.outcome = (installed a.store a.loader.active).2 := by
  cases hrules : rulesOf a.loader.active with
  | error ragged => simp [applyActive, hrules, installed_of_error hrules]
  | ok rules =>
    rw [installed_of_ok hrules]
    cases houtcome : (Apply.run a.store rules).outcome with
    | ok receipt => simp [applyActive, hrules, apply, houtcome]
    | error fault => simp [applyActive, hrules, apply, houtcome]

variable {a : Addon} {s : Surroundings} {force changed : Bool} {needed : Bool → Bool}

theorem loadThenApply_of_fault {fault : LoadFault} (needed : Bool → Bool)
    (h : (a.loader.load s.now s.file force).outcome = .error fault) :
    (a.loadThenApply s force needed).addon =
        { a with loader := (a.loader.load s.now s.file force).loader } ∧
      (a.loadThenApply s force needed).outcome = .error (.load fault) := by
  simp [loadThenApply, load, h]

theorem loadThenApply_of_idle (h : (a.loader.load s.now s.file force).outcome = .ok changed)
    (hneeded : needed changed = false) :
    (a.loadThenApply s force needed).addon =
        { a with loader := (a.loader.load s.now s.file force).loader } ∧
      (a.loadThenApply s force needed).outcome = .ok none := by
  simp [loadThenApply, load, h, hneeded]

theorem loadThenApply_of_needed (h : (a.loader.load s.now s.file force).outcome = .ok changed)
    (hneeded : needed changed = true) :
    let loaded := (a.loader.load s.now s.file force).loader
    (a.loadThenApply s force needed).addon =
        ⟨(installed a.store loaded.active).1, loaded, a.pending⟩ ∧
      (a.loadThenApply s force needed).outcome = (installed a.store loaded.active).2.map some := by
  intro loaded
  obtain ⟨haddon, houtcome⟩ := applyActive_spec { a with loader := loaded }
  simp only [loadThenApply, load, h, Outcome.mapError_ok, hneeded, if_true]
  exact ⟨haddon, congrArg (Except.map some) houtcome⟩

end Addon

/-- An addon among its surroundings, with what installing rules came to the last time. -/
structure World where
  addon : Addon
  around : Surroundings
  lastApply : Option (Except Addon.Fault Receipt)

/-- What can happen. A file that is written, touched or deleted becomes another one, and the clock
may show any time. -/
inductive Event
  | fileBecomes (file : FileState)
  | clockShows (now : Number.Binary64)
  | running
  | sync
  | request (flow : Flow)
  | requestApply
  | applyPending

/-- Whether an event refreshes the rules if the profiles have changed. -/
def Event.isSync : Event → Bool
  | sync | request _ => true
  | _ => false

namespace World

def start (maxRules : Int) (path : String) (interval : Number.Binary64)
    (around : Surroundings) : World :=
  ⟨.start maxRules path interval, around, none⟩

/-- What a look at the profile document says in an event, if there is a look. -/
def looked (w : World) : Event → Option (Except LoadFault Bool)
  | .running | .requestApply => some (w.addon.loader.load w.around.now w.around.file true).outcome
  | .sync | .request _ => some (w.addon.loader.load w.around.now w.around.file false).outcome
  | .fileBecomes _ | .clockShows _ | .applyPending => none

def attempt (w : World) : Event → Option (Except Addon.Fault Receipt)
  | .running =>
    Addon.attempted (w.addon.loadThenApply w.around true fun _ => true).outcome
  | .sync | .request _ => Addon.attempted (w.addon.sync w.around).outcome
  | .applyPending =>
    if w.addon.pending = 0 then none
    else
      Addon.attempted
        ({ w.addon with pending := w.addon.pending - 1 }.applyActive.outcome.map some)
  | .fileBecomes _ | .clockShows _ | .requestApply => none

def addonAfter (w : World) : Event → Addon
  | .running => (w.addon.running w.around).1
  | .sync => (w.addon.sync w.around).addon
  | .request flow => (w.addon.request w.around flow).1
  | .requestApply => (w.addon.requestApply w.around).addon
  | .applyPending => w.addon.applyPending.1
  | .fileBecomes _ | .clockShows _ => w.addon

def aroundAfter (w : World) : Event → Surroundings
  | .fileBecomes file => { w.around with file }
  | .clockShows now => { w.around with now }
  | _ => w.around

def step (w : World) (e : Event) : World :=
  ⟨w.addonAfter e, w.aroundAfter e, (w.attempt e).or w.lastApply⟩

theorem lastApply_step (w : World) (e : Event) :
    (w.step e).lastApply = (w.attempt e).or w.lastApply := rfl

def run (w : World) (events : List Event) : World := events.foldl step w

/-- How an event changes an addon: not in its rules, its profile in use or what is pending; by one
more that is pending; or by installing the rules of the profile in use. -/
inductive Effect (w : World) (e : Event) : Prop
  | stays (store : (w.step e).addon.store = w.addon.store)
      (active : (w.step e).addon.loader.active = w.addon.loader.active)
      (pending : (w.step e).addon.pending = w.addon.pending) (attempt : w.attempt e = none)
  | owes (store : (w.step e).addon.store = w.addon.store)
      (pending : (w.step e).addon.pending = w.addon.pending + 1) (attempt : w.attempt e = none)
  | installs
      (store : (w.step e).addon.store =
        (Addon.installed w.addon.store (w.step e).addon.loader.active).1)
      (attempt : w.attempt e =
        some (Addon.installed w.addon.store (w.step e).addon.loader.active).2)
      (looked : ∀ fault, w.looked e ≠ some (.error fault))
      (changed : e.isSync = true → w.looked e = some (.ok true))

theorem effect_of_load {w : World} {e : Event} {force : Bool}
    (haddon : (w.step e).addon =
      { w.addon with loader := (w.addon.loader.load w.around.now w.around.file force).loader })
    (hanswer : (w.addon.loader.load w.around.now w.around.file force).outcome ≠ .ok true)
    (hattempt : w.attempt e = none) : w.Effect e := by
  refine .stays ?_ ?_ ?_ hattempt
  · rw [haddon]
  · rw [haddon]
    exact Loader.active_of_load hanswer
  · rw [haddon]

theorem effect_of_refresh {w : World} {e : Event} (force : Bool) (needed : Bool → Bool)
    (haddon : w.addonAfter e = (w.addon.loadThenApply w.around force needed).addon)
    (hattempt : w.attempt e =
      Addon.attempted (w.addon.loadThenApply w.around force needed).outcome)
    (hlooked : w.looked e = some (w.addon.loader.load w.around.now w.around.file force).outcome)
    (hidle : needed true = true) (hsync : e.isSync = true → needed false = false) :
    w.Effect e := by
  cases hload : (w.addon.loader.load w.around.now w.around.file force).outcome with
  | error fault =>
    obtain ⟨hafter, houtcome⟩ := Addon.loadThenApply_of_fault needed hload
    rw [houtcome] at hattempt
    exact effect_of_load (haddon.trans hafter) (by simp [hload]) hattempt
  | ok changed =>
    cases hneeded : needed changed with
    | false =>
      obtain rfl : changed = false := by
        cases changed with
        | false => rfl
        | true => exact absurd hneeded (by simp [hidle])
      obtain ⟨hafter, houtcome⟩ := Addon.loadThenApply_of_idle hload hneeded
      rw [houtcome] at hattempt
      exact effect_of_load (haddon.trans hafter) (by simp [hload]) hattempt
    | true =>
      obtain ⟨hafter, houtcome⟩ := Addon.loadThenApply_of_needed hload hneeded
      rw [hafter] at haddon
      rw [houtcome, Addon.attempted_installed] at hattempt
      refine .installs ?_ ?_ ?_ ?_
      · rw [step, haddon]
      · rw [hattempt, step, haddon]
      · intro fault hfault
        rw [hlooked, hload] at hfault
        cases hfault
      · intro his
        cases changed with
        | false => exact absurd hneeded (by simp [hsync his])
        | true => rw [hlooked, hload]

theorem effect_requestApply (w : World) : w.Effect .requestApply := by
  cases hload : (w.addon.loader.load w.around.now w.around.file true).outcome with
  | error fault =>
    have haddon : (w.step .requestApply).addon = { w.addon with
        loader := (w.addon.loader.load w.around.now w.around.file true).loader } := by
      simp [step, addonAfter, Addon.requestApply, Addon.load, hload]
    exact effect_of_load haddon (by simp [hload]) rfl
  | ok changed =>
    refine .owes ?_ ?_ rfl
    · simp [step, addonAfter, Addon.requestApply, Addon.load, hload]
    · simp [step, addonAfter, Addon.requestApply, Addon.load, hload]

theorem effect_applyPending (w : World) : w.Effect .applyPending := by
  by_cases hpending : w.addon.pending = 0
  · refine .stays ?_ ?_ ?_ ?_
    · simp [step, addonAfter, Addon.applyPending, hpending]
    · simp [step, addonAfter, Addon.applyPending, hpending]
    · simp [step, addonAfter, Addon.applyPending, hpending]
    · simp [attempt, hpending]
  · obtain ⟨hafter, houtcome⟩ :=
      Addon.applyActive_spec { w.addon with pending := w.addon.pending - 1 }
    have haddon : (w.step .applyPending).addon =
        { w.addon with pending := w.addon.pending - 1 }.applyActive.addon := by
      simp [step, addonAfter, Addon.applyPending, hpending]
    rw [hafter] at haddon
    refine .installs ?_ ?_ ?_ ?_
    · rw [haddon]
    · rw [haddon, attempt, if_neg hpending, houtcome, Addon.attempted_installed]
    · intro fault hfault
      cases hfault
    · intro hsync
      cases hsync

theorem effect (w : World) (e : Event) : w.Effect e := by
  cases e with
  | fileBecomes file => exact .stays rfl rfl rfl rfl
  | clockShows now => exact .stays rfl rfl rfl rfl
  | running =>
    refine effect_of_refresh true (fun _ => true) ?_ rfl rfl rfl ?_
    · simp [addonAfter, Addon.running]
    · simp [Event.isSync]
  | sync =>
    exact effect_of_refresh false id rfl rfl rfl rfl fun _ => rfl
  | request flow =>
    refine effect_of_refresh false id ?_ rfl rfl rfl fun _ => rfl
    simp [addonAfter, Addon.request, Addon.sync]
  | requestApply => exact effect_requestApply w
  | applyPending => exact effect_applyPending w

/-- What holds in every world: the store is one that updates lead to, and the installed rules are
in step unless rules are to be applied or were refused. -/
structure Sound (w : World) : Prop where
  reachable : w.addon.store.Reachable
  inStep : 0 < w.addon.pending ∨ (∃ fault, w.lastApply = some (.error fault)) ∨ w.addon.InStep

theorem sound_start (maxRules : Int) (path : String) (interval : Number.Binary64)
    (around : Surroundings) : (start maxRules path interval around).Sound where
  reachable := .empty maxRules
  inStep := .inr (.inr ⟨[], ⟨[], []⟩, rfl, rfl, rfl⟩)

theorem sound_step {w : World} (h : w.Sound) (e : Event) : (w.step e).Sound := by
  cases effect w e with
  | stays store active pending attempt =>
    have hlast : (w.step e).lastApply = w.lastApply := by rw [lastApply_step, attempt]; rfl
    refine ⟨store ▸ h.reachable, ?_⟩
    rw [pending, hlast]
    refine h.inStep.imp_right (Or.imp_right ?_)
    rintro ⟨rules, sifted, hrules, hsift, hkept⟩
    exact ⟨rules, sifted, by rw [active, hrules], hsift, by rw [store, hkept]⟩
  | owes store pending attempt =>
    exact ⟨store ▸ h.reachable, .inl (by omega)⟩
  | installs store attempt looked changed =>
    refine ⟨store ▸ Addon.installed_reachable h.reachable _, .inr ?_⟩
    cases houtcome : (Addon.installed w.addon.store (w.step e).addon.loader.active).2 with
    | error fault =>
      refine .inl ⟨fault, ?_⟩
      rw [lastApply_step, attempt, houtcome]
      rfl
    | ok receipt =>
      obtain ⟨rules, sifted, hrules, hsift, hkept⟩ := Addon.installed_eq_ok h.reachable houtcome
      exact .inr ⟨rules, sifted, hrules, hsift, by rw [store, hkept]⟩

theorem sound_run {w : World} (h : w.Sound) (events : List Event) : (w.run events).Sound := by
  induction events generalizing w with
  | nil => exact h
  | cons e rest ih => exact ih (sound_step h e)

/-- A look that breaks off, a refreshment without a change, and rules that are refused leave the
store as it was. -/
theorem store_of_no_change {w : World} (h : w.Sound) {e : Event}
    (hcause : (∃ fault, w.looked e = some (.error fault)) ∨
      (e.isSync = true ∧ w.looked e = some (.ok false)) ∨
      ∃ fault, w.attempt e = some (.error fault)) :
    (w.step e).addon.store = w.addon.store := by
  cases effect w e with
  | stays store active pending attempt => exact store
  | owes store pending attempt => exact store
  | installs store attempt looked changed =>
    rcases hcause with ⟨fault, hfault⟩ | ⟨hsync, hfalse⟩ | ⟨fault, hfault⟩
    · exact absurd hfault (looked fault)
    · rw [changed hsync] at hfalse
      cases hfalse
    · rw [attempt] at hfault
      rw [store]
      exact Addon.installed_eq_error h.reachable (Option.some.inj hfault)

/-- In every run from a new addon the installed rules are those of the profile in use, unless rules
are still to be applied or were refused the last time. A look that breaks off, a refreshment without
a change, and rules that are refused change nothing in the store. -/
theorem run_inStep (maxRules : Int) (path : String) (interval : Number.Binary64)
    (around : Surroundings) (events : List Event) :
    let w := (start maxRules path interval around).run events
    (0 < w.addon.pending ∨ (∃ fault, w.lastApply = some (.error fault)) ∨ w.addon.InStep) ∧
    ∀ e, ((∃ fault, w.looked e = some (.error fault)) ∨
        (e.isSync = true ∧ w.looked e = some (.ok false)) ∨
        ∃ fault, w.attempt e = some (.error fault)) →
      (w.step e).addon.store = w.addon.store := by
  have hsound := sound_run (sound_start maxRules path interval around) events
  exact ⟨hsound.inStep, fun e => store_of_no_change hsound⟩

def oneRule : List UInt8 :=
  "{activeProfileId: p, profiles: [{id: p, enabled: true, requestHeaders: [{header: X}]}]}"
    |>.toUTF8.toList

/-- The rule of a document stays installed when the document becomes a byte that spells nothing. -/
theorem run_inStep_undecodable :
    let w := (start 1 "p" (.ofInt 1) ⟨.zero false, .file (.ofInt 1) oneRule⟩).run
      [.running, .fileBecomes (.file (.ofInt 2) [0xFF])]
    w.addon.store.rules.length = 1 ∧ (w.step .running).addon.store = w.addon.store := by
  intro w
  have hlength : w.addon.store.rules.length = 1 := by decide +kernel
  have hbroken : (w.looked .running).any (!·.isOk) = true := by decide +kernel
  refine ⟨hlength, (run_inStep 1 "p" (.ofInt 1) _ _).2 .running (.inl ?_)⟩
  obtain ⟨outcome, houtcome, herror⟩ := (Option.any_eq_true _ _).1 hbroken
  cases outcome with
  | ok changed => cases herror
  | error fault => exact ⟨fault, houtcome⟩

end World

end HeaderRules
