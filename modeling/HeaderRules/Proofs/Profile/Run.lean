import HeaderRules.Proofs.Profile.Failure
import HeaderRules.Rule.OfProfile
/-!
# Runs of a loader

A loader looks at its document again and again, while the file is written, touched and deleted and
the clock goes on. What it answers rests on what it has noted of the file: whenever there are
profiles in force, the time of change of some file is noted, and a file of the noted time is passed
over in silence.
-/

namespace HeaderRules

/-- There is something that was changed last at the given time. -/
def FileState.ChangedAt (file : FileState) (changed : Number.Binary64) : Prop :=
  ∃ time, file.changed? = some time ∧ time.same changed = true

namespace Loader

variable {l : Loader} {now : Number.Binary64} {file : FileState} {force : Bool}

/-- If a change is reported, the profiles are those of the file, or none if there is no file. -/
theorem profiles_of_load_true (h : (l.load now file force).outcome = .ok true) :
    (file = .missing ∧ (l.load now file force).loader.profiles = .empty) ∨
      ∃ changed bytes value, file = .file changed bytes ∧ Yaml.read bytes = .ok value ∧
        ProfileSet.ofValue value = .ok (l.load now file force).loader.profiles := by
  cases htries : l.tries now file force with
  | false =>
    rcases load_of_not_tries htries with hload | hload | ⟨habsent, hload⟩
    · rw [hload] at h
      cases h
    · rw [hload] at h
      cases h
    · exact .inl ⟨habsent, by rw [hload]⟩
  | true =>
    rcases load_of_tries htries with ⟨-, reason, hload⟩ | ⟨-, fault, hload⟩ |
      ⟨changed, bytes, value, set, hpresent, hread, hset, hload⟩
    · rw [hload] at h
      cases h
    · rw [hload] at h
      cases h
    · exact .inr ⟨changed, bytes, value, hpresent, hread, by rw [hload]; exact hset⟩

/-! ## What is noted -/

def Noted (l : Loader) : Prop := l.profiles.profiles ≠ [] → l.loadedChange ≠ none

theorem noted_start (path : String) (interval : Number.Binary64) :
    (start path interval).Noted := fun h => absurd rfl h

theorem Noted.load (h : l.Noted) (now : Number.Binary64) (file : FileState) (force : Bool) :
    (l.load now file force).loader.Noted := by
  cases htries : l.tries now file force with
  | false =>
    rcases load_of_not_tries htries with hload | hload | ⟨-, hload⟩
    · rw [hload]
      exact h
    · rw [hload]
      exact h
    · rw [hload]
      exact fun hne => absurd rfl hne
  | true =>
    rcases load_of_tries htries with ⟨-, reason, hload⟩ | ⟨-, fault, hload⟩ |
      ⟨changed, bytes, value, set, -, -, -, hload⟩
    · rw [hload]
      -- a time that cannot be read leaves the one noted before
      intro hne
      have hnoted : l.loadedChange ≠ none := h hne
      simp [reject, lookedAt, hnoted]
    · rw [hload]
      exact h
    · rw [hload]
      simp [Noted, accept]

theorem no_profiles_of_missing (h : l.Noted) (hdue : force = true ∨ l.isEarly now = false) :
    (l.load now .missing force).loader.profiles.profiles = [] := by
  cases load_course l now .missing force with
  | early unforced soon result => simp [unforced, soon] at hdue
  | neverThere absent unread result =>
    rw [result]
    exact Classical.byContradiction fun hne => h hne unread
  | forgotten absent result =>
    rw [result]
    rfl
  | known present old result => exact absurd rfl present
  | failed tries sound reason result => simp [tries_of_missing] at tries
  | broken tries breaking fault result => simp [tries_of_missing] at tries
  | read tries changed bytes value set present document profiles result => cases present

/-- A load fails over what was changed last at some time: it tries to read that, and answers that
nothing has changed. -/
structure FailsOver (l : Loader) (now : Number.Binary64) (file : FileState) (force : Bool)
    (changed : Number.Binary64) : Prop where
  tries : l.tries now file force = true
  read : file.changed? = some changed
  answer : (l.load now file force).outcome = .ok false

theorem FailsOver.load_eq {changed : Number.Binary64} (h : l.FailsOver now file force changed) :
    ∃ reason, l.load now file force = (l.lookedAt now).reject (some changed) reason := by
  obtain ⟨htries, hread, hanswer⟩ := h
  rcases load_of_tries htries with ⟨-, reason, hload⟩ | ⟨-, fault, hload⟩ |
    ⟨other, bytes, value, set, -, -, -, hload⟩
  · exact ⟨reason, hread ▸ hload⟩
  · rw [hload] at hanswer
    cases hanswer
  · rw [hload] at hanswer
    cases hanswer

theorem findsNew_of_noted {changed : Number.Binary64} (hnoted : l.loadedChange = some changed)
    (hread : file.ChangedAt changed) : l.findsNew false file = false := by
  obtain ⟨time, htime, hsame⟩ := hread
  cases file with
  | missing => rfl
  | unreachable error => cases htime
  | unopenable other error =>
    obtain rfl : other = time := Option.some.inj htime
    simp [findsNew, isKnown, hnoted, hsame]
  | file other bytes =>
    obtain rfl : other = time := Option.some.inj htime
    simp [findsNew, isKnown, hnoted, hsame]

/-- A file of the noted time is passed over. -/
theorem load_of_noted {changed : Number.Binary64} (hnoted : l.loadedChange = some changed)
    (hread : file.ChangedAt changed) :
    l.load now file false = ⟨l, .ok false, []⟩ ∨
      l.load now file false = ⟨l.lookedAt now, .ok false, []⟩ := by
  have htries : l.tries now file false = false := by simp [tries, findsNew_of_noted hnoted hread]
  rcases load_of_not_tries htries with hload | hload | ⟨rfl, -⟩
  · exact .inl hload
  · exact .inr hload
  · obtain ⟨time, htime, -⟩ := hread
    cases htime

end Loader

/-! ## Many loads -/

/-- A loader, the time on the clock, and what stands at the path of the document. -/
structure Watch where
  loader : Loader
  now : Number.Binary64
  file : FileState

namespace Watch

/-- What can happen. A file that is written, touched or deleted becomes another one, and the clock
may show any time. -/
inductive Event
  | fileBecomes (file : FileState)
  | clockShows (now : Number.Binary64)
  | load (force : Bool)

def start (path : String) (interval now : Number.Binary64) (file : FileState) : Watch :=
  ⟨.start path interval, now, file⟩

def call (w : Watch) (force : Bool) : Loaded := w.loader.load w.now w.file force

def step (w : Watch) : Event → Watch
  | .fileBecomes file => { w with file }
  | .clockShows now => { w with now }
  | .load force => { w with loader := (w.call force).loader }

def run (w : Watch) (events : List Event) : Watch := events.foldl step w

def answers (w : Watch) : List Event → List Loaded
  | [] => []
  | .load force :: rest => w.call force :: (w.step (.load force)).answers rest
  | e :: rest => (w.step e).answers rest

/-- No load among some events is forced, and each finds what was changed last at the given time. -/
def Undisturbed (changed : Number.Binary64) (w : Watch) : List Event → Prop
  | [] => True
  | .load force :: rest =>
    force = false ∧ w.file.ChangedAt changed ∧ (w.step (.load force)).Undisturbed changed rest
  | e :: rest => (w.step e).Undisturbed changed rest

theorem noted_step {w : Watch} (h : w.loader.Noted) (e : Event) : (w.step e).loader.Noted := by
  cases e with
  | fileBecomes file => exact h
  | clockShows now => exact h
  | load force => exact h.load w.now w.file force

theorem noted_run {w : Watch} (h : w.loader.Noted) (events : List Event) :
    (w.run events).loader.Noted := by
  induction events generalizing w with
  | nil => exact h
  | cons e rest ih => exact ih (noted_step h e)

theorem answers_of_undisturbed {w : Watch} {changed : Number.Binary64} {events : List Event}
    (hnoted : w.loader.loadedChange = some changed) (h : w.Undisturbed changed events) :
    ∀ after ∈ w.answers events, after.outcome = .ok false ∧ after.log = [] ∧
      after.loader.profiles = w.loader.profiles := by
  -- no event touches what is noted, so every load passes the file over
  induction events generalizing w with
  | nil => simp [answers]
  | cons e rest ih =>
    cases e with
    | fileBecomes file => exact ih (w := w.step (.fileBecomes file)) hnoted h
    | clockShows now => exact ih (w := w.step (.clockShows now)) hnoted h
    | load force =>
      obtain ⟨rfl, hread, hrest⟩ := h
      have hcall : (w.call false).outcome = .ok false ∧ (w.call false).log = [] ∧
          (w.call false).loader.profiles = w.loader.profiles ∧
          (w.call false).loader.loadedChange = some changed := by
        have hpassed : w.call false = ⟨w.loader, .ok false, []⟩ ∨
            w.call false = ⟨w.loader.lookedAt w.now, .ok false, []⟩ :=
          Loader.load_of_noted hnoted hread
        rcases hpassed with hcall | hcall
        · rw [hcall]
          exact ⟨rfl, rfl, rfl, hnoted⟩
        · rw [hcall]
          exact ⟨rfl, rfl, rfl, hnoted⟩
      obtain ⟨houtcome, hlog, hprofiles, hstill⟩ := hcall
      intro after hafter
      rcases List.mem_cons.1 hafter with rfl | hafter
      · exact ⟨houtcome, hlog, hprofiles⟩
      · have hlater := ih (w := w.step (.load false)) hstill hrest after hafter
        exact ⟨hlater.1, hlater.2.1, hlater.2.2.trans hprofiles⟩

/-- A load after any run of events. If it answers that nothing has changed, the profile in use and
its rules are the same. If it answers that something has, the profiles are those of the file, or
none if there is no file. If it is not too early and there is no file, no profiles are left. If it
fails over a file, the profiles stay, and the loads that follow answer, say and change nothing for
as long as the time of change is the same and none is forced. -/
theorem load_after_run (path : String) (interval now : Number.Binary64) (file : FileState)
    (events : List Event) (force : Bool) :
    let w := (start path interval now file).run events
    let after := w.call force
    (after.outcome = .ok false →
        after.loader.active = w.loader.active ∧
          rulesOf after.loader.active = rulesOf w.loader.active) ∧
      (after.outcome = .ok true →
        (w.file = .missing ∧ after.loader.profiles = .empty) ∨
          ∃ changed bytes value, w.file = .file changed bytes ∧ Yaml.read bytes = .ok value ∧
            ProfileSet.ofValue value = .ok after.loader.profiles) ∧
      (force = true ∨ w.loader.isEarly w.now = false → w.file = .missing →
        after.loader.profiles.profiles = []) ∧
      ∀ changed, w.loader.FailsOver w.now w.file force changed →
        after.loader.profiles = w.loader.profiles ∧
          ∀ later, (w.step (.load force)).Undisturbed changed later →
            ∀ answer ∈ (w.step (.load force)).answers later,
              answer.outcome = .ok false ∧ answer.log = [] ∧
                answer.loader.profiles = after.loader.profiles := by
  intro w after
  have hnoted : w.loader.Noted := noted_run (Loader.noted_start path interval) events
  refine ⟨?_, Loader.profiles_of_load_true, ?_, ?_⟩
  · intro hfalse
    have hactive : after.loader.active = w.loader.active := by
      refine Loader.active_of_load fun htrue => ?_
      cases hfalse.symm.trans htrue
    exact ⟨hactive, congrArg rulesOf hactive⟩
  · intro hdue hmissing
    have hnone := Loader.no_profiles_of_missing hnoted hdue
    rwa [← hmissing] at hnone
  · intro changed hfails
    obtain ⟨reason, hload⟩ := hfails.load_eq
    have hafter : after.loader.profiles = w.loader.profiles ∧
        after.loader.loadedChange = some changed := by
      rw [show after = _ from hload]
      exact ⟨rfl, rfl⟩
    exact ⟨hafter.1, fun later hlater => answers_of_undisturbed hafter.2 hlater⟩

def soundDocument : List UInt8 := "\x7bactiveProfileId: p, profiles: [\x7bid: p\x7d]\x7d".toUTF8.toList

def brokenDocument : List UInt8 := "\x7bactiveProfileId: p, profiles: [\x7bid: p\x7d".toUTF8.toList

/-- A document is broken by an edit and mended by another within the same tick of the file system's
clock: the loads that are not forced do not see that it is sound again. -/
theorem load_after_run_same_tick :
    let w := (start "p" (.ofInt 0) (.ofInt 0) (.file (.ofInt 1) soundDocument)).run
      [.load false, .fileBecomes (.file (.ofInt 2) brokenDocument)]
    let later := [.fileBecomes (.file (.ofInt 2) soundDocument), .clockShows (.ofInt 9), .load false]
    w.loader.profiles.profiles.length = 1 ∧
      w.loader.FailsOver w.now w.file false (.ofInt 2) ∧
      (w.step (.load false)).Undisturbed (.ofInt 2) later ∧
      ∀ answer ∈ (w.step (.load false)).answers later,
        answer.outcome = .ok false ∧ answer.log = [] ∧
          answer.loader.profiles = w.loader.profiles := by
  intro w later
  have hlength : w.loader.profiles.profiles.length = 1 := by decide +kernel
  have hanswer : (w.call false).outcome = .ok false := by
    have hfalse : (w.call false).outcome.toOption = some false := by decide +kernel
    cases houtcome : (w.call false).outcome with
    | ok changed =>
      rw [houtcome] at hfalse
      exact congrArg Except.ok (Option.some.inj hfalse)
    | error fault =>
      rw [houtcome] at hfalse
      cases hfalse
  have hfails : w.loader.FailsOver w.now w.file false (.ofInt 2) := ⟨by decide +kernel, rfl, hanswer⟩
  have hlater : (w.step (.load false)).Undisturbed (.ofInt 2) later := ⟨rfl, ⟨_, rfl, by decide⟩, trivial⟩
  obtain ⟨hprofiles, hquiet⟩ :=
    (load_after_run "p" (.ofInt 0) (.ofInt 0) (.file (.ofInt 1) soundDocument)
      [.load false, .fileBecomes (.file (.ofInt 2) brokenDocument)] false).2.2.2 (.ofInt 2) hfails
  refine ⟨hlength, hfails, hlater, fun answer hanswer => ?_⟩
  have hsame := hquiet later hlater answer hanswer
  exact ⟨hsame.1, hsame.2.1, hsame.2.2.trans hprofiles⟩

end Watch

end HeaderRules
