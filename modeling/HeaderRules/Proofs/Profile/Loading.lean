import HeaderRules.Profile.Loader
/-!
# One load

A load comes too early, finds no file, finds the file that it read last, or tries to read what is
there. What it tries is of no use, breaks loading off, or gives new profiles.
-/

namespace HeaderRules

def FileState.changed? : FileState → Option Number.Binary64
  | .unopenable changed _ | .file changed _ => some changed
  | .missing | .unreachable _ => none

/-- The file has a fault that loading does not expect. -/
def FileState.Breaking : FileState → Prop
  | .file _ bytes =>
    (∃ fault, Yaml.read bytes = .error fault ∧ fault ≠ .malformed) ∨
      ∃ value, Yaml.read bytes = .ok value ∧ ProfileSet.ofValue value = .error .numberTooLong
  | .missing | .unreachable _ | .unopenable .. => False

namespace Reading

variable {bytes : List UInt8} {value : Value}

theorem ofBytes_of_malformed (h : Yaml.read bytes = .error .malformed) :
    ofBytes bytes = .rejected (Yaml.Fault.message .malformed) := by
  unfold ofBytes
  simp only [h]

theorem ofBytes_of_fault {fault : Yaml.Fault} (h : Yaml.read bytes = .error fault)
    (hfault : fault ≠ .malformed) : ofBytes bytes = .broken (.text fault) := by
  unfold ofBytes
  cases fault with
  | malformed => exact absurd rfl hfault
  | _ => simp only [h]

theorem ofBytes_of_set {set : ProfileSet} (h : Yaml.read bytes = .ok value)
    (hset : ProfileSet.ofValue value = .ok set) : ofBytes bytes = .profiles set := by
  unfold ofBytes
  simp only [h, hset]

theorem ofBytes_of_numberTooLong (h : Yaml.read bytes = .ok value)
    (hset : ProfileSet.ofValue value = .error .numberTooLong) :
    ofBytes bytes = .broken (.document .numberTooLong) := by
  unfold ofBytes
  simp only [h, hset]

theorem ofBytes_of_refused {fault : DocumentFault} (h : Yaml.read bytes = .ok value)
    (hset : ProfileSet.ofValue value = .error fault) (hfault : fault ≠ .numberTooLong) :
    ofBytes bytes = .rejected fault.message := by
  unfold ofBytes
  cases fault with
  | numberTooLong => exact absurd rfl hfault
  | _ => simp only [h, hset]

end Reading

namespace Loader

def lookedAt (l : Loader) (now : Number.Binary64) : Loader := { l with lastLook := some now }

/-- Whether a look has something to read: there is something, and it is not the file last read. -/
def findsNew (l : Loader) (force : Bool) : FileState → Bool
  | .missing => false
  | .unreachable _ => true
  | .unopenable changed _ | .file changed _ => !l.isKnown force changed

/-- Whether a load tries to read: it is not too early for a look, and there is something to read. -/
def tries (l : Loader) (now : Number.Binary64) (file : FileState) (force : Bool) : Bool :=
  (force || !l.isEarly now) && l.findsNew force file

/-- The courses that a load can take, with all that each of them says and leaves. -/
inductive Course (l : Loader) (now : Number.Binary64) (file : FileState) (force : Bool)
    (after : Loaded) : Prop
  | early (unforced : force = false) (soon : l.isEarly now = true)
      (result : after = ⟨l, .ok false, []⟩)
  | neverThere (absent : file = .missing) (unread : l.loadedChange = none)
      (result : after = ⟨l.lookedAt now, .ok false, []⟩)
  | forgotten (absent : file = .missing)
      (result : after = ⟨{ l.lookedAt now with profiles := .empty, loadedChange := none },
        .ok (!l.profiles.profiles.isEmpty || force), []⟩)
  | known (present : file ≠ .missing) (old : l.findsNew force file = false)
      (result : after = ⟨l.lookedAt now, .ok false, []⟩)
  | failed (tries : l.tries now file force = true) (sound : ¬file.Breaking) (reason : String)
      (result : after = (l.lookedAt now).reject file.changed? reason)
  | broken (tries : l.tries now file force = true) (breaking : file.Breaking) (fault : LoadFault)
      (result : after = ⟨l.lookedAt now, .error fault, []⟩)
  | read (tries : l.tries now file force = true) (changed : Number.Binary64)
      (bytes : List UInt8) (value : Value) (set : ProfileSet) (present : file = .file changed bytes)
      (document : Yaml.read bytes = .ok value) (profiles : ProfileSet.ofValue value = .ok set)
      (result : after = (l.lookedAt now).accept changed set)

variable {l : Loader} {now : Number.Binary64} {file : FileState} {force : Bool}

theorem readFile_course {changed : Number.Binary64} {bytes : List UInt8}
    (htries : l.tries now (.file changed bytes) force = true) :
    l.Course now (.file changed bytes) force ((l.lookedAt now).readFile changed bytes) := by
  unfold readFile
  cases hread : Yaml.read bytes with
  | error fault =>
    by_cases hfault : fault = .malformed
    · subst hfault
      rw [Reading.ofBytes_of_malformed hread]
      exact .failed htries (by simp [FileState.Breaking, hread]) _ rfl
    · rw [Reading.ofBytes_of_fault hread hfault]
      exact .broken htries (.inl ⟨fault, hread, hfault⟩) _ rfl
  | ok value =>
    cases hset : ProfileSet.ofValue value with
    | ok set =>
      rw [Reading.ofBytes_of_set hread hset]
      exact .read htries changed bytes value set rfl hread hset rfl
    | error fault =>
      by_cases hfault : fault = .numberTooLong
      · subst hfault
        rw [Reading.ofBytes_of_numberTooLong hread hset]
        exact .broken htries (.inr ⟨value, hread, hset⟩) _ rfl
      · rw [Reading.ofBytes_of_refused hread hset hfault]
        exact .failed htries (by simp [FileState.Breaking, hread, hset, hfault]) _ rfl

theorem look_course (hdue : (force || !l.isEarly now) = true) (file : FileState) :
    l.Course now file force ((l.lookedAt now).look force file) := by
  have htries (hnew : l.findsNew force file = true) : l.tries now file force = true :=
    Bool.and_eq_true_iff.2 ⟨hdue, hnew⟩
  cases file with
  | missing =>
    by_cases hnever : l.loadedChange.isNone && !force
    · have hunread : l.loadedChange = none := by
        rw [Bool.and_eq_true, Option.isNone_iff_eq_none] at hnever
        exact hnever.1
      exact .neverThere rfl hunread (if_pos hnever)
    · exact .forgotten rfl (if_neg hnever)
  | unreachable error => exact .failed (htries rfl) id _ rfl
  | unopenable changed error =>
    by_cases hknown : l.isKnown force changed
    · exact .known (by simp) (by simp [findsNew, hknown]) (if_pos hknown)
    · exact .failed (htries (by simpa [findsNew] using hknown)) id _ (if_neg hknown)
  | file changed bytes =>
    by_cases hknown : l.isKnown force changed
    · exact .known (by simp) (by simp [findsNew, hknown]) (if_pos hknown)
    · have hlook : (l.lookedAt now).look force (.file changed bytes) =
          (l.lookedAt now).readFile changed bytes := if_neg hknown
      rw [hlook]
      exact readFile_course (htries (by simpa [findsNew] using hknown))

theorem load_course (l : Loader) (now : Number.Binary64) (file : FileState) (force : Bool) :
    l.Course now file force (l.load now file force) := by
  by_cases hdue : (force || !l.isEarly now) = true
  · have hearly : ¬(!force && l.isEarly now) = true := by
      cases force <;> simp_all
    rw [load, if_neg hearly]
    exact look_course hdue file
  · have hearly : force = false ∧ l.isEarly now = true := by simpa using hdue
    exact .early hearly.1 hearly.2 (by rw [load, hearly.1, hearly.2]; rfl)

theorem tries_of_missing : l.tries now .missing force = false := by
  simp [tries, findsNew]

/-- A load that tries to read fails, breaks off, or takes the profiles of the file. -/
theorem load_of_tries (h : l.tries now file force = true) :
    (¬file.Breaking ∧
        ∃ reason, l.load now file force = (l.lookedAt now).reject file.changed? reason) ∨
      (file.Breaking ∧ ∃ fault, l.load now file force = ⟨l.lookedAt now, .error fault, []⟩) ∨
      ∃ changed bytes value set, file = .file changed bytes ∧ Yaml.read bytes = .ok value ∧
        ProfileSet.ofValue value = .ok set ∧
        l.load now file force = (l.lookedAt now).accept changed set := by
  obtain ⟨hdue, hnew⟩ := Bool.and_eq_true_iff.1 h
  cases load_course l now file force with
  | early unforced soon result => simp [unforced, soon] at hdue
  | neverThere absent unread result => simp [absent, findsNew] at hnew
  | forgotten absent result => simp [absent, findsNew] at hnew
  | known present old result => simp [old] at hnew
  | failed tries sound reason result => exact .inl ⟨sound, reason, result⟩
  | broken tries breaking fault result => exact .inr (.inl ⟨breaking, fault, result⟩)
  | read tries changed bytes value set present document profiles result =>
    exact .inr (.inr ⟨changed, bytes, value, set, present, document, profiles, result⟩)

/-- A load that does not try to read says nothing. If it takes something away, it is because there
is no file. -/
theorem load_of_not_tries (h : l.tries now file force = false) :
    l.load now file force = ⟨l, .ok false, []⟩ ∨
      l.load now file force = ⟨l.lookedAt now, .ok false, []⟩ ∨
      file = .missing ∧ l.load now file force =
        ⟨{ l.lookedAt now with profiles := .empty, loadedChange := none },
          .ok (!l.profiles.profiles.isEmpty || force), []⟩ := by
  cases load_course l now file force with
  | early unforced soon result => exact .inl result
  | neverThere absent unread result => exact .inr (.inl result)
  | forgotten absent result => exact .inr (.inr ⟨absent, result⟩)
  | known present old result => exact .inr (.inl result)
  | failed tries sound reason result => simp [h] at tries
  | broken tries breaking fault result => simp [h] at tries
  | read tries changed bytes value set present document profiles result => simp [h] at tries

/-! ## The profile in use -/

theorem active_of_no_profiles (h : l.profiles.profiles = []) : l.active = none := by
  simp [active, ProfileSet.active, h]

/-- Unless a change is reported, the profile in use is the same. The profiles may have been
forgotten, but then there were none. -/
theorem active_of_load (h : (l.load now file force).outcome ≠ .ok true) :
    (l.load now file force).loader.active = l.active := by
  cases htries : l.tries now file force with
  | false =>
    rcases load_of_not_tries htries with hload | hload | ⟨-, hload⟩
    · rw [hload]
    · rw [hload]
      rfl
    · rw [hload] at h ⊢
      have hnone : l.profiles.profiles = [] := by simp_all
      rw [active_of_no_profiles hnone, active_of_no_profiles rfl]
  | true =>
    rcases load_of_tries htries with ⟨-, reason, hload⟩ | ⟨-, fault, hload⟩ |
      ⟨changed, bytes, value, set, -, -, -, hload⟩
    · rw [hload]
      rfl
    · rw [hload]
      rfl
    · rw [hload] at h
      exact absurd rfl h

end Loader

end HeaderRules
