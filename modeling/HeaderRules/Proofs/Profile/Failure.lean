import HeaderRules.Proofs.Profile.Loading
import HeaderRules.Proofs.Yaml.Decoding
/-!
# Documents that cannot be used

A document that cannot be used is to be reported and to leave the profiles in force. So it is, as
long as nothing but the form of the document is at fault. Bytes that spell no text, a text marked as
a kind of value that it does not spell, and a number too long to write break loading off instead.
-/

namespace HeaderRules

/-- The file can be opened, decoded, read as a document, and taken for profiles. -/
def FileState.Useful : FileState → Prop
  | .file _ bytes => (Text.Utf8.decode? bytes).isSome ∧
    ∃ value set, Yaml.read bytes = .ok value ∧ ProfileSet.ofValue value = .ok set
  | .missing | .unreachable _ | .unopenable .. => False

namespace Loader

variable {l : Loader} {now : Number.Binary64} {file : FileState} {force : Bool}

/-- What is promised of a load: it has an answer, and if it tries what is of no use, then nothing
has changed, the profiles stay and the failure is reported. -/
structure Promised (l : Loader) (now : Number.Binary64) (file : FileState) (force : Bool) :
    Prop where
  answers : ∃ answer, (l.load now file force).outcome = .ok answer
  keeps : l.tries now file force → ¬file.Useful →
    (l.load now file force).outcome = .ok false ∧
      (l.load now file force).loader.profiles = l.profiles ∧
      ∃ reason, (l.load now file force).log = [l.failureNote reason]

theorem load_answers (h : l.tries now file force = false) :
    ∃ answer, (l.load now file force).outcome = .ok answer := by
  rcases load_of_not_tries h with hload | hload | ⟨-, hload⟩
  · exact ⟨_, by rw [hload]⟩
  · exact ⟨_, by rw [hload]⟩
  · exact ⟨_, by rw [hload]⟩

theorem not_breaking_of_profiles {changed : Number.Binary64} {bytes : List UInt8} {value : Value}
    {set : ProfileSet} (hread : Yaml.read bytes = .ok value)
    (hset : ProfileSet.ofValue value = .ok set) : ¬(FileState.file changed bytes).Breaking := by
  simp [FileState.Breaking, hread, hset]

theorem load_of_breaking (htries : l.tries now file force = true) (hbreaking : file.Breaking) :
    ∃ fault, l.load now file force = ⟨l.lookedAt now, .error fault, []⟩ := by
  rcases load_of_tries htries with ⟨hsound, -⟩ | ⟨-, hfault⟩ |
    ⟨changed, bytes, value, set, rfl, hread, hset, -⟩
  · exact absurd hbreaking hsound
  · exact hfault
  · exact absurd hbreaking (not_breaking_of_profiles hread hset)

theorem promised_of_sound (htries : l.tries now file force = true) (hsound : ¬file.Breaking) :
    l.Promised now file force := by
  rcases load_of_tries htries with ⟨-, reason, hload⟩ | ⟨hbreaking, -⟩ |
    ⟨changed, bytes, value, set, rfl, hread, hset, hload⟩
  · refine ⟨⟨false, by rw [hload]; rfl⟩, fun _ _ => ?_⟩
    rw [hload]
    exact ⟨rfl, rfl, reason, rfl⟩
  · exact absurd hbreaking hsound
  · refine ⟨⟨true, by rw [hload]; rfl⟩, fun _ huseless => ?_⟩
    exact absurd ⟨Yaml.decode?_isSome_of_read hread, value, set, hread, hset⟩ huseless

/-- The promise is kept by every load but those that try a file with an unexpected fault. Such a
load has no answer and says nothing; all it changes is the time of the last look. -/
theorem load_promised_iff (l : Loader) (now : Number.Binary64) (file : FileState) (force : Bool) :
    (l.Promised now file force ↔ ¬(l.tries now file force ∧ file.Breaking)) ∧
      (l.tries now file force ∧ file.Breaking →
        ∃ fault, l.load now file force = ⟨{ l with lastLook := some now }, .error fault, []⟩) := by
  refine ⟨⟨?_, ?_⟩, fun ⟨htries, hbreaking⟩ => load_of_breaking htries hbreaking⟩
  · rintro ⟨⟨answer, hanswer⟩, -⟩ ⟨htries, hbreaking⟩
    obtain ⟨fault, hload⟩ := load_of_breaking htries hbreaking
    rw [hload] at hanswer
    cases hanswer
  · intro h
    cases htries : l.tries now file force with
    | true => exact promised_of_sound htries fun hbreaking => h ⟨htries, hbreaking⟩
    | false => exact ⟨load_answers htries, fun hother => absurd hother (by simp [htries])⟩

/-- A byte that begins no character is a fault that loading does not expect. -/
theorem breaking_undecodable : (FileState.file (.ofInt 1) [0xFF]).Breaking := by
  have hrefused : (Text.Utf8.decode ([0xFF].take Yaml.Source.chunkSize)).ending =
      .refused 0 1 .start := by decide
  exact .inl ⟨_, Yaml.read_of_refused hrefused, by simp⟩

/-- A new loader breaks off over such a byte. -/
theorem load_promised_iff_undecodable :
    ∃ fault, (start "profiles.yaml" (.ofInt 1)).load (.zero false) (.file (.ofInt 1) [0xFF]) false =
      ⟨{ start "profiles.yaml" (.ofInt 1) with lastLook := some (.zero false) },
        .error fault, []⟩ :=
  (load_promised_iff _ _ _ _).2 ⟨by decide, breaking_undecodable⟩

/-- Its promise is broken: there is no answer. -/
theorem not_promised_undecodable :
    ¬(start "profiles.yaml" (.ofInt 1)).Promised (.zero false) (.file (.ofInt 1) [0xFF]) false := by
  have htries : (start "profiles.yaml" (.ofInt 1)).tries (.zero false)
      (.file (.ofInt 1) [0xFF]) false = true := by decide
  rintro ⟨⟨answer, hanswer⟩, -⟩
  obtain ⟨fault, hload⟩ := load_of_breaking htries breaking_undecodable
  rw [hload] at hanswer
  cases hanswer

end Loader

end HeaderRules
