import HeaderRules.Proofs.Rule.Hash
import HeaderRules.Proofs.Rule.OfProfile
/-!
# Keys of pairs

The key of a pair joins the two ids by a colon, which either of them may have in it. Different pairs
have one key exactly if the end of a profile id, behind some colon, goes over to the matcher id. The
pairs of one profile all have keys of their own, so its rules share an id only if hashes collide.
-/

namespace HeaderRules.RuleId

/-- Whether a pair becomes another one when the end of its profile id, behind some colon, is put in
front of its matcher id. -/
def Shifts (profile matcher otherProfile otherMatcher : RawText) : Prop :=
  ∃ part, profile = otherProfile ++ .char ':' :: part ∧ otherMatcher = part ++ .char ':' :: matcher

/-- Whether two texts are different and hash to one id all the same. -/
def Collide (s t : RawText) : Prop :=
  s ≠ t ∧ ∃ bytes others, s.encode = .ok bytes ∧ t.encode = .ok others ∧
    (fnv1a bytes).toNat ≡ (fnv1a others).toNat [MOD 2147483646]

variable {profile matcher otherProfile otherMatcher : RawText}

/-! ## Keys -/

theorem key_eq (profile matcher : RawText) :
    key profile matcher = profile ++ .char ':' :: matcher ++ RawText.ofString ":reqres" := by
  simp [key, RawText.ofString]

theorem key_eq_key_iff_joined :
    key profile matcher = key otherProfile otherMatcher ↔
      profile ++ .char ':' :: matcher = otherProfile ++ .char ':' :: otherMatcher := by
  rw [key_eq, key_eq, List.append_cancel_right_eq]

theorem key_of_shifts (h : Shifts profile matcher otherProfile otherMatcher) :
    key profile matcher = key otherProfile otherMatcher := by
  obtain ⟨part, rfl, rfl⟩ := h
  rw [key_eq_key_iff_joined]
  simp

/-- If the first profile id is no longer than the second one, what the second one has more begins
with the colon of the first pair. -/
theorem shifts_of_append {more : RawText} (hprofile : otherProfile = profile ++ more)
    (hmatcher : .char ':' :: matcher = more ++ .char ':' :: otherMatcher) :
    (profile = otherProfile ∧ matcher = otherMatcher) ∨
      Shifts otherProfile otherMatcher profile matcher := by
  cases more with
  | nil =>
    left
    rw [List.append_nil] at hprofile
    rw [List.nil_append, List.cons.injEq] at hmatcher
    exact ⟨hprofile.symm, hmatcher.2⟩
  | cons c part =>
    right
    rw [List.cons_append, List.cons.injEq] at hmatcher
    obtain ⟨rfl, hrest⟩ := hmatcher
    exact ⟨part, hprofile, hrest⟩

theorem key_eq_key_iff :
    key profile matcher = key otherProfile otherMatcher ↔
      (profile = otherProfile ∧ matcher = otherMatcher) ∨
        Shifts profile matcher otherProfile otherMatcher ∨
          Shifts otherProfile otherMatcher profile matcher := by
  constructor
  · intro h
    rw [key_eq_key_iff_joined, List.append_eq_append_iff] at h
    obtain ⟨more, hprofile, hmatcher⟩ | ⟨more, hprofile, hmatcher⟩ := h
    · exact (shifts_of_append hprofile hmatcher).imp_right .inr
    · obtain ⟨rfl, rfl⟩ | hshifts := shifts_of_append hprofile hmatcher
      · exact .inl ⟨rfl, rfl⟩
      · exact .inr (.inl hshifts)
  · rintro (⟨rfl, rfl⟩ | hshifts | hshifts)
    · rfl
    · exact key_of_shifts hshifts
    · exact (key_of_shifts hshifts).symm

/-- The profile id gets shorter and the matcher id longer. -/
theorem Shifts.length_lt (h : Shifts profile matcher otherProfile otherMatcher) :
    otherProfile.length < profile.length ∧ matcher.length < otherMatcher.length := by
  obtain ⟨part, rfl, rfl⟩ := h
  simp only [List.length_append, List.length_cons]
  omega

theorem Shifts.profile_ne (h : Shifts profile matcher otherProfile otherMatcher) :
    profile ≠ otherProfile := by
  rintro rfl
  exact Nat.lt_irrefl _ h.length_lt.1

theorem Shifts.matcher_ne (h : Shifts profile matcher otherProfile otherMatcher) :
    matcher ≠ otherMatcher := by
  rintro rfl
  exact Nat.lt_irrefl _ h.length_lt.2

theorem Shifts.mem (h : Shifts profile matcher otherProfile otherMatcher) :
    .char ':' ∈ profile ∧ .char ':' ∈ otherMatcher := by
  obtain ⟨part, rfl, rfl⟩ := h
  simp

/-! ## Ids -/

theorem ofText_shared_iff {s t : RawText} :
    (∃ id, ofText s = .ok id ∧ ofText t = .ok id) ↔
      (s = t ∧ s.isRagged = false) ∨ Collide s t := by
  constructor
  · rintro ⟨id, hs, ht⟩
    obtain ⟨bytes, hbytes, rfl⟩ := ofText_eq_ok.1 hs
    obtain ⟨others, hothers, hsame⟩ := ofText_eq_ok.1 ht
    by_cases heq : s = t
    · exact .inl ⟨heq, RawText.encode_eq_ok_iff.1 ⟨bytes, hbytes⟩⟩
    · exact .inr ⟨heq, bytes, others, hbytes, hothers, (ofBytes_inj bytes others).1 hsame.symm⟩
  · rintro (⟨rfl, hcharacters⟩ | ⟨-, bytes, others, hbytes, hothers, hsame⟩)
    · obtain ⟨bytes, hbytes⟩ := RawText.encode_eq_ok_iff.2 hcharacters
      have hid := ofText_eq_ok.2 ⟨bytes, hbytes, rfl⟩
      exact ⟨_, hid, hid⟩
    · exact ⟨_, ofText_eq_ok.2 ⟨bytes, hbytes, rfl⟩,
        ofText_eq_ok.2 ⟨others, hothers, ((ofBytes_inj bytes others).2 hsame).symm⟩⟩

theorem ruleOf_shared_iff {p : Profile} {m n : Matcher} :
    (∃ rule other, p.ruleOf m = .ok rule ∧ p.ruleOf n = .ok other ∧ rule.id = other.id) ↔
      ∃ id, ofPair p.id m.id = .ok id ∧ ofPair p.id n.id = .ok id := by
  unfold Profile.ruleOf
  cases ofPair p.id m.id <;> cases ofPair p.id n.id <;> simp [Profile.ruleWith, eq_comm]

theorem distinct_pairwise (ms : List Matcher) :
    (Matcher.distinct ms).Pairwise fun m n => m.id ≠ n.id := by
  induction ms with
  | nil => exact .nil
  | cons m rest ih =>
    rw [Matcher.distinct, List.pairwise_cons]
    refine ⟨fun other hother => ?_, ih.filter _⟩
    have hid : other.id ≠ m.id := by simpa using (List.mem_filter.1 hother).2
    exact hid.symm

theorem ruleMatchers_pairwise (p : Profile) : p.ruleMatchers.Pairwise fun m n => m.id ≠ n.id := by
  unfold Profile.ruleMatchers
  split
  · exact List.pairwise_singleton _ _
  · exact distinct_pairwise p.matchers

/-- Two pairs have one key exactly if they are the same or one becomes the other when the end of its
profile id, behind some colon, is put in front of its matcher id. No pair becomes one with the same
profile id or the same matcher id, nor does a pair without a colon in the profile id, and none
becomes one without a colon in the matcher id. Two pairs have one rule id exactly if they have one
key with a UTF-8 form or the hash of their keys collides, and of the matchers of one profile two
have rules with one id exactly if it does. -/
theorem key_ofPair_iff :
    (∀ profile matcher otherProfile otherMatcher,
      (key profile matcher = key otherProfile otherMatcher ↔
        (profile = otherProfile ∧ matcher = otherMatcher) ∨
          Shifts profile matcher otherProfile otherMatcher ∨
            Shifts otherProfile otherMatcher profile matcher) ∧
      ((∃ id, ofPair profile matcher = .ok id ∧ ofPair otherProfile otherMatcher = .ok id) ↔
        (key profile matcher = key otherProfile otherMatcher ∧
            (key profile matcher).isRagged = false) ∨
          Collide (key profile matcher) (key otherProfile otherMatcher)) ∧
      (Shifts profile matcher otherProfile otherMatcher →
        profile ≠ otherProfile ∧ matcher ≠ otherMatcher ∧
          .char ':' ∈ profile ∧ .char ':' ∈ otherMatcher)) ∧
    (∀ p : Profile, p.ruleMatchers.Pairwise fun m n =>
      (∃ rule other, p.ruleOf m = .ok rule ∧ p.ruleOf n = .ok other ∧ rule.id = other.id) ↔
        Collide (key p.id m.id) (key p.id n.id)) := by
  refine ⟨fun profile matcher otherProfile otherMatcher =>
    ⟨key_eq_key_iff, ofText_shared_iff,
      fun h => ⟨h.profile_ne, h.matcher_ne, h.mem⟩⟩, fun p => ?_⟩
  refine (ruleMatchers_pairwise p).imp fun {m n} hid => ?_
  have hkey : key p.id m.id ≠ key p.id n.id := by
    rw [Ne, key_eq_key_iff]
    rintro (⟨-, hsame⟩ | hshifts | hshifts)
    · exact hid hsame
    · exact hshifts.profile_ne rfl
    · exact hshifts.profile_ne rfl
  rw [ruleOf_shared_iff]
  unfold ofPair
  rw [ofText_shared_iff, or_iff_right fun hsame => hkey hsame.1]

theorem key_ofPair_iff_shifted :
    Shifts "a:b" "c" "a" "b:c" ∧ key "a:b" "c" = key "a" "b:c" ∧
      .char ':' ∈ RawText.ofString "a:b" := by
  have h : Shifts "a:b" "c" "a" "b:c" := ⟨"b", by decide, by decide⟩
  obtain ⟨hkey, -, hshifts⟩ := key_ofPair_iff.1 "a:b" "c" "a" "b:c"
  exact ⟨h, hkey.2 (.inr (.inl h)), (hshifts h).2.2.1⟩

/-- The pair of `a` and `b:c`, and that of `a:b` and `c`, are different and have one key. -/
theorem key_shared :
    (RawText.ofString "a", RawText.ofString "b:c") ≠
        (RawText.ofString "a:b", RawText.ofString "c") ∧
      key "a" "b:c" = key "a:b" "c" ∧
      ofPair "a" "b:c" = .ok 886948212 ∧ ofPair "a:b" "c" = .ok 886948212 := by
  decide +kernel

end HeaderRules.RuleId
