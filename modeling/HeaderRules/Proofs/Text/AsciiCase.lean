import HeaderRules.Proofs.Text.Case
/-!
# Texts that differ in ASCII case

Two texts that become the same when their ASCII letters are put into lower case have the same lower
case of all scripts. What lower case makes of a character depends on its neighbours, but only on
whether these have case and whether they are passed over, and in neither do the two cases of an
ASCII letter differ.
-/

namespace HeaderRules.Text

/-- A character with its ASCII case taken away. -/
def asciiKey (c : Char) : Nat := lowerAscii c.toNat

variable {c d : Char} {s t : List Char}

/-- Of two characters with one key, one is a capital letter and the other its small letter, unless
they are the same. -/
theorem eq_or_capital (h : asciiKey c = asciiKey d) :
    c = d ∨ (0x41 ≤ c.toNat ∧ c.toNat ≤ 0x5A ∧ d.toNat = c.toNat + 32) ∨
      (0x41 ≤ d.toNat ∧ d.toNat ≤ 0x5A ∧ c.toNat = d.toNat + 32) := by
  simp only [asciiKey, lowerAscii] at h
  by_cases hsame : c.toNat = d.toNat
  · exact .inl (Char.toNat_inj.1 hsame)
  · right
    split at h <;> split at h <;> omega

/-- What holds for both cases of every ASCII letter alike does not tell characters with one key
apart. -/
theorem congr_of_letters {α : Type} {f : Nat → α}
    (hf : ∀ code < 0x5B, 0x41 ≤ code → f (code + 32) = f code) (h : asciiKey c = asciiKey d) :
    f c.toNat = f d.toNat := by
  obtain rfl | ⟨hleast, hgreatest, hsmall⟩ | ⟨hleast, hgreatest, hsmall⟩ := eq_or_capital h
  · rfl
  · rw [hsmall, hf c.toNat (by omega) hleast]
  · rw [hsmall, hf d.toNat (by omega) hleast]

theorem isCased_congr (h : asciiKey c = asciiKey d) : isCased c = isCased d :=
  congr_of_letters (f := inRanges casedRanges) (by decide +kernel) h

theorem isCaseIgnorable_congr (h : asciiKey c = asciiKey d) :
    isCaseIgnorable c = isCaseIgnorable d :=
  congr_of_letters (f := inRanges caseIgnorableRanges) (by decide +kernel) h

theorem lowerCode_congr (h : asciiKey c = asciiKey d) : lowerCode c.toNat = lowerCode d.toNat :=
  congr_of_letters (f := lowerCode) (by decide +kernel) h

/-- A character that is no ASCII letter has a key of its own. -/
theorem eq_iff_of_asciiKey (h : asciiKey c = asciiKey d) (wanted : Char)
    (hwanted : ¬(0x41 ≤ wanted.toNat ∧ wanted.toNat ≤ 0x5A) ∧
      ¬(0x61 ≤ wanted.toNat ∧ wanted.toNat ≤ 0x7A)) : c = wanted ↔ d = wanted := by
  have hsame : c.toNat = wanted.toNat ↔ d.toNat = wanted.toNat := by
    obtain rfl | ⟨_, _, _⟩ | ⟨_, _, _⟩ := eq_or_capital h
    · exact Iff.rfl
    · omega
    · omega
  rwa [Char.toNat_inj, Char.toNat_inj] at hsame

theorem nextIsCased_cons (c : Char) (rest : List Char) :
    nextIsCased (c :: rest) = if isCaseIgnorable c then nextIsCased rest else isCased c := by
  cases hignored : isCaseIgnorable c <;> simp [nextIsCased, hignored]

theorem nextIsCased_congr (h : s.map asciiKey = t.map asciiKey) :
    nextIsCased s = nextIsCased t := by
  induction s generalizing t with
  | nil =>
    obtain rfl := List.map_eq_nil_iff.1 h.symm
    rfl
  | cons c s ih =>
    obtain ⟨d, t, rfl, hkey, hrest⟩ := List.map_eq_cons_iff.1 h.symm
    rw [nextIsCased_cons, nextIsCased_cons, isCaseIgnorable_congr hkey, isCased_congr hkey,
      ih hrest.symm]

theorem lowerAfter_congr {before earlier : List Char}
    (hbefore : before.map asciiKey = earlier.map asciiKey)
    (h : s.map asciiKey = t.map asciiKey) : lowerAfter before s = lowerAfter earlier t := by
  -- a sigma looks back, so what stands before goes along
  induction s generalizing t before earlier with
  | nil =>
    obtain rfl := List.map_eq_nil_iff.1 h.symm
    rfl
  | cons c s ih =>
    obtain ⟨d, t, rfl, hkey, hrest⟩ := List.map_eq_cons_iff.1 h.symm
    have hsigma := eq_iff_of_asciiKey hkey 'Σ' (by decide)
    have hdotted := eq_iff_of_asciiKey hkey 'İ' (by decide)
    have hnext : lowerAfter (c :: before) s = lowerAfter (d :: earlier) t :=
      ih (by simp [hkey, hbefore]) hrest.symm
    simp only [lowerAfter, hsigma, hdotted, lowerCode_congr hkey, nextIsCased_congr hbefore,
      nextIsCased_congr hrest, hnext]

theorem lower_congr (h : s.map asciiKey = t.map asciiKey) : lower s = lower t :=
  lowerAfter_congr rfl h

/-! ## Texts in another case -/

/-- Whether two texts differ at most in the case of ASCII letters. -/
def Recased (s t : List Char) : Prop := s.map asciiKey = t.map asciiKey

instance : Decidable (Recased s t) := inferInstanceAs (Decidable (s.map asciiKey = t.map asciiKey))

theorem eq_iff_of_isCaseless (h : asciiKey c = asciiKey d) {wanted : Char}
    (hwanted : isCaseless wanted.toNat = true) : c = wanted ↔ d = wanted :=
  eq_iff_of_asciiKey h wanted (isCaseless_iff.1 hwanted).2

theorem sameLetter_congr {a : Char} (h : asciiKey c = asciiKey d) {b : Char}
    (hab : asciiKey a = asciiKey b) : sameLetter a.toNat c.toNat = sameLetter b.toNat d.toNat := by
  rw [sameLetter, sameLetter, lowerCode_congr h, lowerCode_congr hab]

namespace Recased

theorem symm (h : Recased s t) : Recased t s := Eq.symm h

theorem append {first second : List Char} (hs : Recased s first) (ht : Recased t second) :
    Recased (s ++ t) (first ++ second) := by
  rw [Recased, List.map_append, List.map_append, hs, ht]

theorem exists_cons (h : Recased (c :: s) t) :
    ∃ d rest, t = d :: rest ∧ asciiKey c = asciiKey d ∧ Recased s rest := by
  obtain ⟨d, rest, rfl, hkey, hrest⟩ := List.map_eq_cons_iff.1 (Eq.symm h)
  exact ⟨d, rest, rfl, hkey.symm, hrest.symm⟩

theorem exists_append {whole : List Char} (h : Recased (s ++ t) whole) :
    ∃ first second, whole = first ++ second ∧ Recased s first ∧ Recased t second := by
  rw [Recased, List.map_append] at h
  obtain ⟨first, second, rfl, hfirst, hsecond⟩ := List.map_eq_append_iff.1 h.symm
  exact ⟨first, second, rfl, hfirst.symm, hsecond.symm⟩

theorem drop (h : Recased s t) (n : Nat) : Recased (s.drop n) (t.drop n) := by
  rw [Recased, List.map_drop, List.map_drop, h]

theorem dropLast (h : Recased s t) : Recased s.dropLast t.dropLast := by
  rw [Recased, List.map_dropLast, List.map_dropLast, h]

theorem eq_of_isCaseless (h : Recased s t) (hs : s.all (isCaseless ·.toNat) = true) : s = t := by
  induction s generalizing t with
  | nil => exact (List.map_eq_nil_iff.1 (Eq.symm h)).symm
  | cons c rest ih =>
    obtain ⟨d, others, rfl, hkey, hrest⟩ := h.exists_cons
    rw [List.all_cons, Bool.and_eq_true] at hs
    rw [(eq_iff_of_isCaseless hkey hs.1).1 rfl, ih hrest hs.2]

theorem mem_of_isCaseless (h : Recased s t) (hc : isCaseless c.toNat = true) (hmem : c ∈ s) :
    c ∈ t := by
  obtain ⟨front, back, rfl⟩ := List.append_of_mem hmem
  obtain ⟨first, second, rfl, -, hsecond⟩ := h.exists_append
  obtain ⟨d, rest, rfl, hkey, -⟩ := hsecond.exists_cons
  rw [← (eq_iff_of_isCaseless hkey hc).1 rfl]
  simp

theorem prefix_of_isCaseless (h : Recased s t) {marks : List Char}
    (hmarks : marks.all (isCaseless ·.toNat) = true) (hlead : marks <+: s) : marks <+: t := by
  obtain ⟨rest, rfl⟩ := hlead
  obtain ⟨first, second, rfl, hfirst, -⟩ := h.exists_append
  rw [hfirst.eq_of_isCaseless hmarks]
  exact List.prefix_append first second

theorem suffix_of_isCaseless (h : Recased s t) {marks : List Char}
    (hmarks : marks.all (isCaseless ·.toNat) = true) (hsuffix : marks <:+ s) : marks <:+ t := by
  obtain ⟨front, rfl⟩ := hsuffix
  obtain ⟨first, second, rfl, -, hsecond⟩ := h.exists_append
  rw [hsecond.eq_of_isCaseless hmarks]
  exact List.suffix_append first second

end Recased

end HeaderRules.Text
