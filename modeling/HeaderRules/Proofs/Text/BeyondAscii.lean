import HeaderRules.Proofs.Text.AsciiCase
/-!
# Lower case beyond ASCII

The lower case of all scripts takes more texts for the same than the lower case of ASCII letters.
It does not among texts in which it changes nothing but ASCII letters. Every other text has a lower
case of which this is true, and from which it differs in more than ASCII case.
-/

namespace HeaderRules.Text

/-- Whether lower case changes nothing in a text but its ASCII letters. -/
def Plain (s : List Char) : Prop := ∀ c ∈ s, c.toNat < 0x80 ∨ lowerCode c.toNat = c.toNat

variable {c : Char} {s t : List Char}

instance : Decidable (Plain s) :=
  List.decidableBAll (fun c : Char => c.toNat < 0x80 ∨ lowerCode c.toNat = c.toNat) s

/-! ## Plain texts -/

theorem toNat_lowerChar_of_plain (h : c.toNat < 0x80 ∨ lowerCode c.toNat = c.toNat) :
    (lowerChar c).toNat = asciiKey c := by
  by_cases hascii : c.toNat < 0x80
  · rw [toNat_lowerChar hascii, lowerCode_ascii _ hascii]
    rfl
  · have hfixed : lowerCode c.toNat = c.toNat := h.resolve_left hascii
    rw [lowerChar, hfixed, Char.ofNat_toNat, asciiKey, lowerAscii, if_neg (by omega)]

theorem Plain.lower_eq (h : Plain s) : lower s = s.map lowerChar := by
  -- the two characters that become others by rules of their own are no plain ones
  have hsigma : 'Σ' ∉ s := fun hmem => absurd (h 'Σ' hmem) (by decide +kernel)
  have hdotted : 'İ' ∉ s := fun hmem => absurd (h 'İ' hmem) (by decide +kernel)
  exact lowerAfter_eq_map hsigma hdotted []

/-- Plain texts have one lower case only if they differ in ASCII case alone. -/
theorem Plain.lower_eq_iff (hs : Plain s) (ht : Plain t) : lower s = lower t ↔ Recased s t := by
  refine ⟨fun h => ?_, lower_congr⟩
  have hkeys {u : List Char} (hu : Plain u) : (lower u).map Char.toNat = u.map asciiKey := by
    rw [hu.lower_eq, List.map_map]
    exact List.map_congr_left fun c hc => toNat_lowerChar_of_plain (hu c hc)
  rw [Recased, ← hkeys hs, ← hkeys ht, h]

/-! ## Lower case once more -/

/-- Whether the code points from `first` to `last`, or only every other one of them, are outside all
runs up to the first run that begins behind them. -/
def clearOf (first last : Nat) (sparse : Bool) : List CaseRun → Bool
  | [] => true
  | run :: rest =>
    if run.last < first then clearOf first last sparse rest
    else last < run.first ||
      sparse && run.step == 2 && (first + run.first) % 2 == 1 && clearOf first last sparse rest

theorem mapCase_eq_self {first last code : Nat} {sparse : Bool} {runs : List CaseRun}
    (h : clearOf first last sparse runs = true) (hfirst : first ≤ code) (hlast : code ≤ last)
    (hsparse : sparse = true → (code - first) % 2 = 0) : mapCase runs code = code := by
  induction runs with
  | nil => rfl
  | cons run rest ih =>
    rw [clearOf] at h
    rw [mapCase]
    by_cases hbehind : code < run.first
    · rw [if_pos hbehind]
    · rw [if_neg hbehind]
      by_cases hbefore : run.last < first
      · have hholds : run.holds code = false := by
          simp [CaseRun.holds, show ¬code ≤ run.last by omega]
        rw [if_pos hbefore] at h
        rw [hholds]
        exact ih h
      · rw [if_neg hbefore] at h
        have hnot : ¬last < run.first := by omega
        simp only [hnot, decide_false, Bool.false_or, Bool.and_eq_true, beq_iff_eq] at h
        obtain ⟨⟨⟨heven, hstep⟩, hodd⟩, hrest⟩ := h
        have hgap : (code - run.first) % 2 ≠ 0 := by
          have := hsparse heven
          omega
        have hholds : run.holds code = false := by simp [CaseRun.holds, hstep, hgap]
        rw [hholds]
        exact ih hrest

/-- No code point that a run maps to is in a run. -/
theorem lowerRuns_clear : ∀ run ∈ lowerRuns,
    clearOf (run.first + run.shift).toNat (run.last + run.shift).toNat
      (run.step == 2 || run.first == run.last) lowerRuns = true := by
  decide +kernel

theorem lowerCode_lowerCode (code : Nat) : lowerCode (lowerCode code) = lowerCode code := by
  obtain hsame | ⟨run, hrun, hholds, heq⟩ := mapCase_cases lowerRuns code
  · rw [show lowerCode code = code from hsame]
    exact hsame
  · obtain ⟨hfirst, hlast⟩ := CaseRun.bounds_of_holds hholds
    obtain ⟨-, hleast, -⟩ := lowerRuns_bounds run hrun
    rw [show lowerCode code = (code + run.shift).toNat from heq]
    refine mapCase_eq_self (lowerRuns_clear run hrun) (by omega) (by omega) fun hsparse => ?_
    rw [Bool.or_eq_true, beq_iff_eq, beq_iff_eq] at hsparse
    obtain hstep | hsingle := hsparse
    · have hmember : (code - run.first) % 2 = 0 := by
        simp only [CaseRun.holds, Bool.and_eq_true, beq_iff_eq, hstep] at hholds
        exact hholds.2
      omega
    · obtain rfl : code = run.first := by omega
      simp

theorem lowerCode_toNat_lowerChar (c : Char) :
    lowerCode (lowerChar c).toNat = (lowerChar c).toNat := by
  by_cases hvalid : (lowerCode c.toNat).isValidChar
  · rw [toNat_lowerChar_of_isValidChar hvalid, lowerCode_lowerCode]
  · have hzero : lowerChar c = '\x00' := by
      rw [lowerChar, Char.ofNat, dif_neg hvalid]
      rfl
    rw [hzero]
    rfl

theorem lowerCode_of_mem_lowerAfter {before : List Char} (h : c ∈ lowerAfter before s) :
    lowerCode c.toNat = c.toNat := by
  induction s generalizing before with
  | nil => cases h
  | cons d rest ih =>
    rw [lowerAfter, List.mem_append] at h
    obtain h | h := h
    · split at h
      · obtain rfl := List.mem_singleton.1 h
        split <;> decide +kernel
      · split at h
        · obtain rfl | rfl : c = 'i' ∨ c = '\u0307' := by simpa using h
          · decide +kernel
          · decide +kernel
        · obtain rfl := List.mem_singleton.1 h
          exact lowerCode_toNat_lowerChar d
    · exact ih h

theorem plain_lower (s : List Char) : Plain (lower s) :=
  fun _ hc => .inr (lowerCode_of_mem_lowerAfter hc)

theorem lower_lower (s : List Char) : lower (lower s) = lower s := by
  have hsame : ∀ c ∈ lower s, lowerChar c = id c := by
    intro c hc
    rw [lowerChar, lowerCode_of_mem_lowerAfter hc, Char.ofNat_toNat]
    rfl
  rw [(plain_lower s).lower_eq, List.map_congr_left hsame, List.map_id]

/-- A text that is not plain differs from its lower case in more than ASCII case. -/
theorem not_recased_lower (h : ¬Plain s) : ¬Recased s (lower s) := by
  intro hrecased
  obtain ⟨c, hc, hchanged⟩ : ∃ c ∈ s, ¬(c.toNat < 0x80 ∨ lowerCode c.toNat = c.toNat) := by
    simpa [Plain] using h
  rw [not_or] at hchanged
  have hkey : asciiKey c ∈ (lower s).map asciiKey := by
    rw [← hrecased]
    exact List.mem_map_of_mem hc
  obtain ⟨d, hd, hsame⟩ := List.mem_map.1 hkey
  obtain rfl | ⟨_, _, _⟩ | ⟨_, _, _⟩ := eq_or_capital hsame
  · exact hchanged.2 (lowerCode_of_mem_lowerAfter hd)
  · omega
  · omega

end HeaderRules.Text
