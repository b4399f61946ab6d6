import HeaderRules.Text.Case
/-!
# What a case-blind comparison takes for the same

The relation of two characters that the comparison does not tell apart, in both directions, and the
ASCII characters that are the same as no other.
-/

namespace HeaderRules.Text

theorem mapCase_cases (runs : List CaseRun) (code : Nat) :
    mapCase runs code = code ∨
      ∃ run ∈ runs, run.holds code = true ∧ mapCase runs code = (code + run.shift).toNat := by
  induction runs with
  | nil => exact .inl rfl
  | cons run rest ih =>
    rw [mapCase]
    split
    · exact .inl rfl
    · split
      · rename_i hholds
        exact .inr ⟨run, by simp, hholds, rfl⟩
      · obtain h | ⟨other, hother, hholds, heq⟩ := ih
        · exact .inl h
        · exact .inr ⟨other, by simp [hother], hholds, heq⟩

theorem CaseRun.bounds_of_holds {run : CaseRun} {code : Nat} (h : run.holds code = true) :
    run.first ≤ code ∧ code ≤ run.last := by
  simp only [holds, Bool.and_eq_true, decide_eq_true_eq] at h
  exact h.1

/-- The lower case of an ASCII letter is an ASCII letter, and all others stay clear of ASCII unless
they become a letter of it. -/
theorem lowerRuns_bounds : ∀ run ∈ lowerRuns,
    (0x41 ≤ run.first ∧ run.last ≤ 0x5A ∨ 0x80 ≤ run.first) ∧ 0x61 ≤ run.first + run.shift ∧
      (run.last + run.shift ≤ 0x7A ∨ 0x80 ≤ run.first + run.shift) := by
  decide +kernel

/-! ## Sources of a lower case character -/

theorem CaseRun.source?_of_holds {run : CaseRun} {code : Nat} (hrun : run ∈ lowerRuns)
    (h : run.holds code = true) : run.source? (code + run.shift).toNat = some code := by
  obtain ⟨hfirst, -⟩ := bounds_of_holds h
  obtain ⟨-, hshift, -⟩ := lowerRuns_bounds run hrun
  have hback : ((((code : Int) + run.shift).toNat : Int) - run.shift).toNat = code := by omega
  rw [source?, hback, if_pos h]

theorem mem_lowerSources {source code : Nat} :
    source ∈ lowerSources code ↔ lowerCode source = code := by
  rw [lowerSources, List.mem_filter, beq_iff_eq]
  refine ⟨And.right, fun h => ⟨?_, h⟩⟩
  obtain hsame | ⟨run, hrun, hholds, heq⟩ := mapCase_cases lowerRuns source
  · rw [← h, lowerCode, hsame]
    exact List.mem_cons_self
  · rw [← h, lowerCode, heq]
    exact List.mem_cons_of_mem _
      (List.mem_filterMap.2 ⟨run, hrun, CaseRun.source?_of_holds hrun hholds⟩)

/-! ## Cousins -/

theorem find?_caseCousins : ∀ group ∈ caseCousins, ∀ code ∈ group,
    caseCousins.find? (·.contains code) = some group := by
  decide +kernel

theorem mem_cousins {a b : Nat} :
    a ∈ cousins b ↔ a = b ∨ ∃ group ∈ caseCousins, a ∈ group ∧ b ∈ group := by
  rw [cousins, List.mem_cons, List.mem_filter]
  constructor
  · rintro (rfl | ⟨hmem, -⟩)
    · exact .inl rfl
    · cases hfind : caseCousins.find? (·.contains b) with
      | none =>
        rw [hfind, Option.getD_none] at hmem
        cases hmem
      | some group =>
        rw [hfind, Option.getD_some] at hmem
        have hb := List.find?_some hfind
        exact .inr ⟨group, List.mem_of_find?_eq_some hfind, hmem, by simpa using hb⟩
  · rintro (rfl | ⟨group, hgroup, ha, hb⟩)
    · exact .inl rfl
    · by_cases hab : a = b
      · exact .inl hab
      · rw [find?_caseCousins group hgroup b hb]
        exact .inr ⟨ha, by simpa using hab⟩

theorem mem_cousins_comm {a b : Nat} : a ∈ cousins b ↔ b ∈ cousins a := by
  rw [mem_cousins, mem_cousins]
  constructor
  · rintro (rfl | ⟨group, hgroup, ha, hb⟩)
    · exact .inl rfl
    · exact .inr ⟨group, hgroup, hb, ha⟩
  · rintro (rfl | ⟨group, hgroup, ha, hb⟩)
    · exact .inl rfl
    · exact .inr ⟨group, hgroup, hb, ha⟩

theorem sameLetter_comm (a b : Nat) : sameLetter a b = sameLetter b a := by
  rw [Bool.eq_iff_iff, sameLetter, sameLetter, List.contains_iff_mem, List.contains_iff_mem,
    mem_cousins_comm]

theorem sameLetter_self (code : Nat) : sameLetter code code = true := by
  rw [sameLetter, List.contains_iff_mem, mem_cousins]
  exact .inl rfl

/-- Two characters are the same if some source of a cousin of the second one is the first. -/
theorem sameLetter_iff {a b : Nat} :
    sameLetter a b = true ↔ a ∈ (cousins (lowerCode b)).flatMap lowerSources := by
  rw [sameLetter, List.contains_iff_mem, mem_cousins_comm, List.mem_flatMap]
  constructor
  · intro h
    exact ⟨lowerCode a, h, mem_lowerSources.2 rfl⟩
  · rintro ⟨code, hcode, ha⟩
    rwa [mem_lowerSources.1 ha]

/-! ## ASCII characters without case -/

def isCaseless (code : Nat) : Bool :=
  code < 0x80 && !(0x41 ≤ code && code ≤ 0x5A) && !(0x61 ≤ code && code ≤ 0x7A)

theorem isCaseless_iff {code : Nat} : isCaseless code = true ↔
    code < 0x80 ∧ ¬(0x41 ≤ code ∧ code ≤ 0x5A) ∧ ¬(0x61 ≤ code ∧ code ≤ 0x7A) := by
  simp only [isCaseless, Bool.and_eq_true, Bool.not_eq_true', decide_eq_true_eq,
    Bool.and_eq_false_iff, decide_eq_false_iff_not]
  omega

theorem lowerCode_eq_of_isCaseless {code wanted : Nat} (h : isCaseless wanted = true) :
    lowerCode code = wanted ↔ code = wanted := by
  rw [isCaseless_iff] at h
  obtain hsame | ⟨run, hrun, hholds, heq⟩ := mapCase_cases lowerRuns code
  · rw [lowerCode, hsame]
  · obtain ⟨hfirst, hlast⟩ := CaseRun.bounds_of_holds hholds
    obtain ⟨horigin, hleast, hgreatest⟩ := lowerRuns_bounds run hrun
    rw [lowerCode, heq]
    omega

theorem caseCousins_bounds : ∀ group ∈ caseCousins, ∀ code ∈ group,
    0x61 ≤ code ∧ code ≤ 0x7A ∨ 0x80 ≤ code := by
  decide +kernel

theorem cousins_of_isCaseless {a b : Nat} (h : isCaseless b = true) : a ∈ cousins b ↔ a = b := by
  rw [mem_cousins]
  refine ⟨?_, .inl⟩
  rintro (hab | ⟨group, hgroup, -, hb⟩)
  · exact hab
  · rw [isCaseless_iff] at h
    have := caseCousins_bounds group hgroup b hb
    omega

theorem sameLetter_of_isCaseless {a b : Nat} (h : isCaseless a = true) :
    sameLetter a b = true ↔ b = a := by
  rw [sameLetter, (lowerCode_eq_of_isCaseless h).2 rfl, List.contains_iff_mem,
    cousins_of_isCaseless h, lowerCode_eq_of_isCaseless h]

theorem lowerCode_ascii : ∀ code < 0x80, lowerCode code = lowerAscii code := by decide +kernel

theorem lowerCode_lt_of_ascii {code : Nat} (h : code < 0x80) : lowerCode code < 0x80 := by
  rw [lowerCode_ascii code h, lowerAscii]
  split <;> omega

/-- No two ASCII characters share an upper case unless they share the lower case. -/
theorem caseCousins_ascii : ∀ group ∈ caseCousins, ∀ a ∈ group, ∀ b ∈ group,
    a < 0x80 → b < 0x80 → a = b := by
  decide +kernel

theorem sameLetter_ascii {a b : Nat} (ha : a < 0x80) (hb : b < 0x80) :
    sameLetter a b = true ↔ lowerCode a = lowerCode b := by
  rw [sameLetter, List.contains_iff_mem, mem_cousins]
  constructor
  · rintro (hsame | ⟨group, hgroup, hmemb, hmema⟩)
    · exact hsame.symm
    · exact caseCousins_ascii group hgroup _ hmema _ hmemb (lowerCode_lt_of_ascii ha)
        (lowerCode_lt_of_ascii hb)
  · intro hsame
    exact .inl hsame.symm

theorem sameLetter_of_lowerCode_eq {a b : Nat} (h : lowerCode a = lowerCode b) (c : Nat) :
    sameLetter a c = sameLetter b c := by
  rw [sameLetter, sameLetter, h]

/-! ## ASCII texts -/

/-- A character in lower case, without a look at its neighbours. -/
def lowerChar (c : Char) : Char := Char.ofNat (lowerCode c.toNat)

theorem toNat_lowerChar_of_isValidChar {c : Char} (h : (lowerCode c.toNat).isValidChar) :
    (lowerChar c).toNat = lowerCode c.toNat := by
  rw [lowerChar, Char.ofNat, dif_pos h]
  rfl

theorem toNat_lowerChar {c : Char} (h : c.toNat < 0x80) :
    (lowerChar c).toNat = lowerCode c.toNat := by
  have hcode : lowerCode c.toNat < 0x80 := lowerCode_lt_of_ascii h
  exact toNat_lowerChar_of_isValidChar (.inl (by omega))

theorem sameLetter_iff_lowerChar {c d : Char} (hc : c.toNat < 0x80) (hd : d.toNat < 0x80) :
    sameLetter c.toNat d.toNat = true ↔ lowerChar d = lowerChar c := by
  rw [sameLetter_ascii hc hd, ← toNat_lowerChar hc, ← toNat_lowerChar hd, Char.toNat_inj, eq_comm]

theorem lowerAfter_eq_map {s : List Char} (hsigma : 'Σ' ∉ s) (hdotted : 'İ' ∉ s)
    (before : List Char) : lowerAfter before s = s.map lowerChar := by
  induction s generalizing before with
  | nil => rfl
  | cons c rest ih =>
    rw [List.mem_cons, not_or] at hsigma hdotted
    rw [lowerAfter, if_neg (Ne.symm hsigma.1), if_neg (Ne.symm hdotted.1),
      ih hsigma.2 hdotted.2, List.map_cons]
    rfl

theorem lower_ascii {s : List Char} (h : ∀ c ∈ s, c.toNat < 0x80) : lower s = s.map lowerChar :=
  lowerAfter_eq_map (fun hmem => absurd (h 'Σ' hmem) (by decide))
    (fun hmem => absurd (h 'İ' hmem) (by decide)) []

end HeaderRules.Text
