import HeaderRules.Proofs.Url.PatternMeaning
/-!
# Patterns as filters

The preview reads a text as a pattern, and installed rules read it as a filter. A wildcard pattern
that matches a URL also matches it as a filter, and a simple pattern of plain ASCII characters
matches the same URLs either way.
-/

namespace HeaderRules.Url

open HeaderRules.Text (sameLetter lowerChar)
open HeaderRules.Regex

variable {pattern url text after : List Char}

theorem filterMatches_iff (hsome : isMatchAll pattern = false) :
    filterMatches pattern url = true ↔
      ∃ before text after, url = before ++ text ++ after ∧ BeginsAfter before (startOf pattern) ∧
        Spells (bodyOf pattern) text after ∧ (endsWithBar pattern = true → AtEnd after) := by
  have hcompile : compileFilter pattern = .ok ⟨filterFlags, (Filter.ofText pattern).toNode⟩ :=
    Filter.compile_toRegex (Filter.ofText pattern)
  have hplain := Filter.isPlain_toNode (Filter.ofText pattern)
  rw [filterMatches, hcompile, hsome, Bool.false_or, matchesSomewhere_iff hplain,
    exists_reads_toNode, ofText_eq]

theorem filterMatches_of_isMatchAll (hall : isMatchAll pattern = true) :
    filterMatches pattern url = true := by
  rw [filterMatches, hall, Bool.true_or]

/-! ## Wildcard patterns -/

theorem withEnd_split (start : FilterStart) (s : List Char) :
    (Filter.withEnd start s).start = start ∧
      (Filter.withEnd start s).body = (splitTrailingBar s).2 := by
  unfold Filter.withEnd splitTrailingBar
  split <;> exact ⟨rfl, rfl⟩

/-- Unless a pattern begins with two bars, what stands between its bars is what stands between those
of the filter. -/
theorem body_eq_bodyOf (hbars : ¬['|', '|'] <+: pattern) :
    Wildcard.body pattern = bodyOf pattern ∧
      (startOf pattern = .anywhere ∨ startOf pattern = .urlStart) := by
  have hbody : bodyOf pattern = (Filter.ofText pattern).body := by rw [ofText_eq]
  have hstart : startOf pattern = (Filter.ofText pattern).start := by rw [ofText_eq]
  rw [hbody, hstart]
  unfold Filter.ofText
  split
  · rename_i rest
    exact absurd ⟨rest, rfl⟩ hbars
  · rename_i rest _
    obtain ⟨hurlStart, hrest⟩ := withEnd_split .urlStart rest
    rw [hrest]
    exact ⟨rfl, .inr hurlStart⟩
  · rename_i hdomain hbar
    obtain ⟨hanywhere, hrest⟩ := withEnd_split .anywhere pattern
    have hleading : splitLeadingBar pattern = (false, pattern) := by
      unfold splitLeadingBar
      split
      · exact absurd rfl (hbar _)
      · rfl
    rw [hrest, Wildcard.body, hleading]
    exact ⟨rfl, .inl hanywhere⟩

theorem not_isLike_caret : ¬IsLike isNameChar '^' := by
  rintro ⟨d, hd, hsame⟩
  rw [Text.sameLetter_comm, Text.sameLetter_of_isCaseless (by decide)] at hsame
  obtain rfl := Char.toNat_inj.1 hsame
  exact absurd hd (by decide)

/-- A caret of a pattern is a caret of the URL, which is a separator. -/
theorem spellsChar_of_fitsChar {c : Char} (h : Wildcard.FitsChar c text) :
    SpellsChar c text after := by
  unfold Wildcard.FitsChar at h
  unfold SpellsChar
  by_cases hstar : c = '*'
  · rwa [if_pos hstar] at h ⊢
  · rw [if_neg hstar] at h ⊢
    by_cases hcaret : c = '^'
    · obtain ⟨d, rfl, hsame⟩ := h
      rw [hcaret, Text.sameLetter_of_isCaseless (by decide)] at hsame
      rw [if_pos hcaret, Char.toNat_inj.1 hsame]
      exact .inl ⟨'^', rfl, not_isLike_caret⟩
    · rwa [if_neg hcaret]

theorem spells_of_fits {body : List Char} (h : Wildcard.Fits body text) :
    Spells body text after := by
  induction h with
  | nil => exact .nil
  | cons head tail ih => exact .cons (spellsChar_of_fitsChar head) ih

theorem filterMatches_of_wildcard (hformat : formatOf pattern = .wildcard)
    (hbars : ¬['|', '|'] <+: pattern) (hmatch : evaluate pattern url = .ok true) :
    filterMatches pattern url = true := by
  cases hall : isMatchAll pattern with
  | true => exact filterMatches_of_isMatchAll hall
  | false =>
    obtain ⟨found, hfound, hmeaning⟩ := Wildcard.evaluate_eq hformat url
    obtain rfl : found = true := Except.ok.inj (hfound.symm.trans hmatch)
    obtain ⟨text, after, rfl, hfits, hend⟩ := hmeaning.1 rfl
    obtain ⟨hbody, hstart⟩ := body_eq_bodyOf hbars
    rw [hbody] at hfits
    have hbegins : BeginsAfter [] (startOf pattern) := by
      rcases hstart with hstart | hstart
      · rw [hstart]
        trivial
      · rw [hstart]
        rfl
    rw [filterMatches_iff hall]
    exact ⟨[], text, after, rfl, hbegins, spells_of_fits hfits, fun _ => hend⟩

/-! ## Simple patterns -/

/-- Characters that mean themselves in a filter spell the texts with the same lower case. -/
theorem spells_iff_lower {body : List Char}
    (hbody : ∀ c ∈ body, c ≠ '*' ∧ c ≠ '^' ∧ c.toNat < 0x80) (htext : ∀ d ∈ text, d.toNat < 0x80) :
    Spells body text after ↔ text.map lowerChar = body.map lowerChar := by
  induction body generalizing text with
  | nil => rw [spells_nil_iff, List.map_nil, List.map_eq_nil_iff]
  | cons c rest ih =>
    obtain ⟨⟨hstar, hcaret, hc⟩, hrest⟩ := List.forall_mem_cons.1 hbody
    constructor
    · intro hspells
      cases hspells with
      | cons head tail =>
        rw [SpellsChar, if_neg hstar, if_neg hcaret] at head
        obtain ⟨d, rfl, hsame⟩ := head
        obtain ⟨hd, htext⟩ := List.forall_mem_cons.1 htext
        have hlower : lowerChar d = lowerChar c := (Text.sameLetter_iff_lowerChar hc hd).1 hsame
        have hmap := (ih hrest htext).1 tail
        simpa [hlower] using hmap
    · intro hmap
      obtain ⟨d, others, rfl, hlower, hmap⟩ := List.map_eq_cons_iff.1 hmap
      obtain ⟨hd, htext⟩ := List.forall_mem_cons.1 htext
      have hhead : SpellsChar c [d] (others ++ after) := by
        rw [SpellsChar, if_neg hstar, if_neg hcaret]
        exact ⟨d, rfl, (Text.sameLetter_iff_lowerChar hc hd).2 hlower⟩
      exact .cons hhead ((ih hrest htext).2 hmap)

theorem isMatchAll_iff : isMatchAll pattern = true ↔ pattern = [] ∨ pattern = ['*'] := by
  rw [isMatchAll, Bool.or_eq_true, beq_iff_eq, beq_iff_eq]

theorem parts_of_bare (hfirst : pattern.head? ≠ some '|') (hlast : pattern.getLast? ≠ some '|') :
    startOf pattern = .anywhere ∧ bodyOf pattern = pattern ∧ endsWithBar pattern = false := by
  have hfilter : Filter.ofText pattern = ⟨.anywhere, pattern, false⟩ := by
    unfold Filter.ofText
    split
    · exact absurd rfl hfirst
    · exact absurd rfl hfirst
    · rw [Filter.withEnd, if_neg hlast]
  rw [ofText_eq] at hfilter
  exact ⟨congrArg Filter.start hfilter, congrArg Filter.body hfilter,
    congrArg Filter.atEnd hfilter⟩

theorem not_star_of_simple (hformat : formatOf pattern = .simple) : '*' ∉ pattern := by
  intro hmem
  rw [formatOf] at hformat
  split at hformat
  · cases hformat
  · rw [if_pos (List.contains_iff_mem.2 hmem)] at hformat
    cases hformat

theorem filterMatches_simple (hformat : formatOf pattern = .simple)
    (hpattern : ∀ c ∈ pattern, c.toNat < 0x80) (hurl : ∀ c ∈ url, c.toNat < 0x80)
    (hcaret : '^' ∉ pattern) (hfirst : pattern.head? ≠ some '|')
    (hlast : pattern.getLast? ≠ some '|') :
    filterMatches pattern url = true ↔ pattern.map lowerChar <:+: url.map lowerChar := by
  have hstar : '*' ∉ pattern := not_star_of_simple hformat
  have hplain : ∀ c ∈ pattern, c ≠ '*' ∧ c ≠ '^' ∧ c.toNat < 0x80 := by
    intro c hc
    refine ⟨?_, ?_, hpattern c hc⟩
    · rintro rfl
      exact hstar hc
    · rintro rfl
      exact hcaret hc
  obtain ⟨hstart, hbody, hend⟩ := parts_of_bare hfirst hlast
  cases hall : isMatchAll pattern with
  | true =>
    rcases isMatchAll_iff.1 hall with rfl | rfl
    · simp [filterMatches_of_isMatchAll hall]
    · exact absurd List.mem_cons_self hstar
  | false =>
    rw [filterMatches_iff hall, hstart, hbody, hend]
    constructor
    · rintro ⟨before, text, after, rfl, -, hspells, -⟩
      have htext : ∀ d ∈ text, d.toNat < 0x80 := fun d hd => hurl d (by simp [hd])
      rw [← (spells_iff_lower hplain htext).1 hspells]
      exact ⟨before.map lowerChar, after.map lowerChar, by simp⟩
    · rintro ⟨front, back, hsplit⟩
      obtain ⟨whole, after, rfl, hwhole, -⟩ := List.map_eq_append_iff.1 hsplit.symm
      obtain ⟨before, text, rfl, -, hlower⟩ := List.map_eq_append_iff.1 hwhole
      have htext : ∀ d ∈ text, d.toNat < 0x80 := fun d hd => hurl d (by simp [hd])
      exact ⟨before, text, after, rfl, trivial, (spells_iff_lower hplain htext).2 hlower, nofun⟩

/-- What the preview says of a text as a pattern holds of it as a filter. A wildcard pattern that
does not begin with two bars has an answer on every URL, and the URLs that it matches pass the
filter. A simple pattern of ASCII characters, without a caret and without bars at its ends, matches
just the ASCII URLs that pass the filter. -/
theorem preview_kept (pattern url : List Char) :
    (formatOf pattern = .wildcard → ¬['|', '|'] <+: pattern →
      ∃ found, evaluate pattern url = .ok found ∧
        (found = true → filterMatches pattern url = true)) ∧
    (formatOf pattern = .simple → (∀ c ∈ pattern, c.toNat < 0x80) → '^' ∉ pattern →
      pattern.head? ≠ some '|' → pattern.getLast? ≠ some '|' → (∀ c ∈ url, c.toNat < 0x80) →
      evaluate pattern url = .ok (filterMatches pattern url)) := by
  refine ⟨?_, ?_⟩
  · intro hformat hbars
    obtain ⟨found, hfound, -⟩ := Wildcard.evaluate_eq hformat url
    refine ⟨found, hfound, ?_⟩
    rintro rfl
    exact filterMatches_of_wildcard hformat hbars hfound
  · intro hformat hpattern hcaret hfirst hlast hurl
    have hfilter := filterMatches_simple hformat hpattern hurl hcaret hfirst hlast
    have hoccurs : occursIn (Text.lower pattern) (Text.lower url) = filterMatches pattern url := by
      rw [Bool.eq_iff_iff, occursIn_iff, Text.lower_ascii hpattern, Text.lower_ascii hurl, hfilter]
    rw [evaluate_simple hformat, hoccurs]

/-- A wildcard pattern with a bar at each end and a caret, and a simple pattern in upper case. -/
theorem preview_kept_both :
    evaluate "|*.a^\\*|".toList "x.A^\\y\n".toList = .ok true ∧
      filterMatches "|*.a^\\*|".toList "x.A^\\y\n".toList = true ∧
      evaluate "a.EXAMPLE".toList "https://A.example/b".toList = .ok true ∧
      filterMatches "a.EXAMPLE".toList "https://A.example/b".toList = true := by
  have hwildcard : (evaluate "|*.a^\\*|".toList "x.A^\\y\n".toList).toOption = some true := by
    decide +kernel
  obtain ⟨found, hfound, hkept⟩ := (preview_kept "|*.a^\\*|".toList "x.A^\\y\n".toList).1
    (by decide +kernel) (by decide +kernel)
  rw [hfound] at hwildcard
  obtain rfl : found = true := Option.some.inj hwildcard
  have hsimple : filterMatches "a.EXAMPLE".toList "https://A.example/b".toList = true := by
    decide +kernel
  have hpattern : "a.EXAMPLE".toList.all (fun c => decide (c.toNat < 0x80)) = true := by
    decide +kernel
  have hurl : "https://A.example/b".toList.all (fun c => decide (c.toNat < 0x80)) = true := by
    decide +kernel
  have hboth := (preview_kept "a.EXAMPLE".toList "https://A.example/b".toList).2
    (by decide +kernel) (fun c hc => of_decide_eq_true (List.all_eq_true.1 hpattern c hc))
    (by decide +kernel) (by decide +kernel) (by decide +kernel)
    (fun c hc => of_decide_eq_true (List.all_eq_true.1 hurl c hc))
  rw [hsimple] at hboth
  exact ⟨hfound, hkept rfl, hboth, hsimple⟩

end HeaderRules.Url
