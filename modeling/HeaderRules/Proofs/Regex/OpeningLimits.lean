import HeaderRules.Proofs.Regex.PartLimits
/-!
# Limits of the openings of groups

What follows an opening parenthesis is refused for faults only. It can set options for the whole
pattern, and then it asks for them in its text.
-/

namespace HeaderRules.Regex

variable {text : List Char} {s : Source} {r : Reader}

/-! ## Options -/

theorem isFlagLetter_of_flagOf? {c : Char} {flag : Flags} (h : flagOf? c = some flag) :
    isFlagLetter c = true := by
  rw [isFlagLetter, h]
  rfl

/-- Options that some letters set. -/
structure SetBy (letters : List Char) (before after : Flags) : Prop where
  named : ∀ c ∈ letters, isFlagLetter c = true
  alphabet : ∀ alphabet : Alphabet, alphabet.isSet after = true →
    alphabet.isSet before = true ∨ alphabet.letter ∈ letters

theorem SetBy.one {c : Char} {flag before : Flags} (h : flagOf? c = some flag) :
    SetBy [c] before (before.union flag) where
  named := by simpa using isFlagLetter_of_flagOf? h
  alphabet alphabet hset := by
    rw [Alphabet.isSet_union, Bool.or_eq_true] at hset
    rcases hset with hbefore | hflag
    · exact .inl hbefore
    · exact .inr (by simp [Alphabet.eq_letter_of_isSet h hflag])

theorem SetBy.append {first second : List Char} {before between after : Flags}
    (hfirst : SetBy first before between) (hsecond : SetBy second between after) :
    SetBy (first ++ second) before after where
  named c hc := (List.mem_append.1 hc).elim (hfirst.named c) (hsecond.named c)
  alphabet alphabet hset := by
    rcases hsecond.alphabet alphabet hset with hbetween | hmem
    · exact (hfirst.alphabet alphabet hbetween).imp_right (List.mem_append_left second)
    · exact .inr (List.mem_append_right first hmem)

theorem limited_flagsOn (fuel : Nat) (letter : Char) (on : Flags) (s : Source) :
    Limited text (fun t => ∃ letters, s.rest = letters ++ t.2.1 :: t.2.2.rest ∧
      SetBy (letter :: letters) on t.1) (flagsOn fuel letter on s) := by
  induction fuel generalizing letter on s with
  | zero => exact .fail _ _ _
  | succ fuel ih =>
    unfold flagsOn
    split
    · exact .fail _ _ _
    · rename_i flag hflag
      extract_lets next
      have hone : SetBy [letter] on next := .one hflag
      refine .ite (fun _ => .fail _ _ _) fun _ => (Source.limited_next s).bind ?_
      rintro ⟨token, t⟩ ht
      dsimp only
      split
      · exact .fail _ _ _
      · rename_i c
        refine .ite (fun _ => .pure ⟨[], ht, hone⟩) fun _ => .ite (fun _ => ?_) fun _ => .fail _ _ _
        refine (ih c next t).imp ?_
        rintro ⟨after, close, u⟩ ⟨letters, hletters, hset⟩
        refine ⟨c :: letters, ?_, hone.append hset⟩
        rw [ht, hletters]
        rfl
      · exact .fail _ _ _

theorem limited_flagsOff (fuel : Nat) (letter : Char) (off : Flags) (s : Source) :
    Limited text (fun t => t.2.rest <:+ s.rest) (flagsOff fuel letter off s) := by
  induction fuel generalizing letter off s with
  | zero => exact .fail _ _ _
  | succ fuel ih =>
    unfold flagsOff
    split
    · exact .fail _ _ _
    · refine .ite (fun _ => .fail _ _ _) fun _ => (Source.limited_next s).bind ?_
      rintro ⟨token, t⟩ ht
      have hsuffix : t.rest <:+ s.rest := Source.suffix_of_eq ht
      dsimp only
      split
      · exact .fail _ _ _
      · exact .ite (fun _ => .pure hsuffix) fun _ =>
          .ite (fun _ => (ih _ _ t).imp fun u hu => hu.trans hsuffix) fun _ => .fail _ _ _
      · exact .fail _ _ _

/-! ## Readers -/

/-- What a step leaves of the text, and that a text asks for the alphabets that it sets. -/
structure Opens (text : List Char) (r after : Reader) : Prop where
  rest : after.source.rest <:+ r.source.rest
  alphabet : ∀ alphabet : Alphabet, alphabet.isSet after.flags = true →
    alphabet.isSet r.flags = true ∨ Asks alphabet.letter text

theorem Keeps.opens {after : Reader} (h : Keeps r after) : Opens text r after where
  rest := h.1
  alphabet _ hset := .inl (h.2 ▸ hset)

/-- Options that stand before a closing parenthesis are set for the whole pattern, and they are what
the text asks for. -/
theorem SetBy.opens {first : Char} {letters : List Char} {on : Flags} {t : Source}
    (hrest : r.source.rest = letters ++ ')' :: t.rest) (hset : SetBy (first :: letters) {} on) :
    Opens ('(' :: '?' :: first :: r.source.rest) r
      { r with source := t, flags := r.flags.union on } := by
  have hpiece : '(' :: '?' :: (first :: letters) ++ [')'] <:+:
      '(' :: '?' :: first :: r.source.rest :=
    ⟨[], t.rest, by simp [hrest]⟩
  refine ⟨⟨letters ++ [')'], by simp [hrest]⟩, fun alphabet halphabet => ?_⟩
  rw [Alphabet.isSet_union, Bool.or_eq_true] at halphabet
  rcases halphabet with hbefore | hon
  · exact .inl hbefore
  · rcases hset.alphabet alphabet hon with hnone | hmem
    · rw [Alphabet.isSet_none] at hnone
      cases hnone
    · exact .inr ⟨_, hmem, hset.named, hpiece⟩

theorem limited_parseFlags (first : Char) (r : Reader) :
    Limited text (fun t => Opens ('(' :: '?' :: first :: r.source.rest) r t.2)
      (parseFlags first r) := by
  unfold parseFlags
  extract_lets fuel finish
  have hfinish (on : Flags) (close : Char) (t : Source) (ht : t.rest <:+ r.source.rest)
      (hglobal : close = ')' → Opens ('(' :: '?' :: first :: r.source.rest) r
        { r with source := t, flags := r.flags.union on }) :
      Limited text (fun t => Opens ('(' :: '?' :: first :: r.source.rest) r t.2)
        (finish (on, close, t)) := by
    have hkeeps {u : Source} (hu : u.rest <:+ t.rest) : Keeps r { r with source := u } :=
      ⟨hu.trans ht, rfl⟩
    refine .ite (fun hclose => .pure (hglobal hclose)) fun _ => .ite (fun _ => .fail _ _ _) fun _ =>
      .ite (fun _ => .pure (hkeeps List.suffix_rfl).opens) fun _ => (Source.limited_next t).bind ?_
    rintro ⟨token, u⟩ hu
    have hsuffix : u.rest <:+ t.rest := Source.suffix_of_eq hu
    dsimp only
    split
    · exact .fail _ _ _
    · refine .ite (fun _ => (limited_flagsOff _ _ _ u).bind ?_) fun _ => .fail _ _ _
      rintro ⟨off, v⟩ hv
      exact .ite (fun _ => .fail _ _ _) fun _ => .ite (fun _ => .fail _ _ _) fun _ =>
        .pure (hkeeps (hv.trans hsuffix)).opens
    · exact .fail _ _ _
  refine .ite (fun _ => hfinish {} '-' r.source List.suffix_rfl nofun) fun _ => ?_
  refine (limited_flagsOn fuel first {} r.source).bind ?_
  rintro ⟨on, close, t⟩ ⟨letters, hrest, hset⟩
  refine hfinish on close t ⟨letters ++ [close], by simp [hrest]⟩ ?_
  rintro rfl
  exact hset.opens hrest

/-! ## Names and groups -/

theorem limited_checkName (cs : List Char) (s : Source) :
    Limited text (fun _ => True) (checkName cs s) := by
  unfold checkName
  exact .ite (fun _ => .pure trivial) fun _ => .fail _ _ _

theorem limited_conditionGroup (r : Reader) :
    Limited text (fun t => Keeps r t.2) (conditionGroup r) := by
  unfold conditionGroup
  refine (Source.limited_name _ _ _).bind ?_
  rintro ⟨cs, s⟩ hs
  dsimp only
  refine .ite (fun _ => ?_) fun _ => ?_
  · split
    · exact (limited_checkLookbehind _ _).bind fun _ _ => .pure ⟨hs, rfl⟩
    · exact .fail _ _ _
  · split
    · exact .fail _ _ _
    · refine .ite (fun _ => .fail _ _ _) fun _ => .ite (fun _ => .fail _ _ _) fun _ =>
        .ite (fun _ => .fail _ _ _) fun _ => (limited_checkLookbehind _ _).bind fun _ _ => .pure ?_
      split
      · exact ⟨hs, rfl⟩
      · exact ⟨hs, rfl⟩

theorem limited_namedReference (r : Reader) :
    Limited text (fun t => Keeps r t.2) (namedReference r) := by
  unfold namedReference
  refine (Source.limited_name _ _ _).bind ?_
  rintro ⟨cs, s⟩ hs
  refine (limited_checkName cs s).bind fun _ _ => ?_
  dsimp only
  split
  · exact .fail _ _ _
  · split
    · exact .fail _ _ _
    · exact (limited_checkLookbehind _ _).bind fun _ _ => .pure ⟨hs, rfl⟩

theorem limited_namedOpening (r : Reader) :
    Limited text (fun t => Keeps r t.2) (namedOpening r) := by
  unfold namedOpening
  refine (Source.limited_accept r.source '<').bind ?_
  rintro ⟨named, s⟩ hs
  have hs : s.rest <:+ r.source.rest := Source.suffix_of_eq hs
  refine .ite (fun _ => (Source.limited_name _ _ s).bind ?_) fun _ =>
    (Source.limited_accept s '=').bind ?_
  · rintro ⟨cs, t⟩ ht
    exact (limited_checkName cs t).bind fun _ _ => .pure ⟨ht.trans hs, rfl⟩
  · rintro ⟨reference, t⟩ ht
    have ht : t.rest <:+ r.source.rest := (Source.suffix_of_eq ht).trans hs
    refine .ite (fun _ => (limited_namedReference _).bind ?_) fun _ =>
      (Source.limited_next t).bind ?_
    · rintro ⟨node, after⟩ hafter
      exact .pure ⟨hafter.1.trans ht, hafter.2⟩
    · rintro ⟨token, u⟩ -
      dsimp only
      split
      · exact .fail _ _ _
      · exact .fail _ _ _

theorem limited_parseOpening (start : Nat) (r : Reader) :
    Limited text (fun t => Opens ('(' :: r.source.rest) r t.2) (parseOpening start r) := by
  have hsame : Keeps r r := ⟨List.suffix_rfl, rfl⟩
  unfold parseOpening
  refine (Source.limited_accept r.source '?').bind ?_
  rintro ⟨extended, s⟩ hs
  refine .ite (fun _ => .pure hsame.opens) fun hextended => (Source.limited_next s).bind ?_
  rintro ⟨token, t⟩ ht
  have hsuffix : t.rest <:+ r.source.rest := (Source.suffix_of_eq ht).trans (Source.suffix_of_eq hs)
  have hkeeps {after : Reader} (h : Keeps { r with source := t } after) :
      Opens ('(' :: r.source.rest) r after :=
    Keeps.opens ⟨h.1.trans hsuffix, h.2⟩
  have hhere : Opens ('(' :: r.source.rest) r { r with source := t } :=
    hkeeps ⟨List.suffix_rfl, rfl⟩
  dsimp only
  split
  · exact .fail _ _ _
  · exact (limited_namedOpening _).imp fun u hu => hkeeps hu
  · exact .pure hhere
  · exact (Source.limited_skipComment start t).bind fun u hu => .pure (hkeeps ⟨hu, rfl⟩)
  · exact .pure hhere
  · exact .pure hhere
  · refine (Source.limited_next t).bind ?_
    rintro ⟨next, u⟩ hu
    have hrest : u.rest <:+ t.rest := Source.suffix_of_eq hu
    dsimp only
    split
    · exact .fail _ _ _
    · exact .pure (hkeeps ⟨hrest, rfl⟩)
    · exact .pure (hkeeps ⟨hrest, rfl⟩)
    · exact .fail _ _ _
  · refine (limited_conditionGroup _).bind ?_
    rintro ⟨index, after⟩ hafter
    exact .pure (hkeeps hafter)
  · exact .pure hhere
  · rename_i other _ _ _ _ _ _ _ _
    cases other with
    | escaped c => exact .fail _ _ _
    | plain c =>
      refine .ite (fun _ => (limited_parseFlags c _).imp ?_) fun _ => .fail _ _ _
      rintro ⟨opening, after⟩ hafter
      obtain rfl : extended = true := by simpa using hextended
      have htext : '(' :: r.source.rest = '(' :: '?' :: c :: t.rest := by
        rw [hs, ht]
        rfl
      rw [htext]
      exact ⟨hafter.rest.trans hsuffix, hafter.alphabet⟩

end HeaderRules.Regex
