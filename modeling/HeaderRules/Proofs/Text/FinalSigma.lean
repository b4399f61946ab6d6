import HeaderRules.Proofs.Text.AsciiCase
/-!
# Lower case of a part of a text

What lower case makes of a text inside a longer one. Only a capital sigma looks at its neighbours:
it takes its final form where a word ends, and what stands around a text may end a word that goes on
without it, or go on with a word that ends without it.
-/

namespace HeaderRules.Text

/-- The nearest character that is not passed over, if there is one: whether it has case. -/
def nearestCase (cs : List Char) : Option Bool := (cs.find? (!isCaseIgnorable ·)).map isCased

/-- A sigma between two texts, the first one in reverse order, ends a word. -/
def endsWord (before after : List Char) : Bool := nextIsCased before && !nextIsCased after

def lowerOne (before after : List Char) (c : Char) : List Char :=
  if c = 'Σ' then [if endsWord before after then 'ς' else 'σ']
  else if c = 'İ' then ['i', '\u0307']
  else [Char.ofNat (lowerCode c.toNat)]

/-- Lower case of a text between two others, the first one in reverse order. -/
def lowerBetween (before after : List Char) : List Char → List Char
  | [] => []
  | c :: rest => lowerOne before (rest ++ after) c ++ lowerBetween (c :: before) after rest

/-- Between two texts it is settled whether a sigma ends a word, whatever stands around them. -/
inductive Settled (before after : List Char) : Prop
  | goesOn (h : nearestCase after = some true)
  | stands (h : nearestCase before = some false)
  | between (hbefore : (nearestCase before).isSome) (hafter : (nearestCase after).isSome)

variable {before after earlier later front back s t : List Char}

/-! ## The nearest character -/

theorem nextIsCased_eq (cs : List Char) : nextIsCased cs = (nearestCase cs).getD false := by
  induction cs with
  | nil => rfl
  | cons c rest ih =>
    rw [nextIsCased_cons, nearestCase, List.find?_cons]
    cases hignored : isCaseIgnorable c with
    | false => rfl
    | true => exact ih

theorem nextIsCased_iff {cs : List Char} : nextIsCased cs = true ↔ nearestCase cs = some true := by
  rw [nextIsCased_eq]
  cases nearestCase cs <;> simp

theorem nearestCase_append (s t : List Char) :
    nearestCase (s ++ t) = (nearestCase s).or (nearestCase t) := by
  rw [nearestCase, List.find?_append, Option.map_or]
  rfl

theorem nearestCase_eq_none :
    nearestCase s = none ↔ ∀ c ∈ s, isCaseIgnorable c = true := by
  simp [nearestCase]

theorem isCased_sigma : isCaseIgnorable 'Σ' = false ∧ isCased 'Σ' = true := by decide +kernel

theorem nearestCase_sigma (s : List Char) : nearestCase ('Σ' :: s) = some true := by
  simp [nearestCase, isCased_sigma]

theorem not_mem_of_nearestCase_eq_none (h : nearestCase s = none) : 'Σ' ∉ s := by
  intro hmem
  have hignored : isCaseIgnorable 'Σ' = true := nearestCase_eq_none.1 h 'Σ' hmem
  rw [isCased_sigma.1] at hignored
  cases hignored

/-- What is settled stays so in any surroundings. -/
theorem endsWord_of_settled (h : Settled before after) (earlier later : List Char) :
    endsWord (before ++ earlier) (after ++ later) = endsWord before after := by
  simp only [endsWord, nextIsCased_eq, nearestCase_append]
  cases h with
  | goesOn h => simp [h]
  | stands h => simp [h]
  | between hbefore hafter =>
    obtain ⟨cased, hcased⟩ := Option.isSome_iff_exists.1 hbefore
    obtain ⟨goes, hgoes⟩ := Option.isSome_iff_exists.1 hafter
    simp [hcased, hgoes]

/-- What is not settled is open at the beginning or at the end. -/
theorem open_of_not_settled (h : ¬Settled before after) :
    (nearestCase before = none ∧ nearestCase after ≠ some true) ∨
      (nearestCase before = some true ∧ nearestCase after = none) := by
  have hafter : nearestCase after ≠ some true := fun hafter => h (.goesOn hafter)
  cases hbefore : nearestCase before with
  | none => exact .inl ⟨rfl, hafter⟩
  | some cased =>
    cases cased with
    | false => exact absurd (.stands hbefore) h
    | true =>
      refine .inr ⟨rfl, ?_⟩
      rw [Option.eq_none_iff_forall_ne_some]
      intro goes hgoes
      exact h (.between (by simp [hbefore]) (by simp [hgoes]))

/-! ## Lower case between texts -/

theorem lowerAfter_eq (before s : List Char) : lowerAfter before s = lowerBetween before [] s := by
  induction s generalizing before with
  | nil => rfl
  | cons c rest ih =>
    rw [lowerAfter, lowerBetween, ih, List.append_nil]
    rfl

theorem lower_eq (s : List Char) : lower s = lowerBetween [] [] s := lowerAfter_eq [] s

theorem lowerBetween_append (before after s t : List Char) :
    lowerBetween before after (s ++ t) =
      lowerBetween before (t ++ after) s ++ lowerBetween (s.reverse ++ before) after t := by
  induction s generalizing before with
  | nil => rfl
  | cons c rest ih => simp [lowerBetween, ih]

theorem lowerOne_of_ne {c : Char} (h : c ≠ 'Σ') :
    lowerOne before after c = lowerOne earlier later c := by
  rw [lowerOne, lowerOne, if_neg h, if_neg h]

theorem lowerBetween_sigma (before after front back : List Char) :
    lowerBetween before after (front ++ 'Σ' :: back) =
      lowerBetween before ('Σ' :: (back ++ after)) front ++
        (if endsWord (front.reverse ++ before) (back ++ after) then 'ς' else 'σ') ::
          lowerBetween ('Σ' :: (front.reverse ++ before)) after back := by
  rw [lowerBetween_append, lowerBetween, lowerOne, if_pos rfl]
  rfl

/-- Lower case of a text is the same in all surroundings in which its sigmas end words alike. -/
theorem lowerBetween_congr
    (h : ∀ front back, s = front ++ 'Σ' :: back →
      endsWord (front.reverse ++ before) (back ++ after) =
        endsWord (front.reverse ++ earlier) (back ++ later)) :
    lowerBetween before after s = lowerBetween earlier later s := by
  induction s generalizing before earlier with
  | nil => rfl
  | cons c rest ih =>
    have hrest :
        lowerBetween (c :: before) after rest = lowerBetween (c :: earlier) later rest := by
      refine ih fun front back hsplit => ?_
      simpa using h (c :: front) back (by rw [hsplit]; rfl)
    rw [lowerBetween, lowerBetween, hrest]
    by_cases hc : c = 'Σ'
    · subst hc
      have hfirst := h [] rest rfl
      rw [lowerOne, lowerOne, if_pos rfl, if_pos rfl]
      simp only [List.reverse_nil, List.nil_append] at hfirst
      rw [hfirst]
    · rw [lowerOne_of_ne hc]

theorem lowerBetween_of_not_mem (h : 'Σ' ∉ s) :
    lowerBetween before after s = lowerBetween earlier later s := by
  refine lowerBetween_congr fun front back hsplit => absurd ?_ h
  simp [hsplit]

/-- A sigma keeps what stands before it from what stands behind it. -/
theorem lowerBetween_behind_sigma :
    lowerBetween ('Σ' :: before) after s = lowerBetween ('Σ' :: earlier) after s := by
  refine lowerBetween_congr fun front back _ => ?_
  simp only [endsWord, nextIsCased_eq, nearestCase_append, nearestCase_sigma]

theorem lowerBetween_before_sigma :
    lowerBetween before ('Σ' :: after) s = lowerBetween before ('Σ' :: later) s := by
  refine lowerBetween_congr fun front back _ => ?_
  simp only [endsWord, nextIsCased_eq, nearestCase_append, nearestCase_sigma]

/-! ## Sigmas that are not settled -/

theorem nearestCase_letter : nearestCase ['a'] = some true := by decide +kernel

theorem lowerBetween_letter : lowerBetween before after ['a'] = ['a'] := by
  rw [lowerBetween, lowerBetween, lowerOne, if_neg (by decide), if_neg (by decide)]
  decide +kernel

/-- A letter in front of a text makes a sigma end its word that ends none in the text alone. -/
theorem lower_open_front (hfront : nearestCase front.reverse = none)
    (hback : nearestCase back ≠ some true) :
    ∃ first last, lower (front ++ 'Σ' :: back) = first ++ 'σ' :: last ∧
      lower (['a'] ++ (front ++ 'Σ' :: back)) = ['a'] ++ (first ++ 'ς' :: last) := by
  have halone : endsWord front.reverse back = false := by
    simp [endsWord, nextIsCased_eq, hfront]
  have hends : nextIsCased back = false := by rwa [Bool.eq_false_iff, Ne, nextIsCased_iff]
  have hbehind : endsWord (front.reverse ++ ['a']) back = true := by
    simp [endsWord, hends, nextIsCased_iff, nearestCase_append, hfront, nearestCase_letter]
  -- what stands before the sigma has no other sigma in it, and it hides the letter from the rest
  have hnone : 'Σ' ∉ front := by simpa using not_mem_of_nearestCase_eq_none hfront
  have hfirst : lowerBetween ['a'] ('Σ' :: back) front = lowerBetween [] ('Σ' :: back) front :=
    lowerBetween_of_not_mem hnone
  have hlast : lowerBetween ('Σ' :: (front.reverse ++ ['a'])) [] back =
      lowerBetween ('Σ' :: front.reverse) [] back := lowerBetween_behind_sigma
  refine ⟨lowerBetween [] ('Σ' :: back) front, lowerBetween ('Σ' :: front.reverse) [] back, ?_, ?_⟩
  · rw [lower_eq, lowerBetween_sigma]
    simp [halone]
  · rw [lower_eq, lowerBetween_append, lowerBetween_letter, lowerBetween_sigma]
    simp only [List.reverse_singleton, List.append_nil, hbehind, if_true, hfirst, hlast]

/-- A letter behind a text makes a sigma go on with its word that ends it in the text alone. -/
theorem lower_open_back (hfront : nearestCase front.reverse = some true)
    (hback : nearestCase back = none) :
    ∃ first last, lower (front ++ 'Σ' :: back) = first ++ 'ς' :: last ∧
      lower ((front ++ 'Σ' :: back) ++ ['a']) = first ++ 'σ' :: last ++ ['a'] := by
  have halone : endsWord front.reverse back = true := by
    simp [endsWord, nextIsCased_eq, hfront, hback]
  have hbefore : endsWord front.reverse (back ++ ['a']) = false := by
    simp [endsWord, nextIsCased_eq, nearestCase_append, hback, nearestCase_letter]
  have hnone : 'Σ' ∉ back := not_mem_of_nearestCase_eq_none hback
  have hfirst : lowerBetween [] ('Σ' :: (back ++ ['a'])) front =
      lowerBetween [] ('Σ' :: back) front := lowerBetween_before_sigma
  have hlast : lowerBetween ('Σ' :: front.reverse) ['a'] back =
      lowerBetween ('Σ' :: front.reverse) [] back := lowerBetween_of_not_mem hnone
  refine ⟨lowerBetween [] ('Σ' :: back) front, lowerBetween ('Σ' :: front.reverse) [] back, ?_, ?_⟩
  · rw [lower_eq, lowerBetween_sigma]
    simp [halone]
  · rw [lower_eq, lowerBetween_append, lowerBetween_letter, lowerBetween_sigma]
    simp only [List.append_nil, hbefore, Bool.false_eq_true, if_false, hfirst, hlast]

end HeaderRules.Text
