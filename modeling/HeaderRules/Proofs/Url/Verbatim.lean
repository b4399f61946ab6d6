import HeaderRules.Proofs.Text.FinalSigma
import HeaderRules.Proofs.Url.PatternMeaning
/-!
# Patterns that stand in a URL as they are written

A simple pattern is looked for in lower case, and so is the URL. A URL that has the pattern in it as
it is written matches, as long as the sigmas of the pattern end words there just as they do in the
pattern alone. Every URL that has the pattern in it matches exactly if this is settled for all of
them within the pattern.
-/

namespace HeaderRules.Url

open HeaderRules.Text

/-- One character taken for another cannot be made up for by what stands around. -/
theorem not_infix_of_ne {x y : Char} {first last left right : List Char} (hne : x ≠ y)
    (hleft : x ∉ left) (hright : x ∉ right) :
    ¬(first ++ x :: last) <:+: left ++ (first ++ y :: last) ++ right := by
  intro h
  have hcount := h.sublist.count_le x
  simp only [List.count_append, List.count_cons_self, List.count_cons_of_ne hne.symm,
    List.count_eq_zero.2 hleft, List.count_eq_zero.2 hright] at hcount
  omega

variable {pattern : List Char}

theorem evaluate_simple_iff (hformat : formatOf pattern = .simple) {url : List Char} :
    evaluate pattern url = .ok true ↔ lower pattern <:+: lower url := by
  rw [evaluate_simple hformat, ← occursIn_iff]
  simp

theorem evaluate_of_same_sigmas (hformat : formatOf pattern = .simple) {left right : List Char}
    (h : ∀ front back, pattern = front ++ 'Σ' :: back →
      endsWord (front.reverse ++ left.reverse) (back ++ right) = endsWord front.reverse back) :
    evaluate pattern (left ++ pattern ++ right) = .ok true := by
  have hsame : lowerBetween left.reverse right pattern = lower pattern := by
    rw [lower_eq]
    exact lowerBetween_congr fun front back hsplit => by simpa using h front back hsplit
  rw [evaluate_simple_iff hformat, lower_eq (left ++ pattern ++ right), lowerBetween_append,
    lowerBetween_append]
  simp only [List.append_nil, hsame]
  exact ⟨_, _, rfl⟩

/-- A sigma that is not settled has a URL that is missed. -/
theorem exists_miss (hformat : formatOf pattern = .simple) {front back : List Char}
    (hsplit : pattern = front ++ 'Σ' :: back) (hopen : ¬Settled front.reverse back) :
    ∃ left right, evaluate pattern (left ++ pattern ++ right) ≠ .ok true := by
  obtain ⟨hfront, hback⟩ | ⟨hfront, hback⟩ := open_of_not_settled hopen
  · obtain ⟨first, last, halone, hurl⟩ := lower_open_front hfront hback
    refine ⟨['a'], [], ?_⟩
    rw [Ne, evaluate_simple_iff hformat, List.append_nil, hsplit, halone, hurl,
      ← List.append_nil (['a'] ++ _)]
    exact not_infix_of_ne (by decide) (by decide) (by decide)
  · obtain ⟨first, last, halone, hurl⟩ := lower_open_back hfront hback
    refine ⟨[], ['a'], ?_⟩
    rw [Ne, evaluate_simple_iff hformat, List.nil_append, hsplit, halone, hurl]
    exact not_infix_of_ne (by decide) List.not_mem_nil (by decide)

/-- A URL that has a simple pattern in it matches if the sigmas of the pattern end words there as
they do in the pattern alone. All such URLs match exactly if the pattern settles this. -/
theorem evaluate_verbatim (hformat : formatOf pattern = .simple) :
    (∀ left right, (∀ front back, pattern = front ++ 'Σ' :: back →
        endsWord (front.reverse ++ left.reverse) (back ++ right) = endsWord front.reverse back) →
      evaluate pattern (left ++ pattern ++ right) = .ok true) ∧
    ((∀ left right, evaluate pattern (left ++ pattern ++ right) = .ok true) ↔
      ∀ front back, pattern = front ++ 'Σ' :: back → Settled front.reverse back) := by
  refine ⟨fun left right => evaluate_of_same_sigmas hformat, ?_, ?_⟩
  · intro hall front back hsplit
    by_contra hopen
    obtain ⟨left, right, hmiss⟩ := exists_miss hformat hsplit hopen
    exact hmiss (hall left right)
  · intro hsettled left right
    refine evaluate_of_same_sigmas hformat fun front back hsplit => ?_
    exact endsWord_of_settled (hsettled front back hsplit) left.reverse right

/-- A pattern with a sigma in the middle of a word is found. -/
theorem evaluate_verbatim_middle :
    let pattern := "αΣβ".toList
    formatOf pattern = .simple ∧
      evaluate pattern ("https://".toList ++ pattern ++ "/".toList) = .ok true := by
  intro pattern
  have hformat : formatOf pattern = .simple := by decide +kernel
  have hsettled : ∀ front back, pattern = front ++ 'Σ' :: back → Settled front.reverse back := by
    intro front back hsplit
    obtain _ | ⟨_, _ | ⟨_, _ | ⟨_, front⟩⟩⟩ := front
    · simp [pattern] at hsplit
    · obtain ⟨-, rfl⟩ : 'α' = _ ∧ ['β'] = back := by simpa [pattern] using hsplit
      exact .goesOn (by decide +kernel)
    · simp [pattern] at hsplit
    · simp [pattern] at hsplit
  exact ⟨hformat, (evaluate_verbatim hformat).2.2 hsettled _ _⟩

/-- A pattern that ends in a sigma is missed in a word that goes on behind it. -/
theorem evaluate_verbatim_missed :
    formatOf "aΣ".toList = .simple ∧
      evaluate "aΣ".toList ([] ++ "aΣ".toList ++ "b".toList) = .ok false := by
  have hformat : formatOf "aΣ".toList = .simple := by decide +kernel
  refine ⟨hformat, ?_⟩
  rw [evaluate_simple hformat]
  decide +kernel

end HeaderRules.Url
