import HeaderRules.Proofs.Apply.Atomic
import HeaderRules.Proofs.Rule.Compiled
import HeaderRules.Proofs.Rule.Repeated
/-!
# Applying the rules of a profile

A store takes the rules of a profile, whatever the profile holds and whichever ids fall together,
with two exceptions: a resource type that is not known, and more rules than the limit allows. There
are no rules to take if an id of the profile cannot be hashed.
-/

namespace HeaderRules.Apply

open HeaderRules.Store (fill)

theorem verdict_of_hasNumber {maxRules : Int} {rules : List Rule}
    (hnumbers : ∀ rule ∈ rules, rule.HasNumber) :
    verdict maxRules rules =
      ((fill maxRules (Rule.firsts rules)).mapError .store).map fun _ =>
        ⟨Rule.firsts rules, (Rule.repeats rules).map (·.id)⟩ := by
  unfold verdict
  rw [prepare_of_hasNumber hnumbers, Outcome.ok_bind]
  cases fill maxRules (Rule.firsts rules) <;> rfl

theorem run_of_hasNumber {s : Store} (hs : s.Reachable) {rules : List Rule}
    (hnumbers : ∀ rule ∈ rules, rule.HasNumber) :
    (run s rules).outcome =
      ((fill s.maxRules (Rule.firsts rules)).mapError .store).map fun _ =>
        ⟨(Rule.firsts rules).length, s.rules.length, (Rule.repeats rules).map (·.id)⟩ := by
  rw [(run_spec hs rules).1, verdict_of_hasNumber hnumbers]
  cases fill s.maxRules (Rule.firsts rules) <;> rfl

variable {p : Profile} {rules : List Rule}

theorem mem_of_mem_firsts (h : p.rules = .ok rules) {rule : Rule}
    (hrule : rule ∈ Rule.firsts rules) : rule ∈ rules :=
  (Rule.firsts_sublist (Profile.hasNumber_rules h)).subset hrule

theorem addable_firsts (hnumbers : ∀ rule ∈ rules, rule.HasNumber) :
    Store.Addable [] (Rule.firsts rules) ↔
      ∀ rule ∈ Rule.firsts rules, Store.Installable rule := by
  rw [Store.addable_iff (by simp) (by simp)]
  simp only [Store.validate_eq_ok, List.nil_append, Rule.firsts_distinct hnumbers, and_true]

theorem fill_rules_iff (h : p.rules = .ok rules) {maxRules : Int} :
    (∃ filled, fill maxRules (Rule.firsts rules) = .ok filled) ↔
      (∀ rule ∈ Rule.firsts rules, ∀ type ∈ rule.condition.types, type ∈ ResourceType.known) ∧
        ((Rule.firsts rules).length : Int) ≤ maxRules := by
  have hinstallable : (∀ rule ∈ Rule.firsts rules, Store.Installable rule) ↔
      ∀ rule ∈ Rule.firsts rules, ∀ type ∈ rule.condition.types, type ∈ ResourceType.known :=
    forall₂_congr fun rule hrule => Profile.installable_iff h (mem_of_mem_firsts h hrule)
  rw [← hinstallable, ← addable_firsts (Profile.hasNumber_rules h)]
  simp only [Store.fill_eq_ok, exists_eq_left]

theorem fault_of_fill_rules (h : p.rules = .ok rules) {maxRules : Int} {fault : Store.Fault}
    (hfill : fill maxRules (Rule.firsts rules) = .error fault) :
    (∃ rule ∈ Rule.firsts rules, Store.unknownTypes rule.condition.types ≠ [] ∧
        fault = .unknownTypes rule.id (Store.unknownTypes rule.condition.types)) ∨
      (maxRules < (Rule.firsts rules).length ∧
        fault = .tooMany (Rule.firsts rules).length maxRules) := by
  have hnumbers := Profile.hasNumber_rules h
  rcases Store.fault_of_fill hfill with ⟨before, rule, after, hsplit, haddable, hinstall⟩ | hroom
  · left
    have hmem : rule ∈ Rule.firsts rules := by simp [hsplit]
    have hrule := mem_of_mem_firsts h hmem
    rcases Store.install_eq_error.1 hinstall with hfault | ⟨-, htaken, -⟩
    · exact ⟨rule, hmem, Profile.fault_of_mem_rules h hrule hfault⟩
    · -- no id is taken, even if two matchers have one hash: the later of their rules is gone
      have hbefore : ∀ other ∈ before, other.HasNumber := fun other hother =>
        hnumbers other (mem_of_mem_firsts h (by simp [hsplit, hother]))
      have hdistinct := Rule.firsts_distinct hnumbers
      rw [hsplit, List.append_cons, List.map_append, List.nodup_append] at hdistinct
      have hnew := (Store.nodup_ids_concat.1 hdistinct.1).2
      rw [(Store.holdsId_eq_false_iff hbefore (hnumbers rule hrule)).2 hnew] at htaken
      cases htaken
  · exact .inr hroom

theorem run_rules_eq_ok_iff {s : Store} (hs : s.Reachable) (h : p.rules = .ok rules) :
    (∃ receipt, (run s rules).outcome = .ok receipt) ↔
      (∀ rule ∈ Rule.firsts rules, ∀ type ∈ rule.condition.types, type ∈ ResourceType.known) ∧
        ((Rule.firsts rules).length : Int) ≤ s.maxRules := by
  rw [run_of_hasNumber hs (Profile.hasNumber_rules h), ← fill_rules_iff h]
  cases fill s.maxRules (Rule.firsts rules) <;> simp

theorem fault_of_run_rules {s : Store} (hs : s.Reachable) (h : p.rules = .ok rules)
    {fault : ApplyFault Store.Fault} (hfault : (run s rules).outcome = .error fault) :
    (∃ rule ∈ Rule.firsts rules, Store.unknownTypes rule.condition.types ≠ [] ∧
        fault = .store (.unknownTypes rule.id (Store.unknownTypes rule.condition.types))) ∨
      (s.maxRules < (Rule.firsts rules).length ∧
        fault = .store (.tooMany (Rule.firsts rules).length s.maxRules)) := by
  rw [run_of_hasNumber hs (Profile.hasNumber_rules h)] at hfault
  cases hfill : fill s.maxRules (Rule.firsts rules) with
  | ok filled =>
    rw [hfill] at hfault
    cases hfault
  | error refusal =>
    rw [hfill] at hfault
    obtain rfl := Except.error.inj hfault
    rcases fault_of_fill_rules h hfill with ⟨rule, hmem, hunknown, rfl⟩ | ⟨hroom, rfl⟩
    · exact .inl ⟨rule, hmem, hunknown, rfl⟩
    · exact .inr ⟨hroom, rfl⟩

/-- A profile has rules exactly if there is nothing to do or its ids have a UTF-8 form. Its rules
are applied exactly if the types that they name are known and there is room for them, of rules with
one id only the first; if they are not applied, it is for one of these two reasons. -/
theorem run_rules_iff {s : Store} (hs : s.Reachable) (p : Profile) :
    ((∃ rules, p.rules = .ok rules) ↔ p.action.isEmpty = true ∨ p.IdsEncode) ∧
    ∀ rules, p.rules = .ok rules →
      ((∃ receipt, (run s rules).outcome = .ok receipt) ↔
        (∀ rule ∈ Rule.firsts rules, ∀ type ∈ rule.condition.types, type ∈ ResourceType.known) ∧
          ((Rule.firsts rules).length : Int) ≤ s.maxRules) ∧
      ∀ fault, (run s rules).outcome = .error fault →
        (∃ rule ∈ Rule.firsts rules, Store.unknownTypes rule.condition.types ≠ [] ∧
          fault = .store (.unknownTypes rule.id (Store.unknownTypes rule.condition.types))) ∨
        (s.maxRules < (Rule.firsts rules).length ∧
          fault = .store (.tooMany (Rule.firsts rules).length s.maxRules)) :=
  ⟨Profile.exists_rules_iff, fun _ h =>
    ⟨run_rules_eq_ok_iff hs h, fun _ => fault_of_run_rules hs h⟩⟩

/-- A profile of two matchers whose ids have one hash. -/
def collidingProfile : Profile where
  id := "p"
  enabled := true
  matchers := [⟨"9pd", "||a.com^", []⟩, ⟨"d7n4", "||b.com^", ["font"]⟩]
  requestEdits := [⟨"h", some "X-Env", "staging", .bool true⟩]
  responseEdits := []
  name := ""
  color := ""
  notes := ""

/-- Of two rules with one id the first fits into a store of one rule, where another one is. -/
theorem run_rules_iff_colliding :
    let s := ((Store.empty 1).update [] [pageRule 7 "old"]).store
    s.Reachable ∧ s.rules.length = 1 ∧
      ∃ rules, collidingProfile.rules = .ok rules ∧ rules.length = 2 ∧
        (Rule.firsts rules).length = 1 ∧ ∃ receipt, (run s rules).outcome = .ok receipt := by
  intro s
  have hs : s.Reachable := (Store.Reachable.empty 1).update [] [pageRule 7 "old"]
  have hencode : collidingProfile.IdsEncode := ⟨by decide, by decide⟩
  obtain ⟨hbuilds, happlies⟩ := run_rules_iff hs collidingProfile
  obtain ⟨rules, hrules⟩ := hbuilds.2 (.inr hencode)
  have hfacts : (collidingProfile.rules.map fun rules => (rules.length,
      (Rule.firsts rules).length, (Rule.firsts rules).all fun rule =>
        rule.condition.types.all ResourceType.known.contains)) = .ok (2, 1, true) := by
    decide +kernel
  rw [hrules, Outcome.map_ok, Except.ok.injEq, Prod.mk.injEq, Prod.mk.injEq] at hfacts
  obtain ⟨hlength, hfirsts, htypes⟩ := hfacts
  refine ⟨hs, by decide +kernel, rules, hrules, hlength, hfirsts, ?_⟩
  have hroom : ((Rule.firsts rules).length : Int) ≤ s.maxRules := by
    rw [hfirsts]
    decide +kernel
  exact (happlies rules hrules).1.2 ⟨by simpa using htypes, hroom⟩

/-- An edit takes part, all types are known and one rule is all that there would be, and yet there
are no rules to apply, because the id of the profile has no UTF-8 form. -/
theorem no_rules_halvedProfile :
    (∃ e ∈ Profile.halvedProfile.requestEdits, e.isActive = true) ∧
      (∀ m ∈ Profile.halvedProfile.ruleMatchers, ∀ type ∈ m.toCondition.types,
        type ∈ ResourceType.known) ∧
      Profile.halvedProfile.ruleMatchers.length = 1 ∧
      ∀ rules, Profile.halvedProfile.rules ≠ .ok rules := by
  refine ⟨by decide, by decide, by decide, fun rules hrules => ?_⟩
  obtain haction | hencode := Profile.exists_rules_iff.1 ⟨rules, hrules⟩
  · cases haction
  · exact absurd hencode.1 (by decide)

end HeaderRules.Apply
