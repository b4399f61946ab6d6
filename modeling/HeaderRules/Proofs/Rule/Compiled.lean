import HeaderRules.Proofs.Rule.Firsts
import HeaderRules.Proofs.Rule.OfProfile
import HeaderRules.Proofs.Store.Check
/-!
# Compiled rules

The rules of a profile are made so that a store has next to nothing to say against them: of all that
the check of a rule asks for, only the names of the resource types are taken from the profile as
they are.
-/

namespace HeaderRules

theorem Matcher.types_toCondition (m : Matcher) : m.toCondition.types ≠ [] := by
  unfold toCondition
  cases htypes : m.types with
  | nil => simp [ResourceType.defaults]
  | cons type rest => simp

theorem Edit.operable_of_mem_operations {edits : List Edit} {op : Operation}
    (h : op ∈ Edit.operations edits) : Store.Operable op := by
  obtain ⟨e, he, rfl⟩ := List.mem_map.1 h
  have hactive := (List.mem_filter.1 he).2
  rw [isActive, Bool.and_eq_true] at hactive
  obtain ⟨name, hname, hink⟩ := (Option.any_eq_true _ _).1 hactive.2
  exact ⟨⟨name, hname, hink⟩, .inl rfl⟩

namespace Profile

variable {p : Profile} {rules : List Rule} {rule : Rule}

theorem mem_rules (h : p.rules = .ok rules) (hrule : rule ∈ rules) :
    p.action.operations ≠ [] ∧
      ∃ m ∈ p.ruleMatchers, ∃ id, RuleId.ofPair p.id m.id = .ok id ∧ rule = p.ruleWith m id := by
  obtain ⟨-, rfl⟩ | ⟨haction, hrules⟩ := rules_eq_ok_iff.1 h
  · cases hrule
  · obtain ⟨m, hm, hid⟩ := Outcome.exists_of_mapM_eq_ok hrules hrule
    refine ⟨fun hnone => ?_, m, hm, ruleOf_eq_ok.1 hid⟩
    rw [Store.isEmpty_iff_operations.2 hnone] at haction
    cases haction

theorem id_of_mem_rules (h : p.rules = .ok rules) (hrule : rule ∈ rules) :
    ∃ n, rule.id = .int n ∧ RuleId.least ≤ n ∧ n ≤ RuleId.greatest := by
  obtain ⟨-, m, -, id, hid, rfl⟩ := mem_rules h hrule
  obtain ⟨bytes, -, rfl⟩ := RuleId.ofText_eq_ok.1 hid
  obtain ⟨hleast, hgreatest⟩ := RuleId.ofBytes_bounds bytes
  refine ⟨_, rfl, hleast, ?_⟩
  have : RuleId.greatest = 2147483647 := rfl
  omega

theorem hasNumber_rules (h : p.rules = .ok rules) : ∀ rule ∈ rules, rule.HasNumber := by
  intro rule hrule
  obtain ⟨n, hn, -, -⟩ := id_of_mem_rules h hrule
  exact ⟨n, hn⟩

theorem operable_of_mem_action {op : Operation} (h : op ∈ p.action.operations) :
    Store.Operable op := by
  rcases List.mem_append.1 h with h | h
  · exact Edit.operable_of_mem_operations h
  · exact Edit.operable_of_mem_operations h

theorem installable_iff (h : p.rules = .ok rules) (hrule : rule ∈ rules) :
    Store.Installable rule ↔ ∀ type ∈ rule.condition.types, type ∈ ResourceType.known := by
  constructor
  · exact fun hinstallable => hinstallable.typesKnown
  · intro hknown
    have hid := id_of_mem_rules h hrule
    obtain ⟨haction, m, -, id, -, rfl⟩ := mem_rules h hrule
    exact
      { id := hid
        hasTypes := m.types_toCondition
        typesKnown := hknown
        hasOperations := haction
        operable := fun op hop => operable_of_mem_action hop }

theorem fault_of_mem_rules (h : p.rules = .ok rules) (hrule : rule ∈ rules) {fault : Store.Fault}
    (hfault : Store.validate rule = .error fault) :
    Store.unknownTypes rule.condition.types ≠ [] ∧
      fault = .unknownTypes rule.id (Store.unknownTypes rule.condition.types) := by
  have hunknown : Store.unknownTypes rule.condition.types ≠ [] := by
    intro hnone
    have hvalid := Store.validate_eq_ok.2
      ((installable_iff h hrule).2 (Store.unknownTypes_eq_nil_iff.1 hnone))
    rw [hvalid] at hfault
    cases hfault
  have hid := Store.isRuleId_iff.2 (id_of_mem_rules h hrule)
  obtain ⟨-, m, -, id, -, rfl⟩ := mem_rules h hrule
  have htypes : (p.ruleWith m id).condition.types.isEmpty = false :=
    List.isEmpty_eq_false_iff.2 m.types_toCondition
  unfold Store.validate at hfault
  rw [if_neg (by simp [hid]), if_neg (by simp [htypes]),
    if_pos (by simpa using hunknown)] at hfault
  exact ⟨hunknown, (Except.error.inj hfault).symm⟩

end Profile

end HeaderRules
