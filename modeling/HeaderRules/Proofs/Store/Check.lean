import HeaderRules.Proofs.Outcome
import HeaderRules.Store
/-!
# Rules that can be installed

The check of a rule by itself, said without the order in which its parts are tried. A rule passes
exactly if its id is a whole number in range, it has resource types and all of them are known, and
it has operations, each of which names a header and has a known verb.
-/

namespace HeaderRules.Store

structure Operable (op : Operation) : Prop where
  header : ∃ name, op.header = some name ∧ Text.hasInk name = true
  verb : op.verb = .set ∨ op.verb = .append ∨ op.verb = .remove

/-- A rule that a store accepts, whatever else it holds. -/
structure Installable (rule : Rule) : Prop where
  id : ∃ n, rule.id = .int n ∧ RuleId.least ≤ n ∧ n ≤ RuleId.greatest
  hasTypes : rule.condition.types ≠ []
  typesKnown : ∀ type ∈ rule.condition.types, type ∈ ResourceType.known
  hasOperations : rule.action.operations ≠ []
  operable : ∀ op ∈ rule.action.operations, Operable op

theorem isRuleId_iff {id : Value} :
    isRuleId id = true ↔ ∃ n, id = .int n ∧ RuleId.least ≤ n ∧ n ≤ RuleId.greatest := by
  constructor
  · intro h
    unfold isRuleId at h
    split at h
    · rename_i n
      exact ⟨n, rfl, by simpa using h⟩
    · cases h
  · rintro ⟨n, rfl, hleast, hgreatest⟩
    simp [isRuleId, hleast, hgreatest]

theorem unknownTypes_eq_nil_iff {types : List String} :
    unknownTypes types = [] ↔ ∀ type ∈ types, type ∈ ResourceType.known := by
  rw [List.eq_nil_iff_forall_not_mem]
  simp [unknownTypes, List.mem_mergeSort, List.mem_eraseDups]

theorem isEmpty_iff_operations {a : Action} : a.isEmpty = true ↔ a.operations = [] := by
  simp [Action.isEmpty, Action.operations]

theorem validateOperation_eq_ok {id : Value} {op : Operation} :
    validateOperation id op = .ok () ↔ Operable op := by
  unfold validateOperation
  cases hnames : namesHeader op with
  | false =>
    have hblank : ¬ ∃ name, op.header = some name ∧ Text.hasInk name = true := by
      rintro ⟨name, hname, hink⟩
      simp [namesHeader, hname, hink] at hnames
    simp only [Bool.not_false, if_true, reduceCtorEq, false_iff]
    exact fun h => hblank h.header
  | true =>
    have hheader : ∃ name, op.header = some name ∧ Text.hasInk name = true := by
      simpa [namesHeader] using (Option.any_eq_true _ _).1 hnames
    constructor
    · intro h
      refine ⟨hheader, ?_⟩
      cases hverb : op.verb <;> simp_all
    · intro h
      rcases h.verb with hverb | hverb | hverb <;> simp [hverb]

theorem validate_eq_ok {rule : Rule} : validate rule = .ok () ↔ Installable rule := by
  unfold validate
  constructor
  · intro h
    split at h
    · cases h
    split at h
    · cases h
    split at h
    · cases h
    split at h
    · cases h
    rename_i hid htypes hknown hoperations
    exact
      { id := isRuleId_iff.1 (by simpa using hid)
        hasTypes := by simpa using htypes
        typesKnown := unknownTypes_eq_nil_iff.1 (by simpa using hknown)
        hasOperations := fun hnone => hoperations (isEmpty_iff_operations.2 hnone)
        operable := fun op hop => validateOperation_eq_ok.1 (Outcome.forM_eq_ok.1 h op hop) }
  · intro h
    rw [if_neg (by simpa using isRuleId_iff.2 h.id), if_neg (by simpa using h.hasTypes),
      if_neg (by simpa using unknownTypes_eq_nil_iff.2 h.typesKnown),
      if_neg (fun hnone => h.hasOperations (isEmpty_iff_operations.1 hnone))]
    exact Outcome.forM_eq_ok.2 fun op hop => validateOperation_eq_ok.2 (h.operable op hop)

end HeaderRules.Store
