import HeaderRules.Proofs.Rule.Hash
import HeaderRules.Rule.OfProfile
import Mathlib.Data.List.DropRight
/-!
# One rule for each matcher id

A profile has rules as soon as one of its edits takes part, and then one for each matcher id, in the
order in which the ids first occur. Where a rule applies is said by the first matcher with its id,
and what it does is the same for all: it sets the headers of the edits that take part. An id that
cannot be hashed leaves a profile without rules.
-/

namespace HeaderRules

open HeaderRules.Text (isBlank hasInk trim)

/-! ## Edits that take part -/

theorem Text.trim_eq_nil_iff {s : List Char} : trim s = [] ↔ ∀ c ∈ s, isBlank c = true := by
  have htrim : trim s = (s.dropWhile isBlank).rdropWhile isBlank := rfl
  rw [htrim, List.rdropWhile_eq_nil_iff, ← List.dropWhile_eq_nil_iff, List.dropWhile_idempotent,
    List.dropWhile_eq_nil_iff]

theorem Text.hasInk_iff {s : String} : hasInk s = true ↔ trim s.toList ≠ [] := by
  rw [Ne, trim_eq_nil_iff]
  simp [hasInk]

namespace Edit

/-- An edit takes part if it is not switched off and its name is not empty when it is trimmed. -/
def TakesPart (e : Edit) : Prop :=
  e.enabled ≠ .bool false ∧ ∃ name, e.header = some name ∧ trim name.toList ≠ []

/-- The operations that some edits ask for, in order: each edit that takes part sets its header to
its value, and the others are left out. -/
inductive AskFor : List Edit → List Operation → Prop
  | nil : AskFor [] []
  | skip {e : Edit} {rest : List Edit} {ops : List Operation} (h : ¬e.TakesPart)
      (hrest : AskFor rest ops) : AskFor (e :: rest) ops
  | set {e : Edit} {rest : List Edit} {ops : List Operation} (h : e.TakesPart)
      (hrest : AskFor rest ops) : AskFor (e :: rest) (⟨e.header, e.value, .set⟩ :: ops)

theorem isOn_iff {v : Value} : isOn v = true ↔ v ≠ .bool false := by
  constructor
  · rintro h rfl
    cases h
  · intro h
    unfold isOn
    split
    · exact absurd rfl h
    · rfl

theorem isActive_iff {e : Edit} : e.isActive = true ↔ e.TakesPart := by
  rw [isActive, Bool.and_eq_true, isOn_iff, Option.any_eq_true, TakesPart]
  simp only [Text.hasInk_iff]

theorem askFor_operations (edits : List Edit) : AskFor edits (operations edits) := by
  induction edits with
  | nil => exact .nil
  | cons e rest ih =>
    by_cases hactive : e.isActive = true
    · have hops : operations (e :: rest) = e.toOperation :: operations rest := by
        simp [operations, hactive]
      rw [hops]
      exact .set (isActive_iff.1 hactive) ih
    · have hops : operations (e :: rest) = operations rest := by
        simp [operations, hactive]
      rw [hops]
      exact .skip (fun h => hactive (isActive_iff.2 h)) ih

theorem operations_eq_nil_iff {edits : List Edit} :
    operations edits = [] ↔ ∀ e ∈ edits, ¬e.TakesPart := by
  simp only [operations, List.map_eq_nil_iff, List.filter_eq_nil_iff, isActive_iff]

end Edit

theorem Action.toValue_sides (a : Action) :
    ∃ entries, a.toValue = .map entries ∧
      (Value.lookup entries "requestHeaders" = none ↔ a.request = []) ∧
      (Value.lookup entries "responseHeaders" = none ↔ a.response = []) := by
  obtain ⟨request, response⟩ := a
  refine ⟨_, rfl, ?_, ?_⟩
  · cases request <;> cases response <;>
      simp [side, Value.lookup, Scalar.sameKey, Scalar.asInt?]
  · cases request <;> cases response <;>
      simp [side, Value.lookup, Scalar.sameKey, Scalar.asInt?]

/-! ## The first matcher of an id -/

namespace Matcher

theorem distinct_filter (keep : RawText → Bool) (ms : List Matcher) :
    distinct (ms.filter fun m => keep m.id) = (distinct ms).filter fun m => keep m.id := by
  induction ms with
  | nil => rfl
  | cons m rest ih =>
    by_cases hkeep : keep m.id = true
    · simp only [distinct, List.filter_cons, hkeep, if_true, ih, List.filter_filter, Bool.and_comm]
    · have hrest : ((distinct rest).filter fun other => other.id != m.id).filter
          (fun other => keep other.id) = (distinct rest).filter fun other => keep other.id := by
        rw [List.filter_filter]
        apply List.filter_congr
        intro other _
        -- a matcher whose id is kept does not have the id that is not
        by_cases hid : other.id = m.id
        · simp [hid, hkeep]
        · simp [hid]
      simp only [distinct, List.filter_cons, hkeep, Bool.false_eq_true, if_false, ih, hrest]

theorem map_id_distinct (ms : List Matcher) :
    (distinct ms).map (·.id) = (ms.map (·.id)).eraseDups := by
  induction hlength : ms.length using Nat.strong_induction_on generalizing ms with
  | _ n ih =>
    cases ms with
    | nil => rfl
    | cons m rest =>
      have hshorter : (rest.filter fun other => other.id != m.id).length < n := by
        have := List.length_filter_le (fun other : Matcher => other.id != m.id) rest
        rw [← hlength, List.length_cons]
        omega
      have hrest := ih _ hshorter (rest.filter fun other => other.id != m.id) rfl
      rw [distinct_filter (· != m.id)] at hrest
      rw [distinct, List.map_cons, List.map_cons, List.eraseDups_cons, hrest, List.filter_map]
      rfl

theorem forall_mem_distinct {keep : RawText → Prop} {ms : List Matcher} :
    (∀ m ∈ distinct ms, keep m.id) ↔ ∀ m ∈ ms, keep m.id := by
  have hids := congrArg (∀ id ∈ ·, keep id) (map_id_distinct ms)
  simpa using hids

theorem find?_of_mem_distinct {ms : List Matcher} {m : Matcher} (h : m ∈ distinct ms) :
    ms.find? (·.id == m.id) = some m := by
  induction ms with
  | nil => cases h
  | cons first rest ih =>
    rcases List.mem_cons.1 h with rfl | h
    · simp
    · obtain ⟨hmem, hid⟩ := List.mem_filter.1 h
      have hne : first.id ≠ m.id := fun heq => by simp [heq] at hid
      rw [List.find?_cons_of_neg (by simpa using hne)]
      exact ih hmem

end Matcher

namespace Profile

/-- The matcher ids that get a rule, each where it first occurs. A profile without matchers has one
of its own. -/
def matcherIds (p : Profile) : List RawText :=
  if p.matchers = [] then ["__all__"] else (p.matchers.map (·.id)).eraseDups

/-- The ids of a profile and of its matchers have a UTF-8 form. -/
def IdsEncode (p : Profile) : Prop :=
  p.id.isRagged = false ∧ ∀ m ∈ p.matchers, m.id.isRagged = false

/-- Where a profile applies by one of its matcher ids: where the first matcher with the id says,
with `*` for an empty filter and the default types for none. A profile without matchers applies
everywhere. -/
inductive AppliesBy (p : Profile) (id : RawText) : Condition → Prop
  | first {m : Matcher} (h : p.matchers.find? (·.id == id) = some m) :
      AppliesBy p id
        ⟨if m.filter = "" then "*" else m.filter,
          if m.types = [] then ResourceType.defaults else m.types⟩
  | everywhere (h : p.matchers = []) : AppliesBy p id ⟨"*", ResourceType.defaults⟩

theorem map_id_ruleMatchers (p : Profile) : p.ruleMatchers.map (·.id) = p.matcherIds := by
  unfold ruleMatchers matcherIds
  cases hmatchers : p.matchers with
  | nil => rfl
  | cons m rest => simpa using Matcher.map_id_distinct (m :: rest)

theorem appliesBy_of_mem_ruleMatchers {p : Profile} {m : Matcher} (h : m ∈ p.ruleMatchers) :
    p.AppliesBy m.id m.toCondition := by
  unfold ruleMatchers at h
  cases hmatchers : p.matchers with
  | nil =>
    rw [hmatchers] at h
    obtain rfl : m = .everywhere := by simpa using h
    exact .everywhere hmatchers
  | cons first rest =>
    have hmem : m ∈ Matcher.distinct p.matchers := by simpa [hmatchers] using h
    have hcondition : m.toCondition =
        ⟨if m.filter = "" then "*" else m.filter,
          if m.types = [] then ResourceType.defaults else m.types⟩ := by
      simp [Matcher.toCondition, matchAllFilter]
    rw [hcondition]
    exact .first (Matcher.find?_of_mem_distinct hmem)

theorem ruleMatchers_ne_nil (p : Profile) : p.ruleMatchers ≠ [] := by
  unfold ruleMatchers
  cases p.matchers <;> simp [Matcher.distinct]

theorem action_isEmpty_iff {p : Profile} :
    p.action.isEmpty = true ↔
      (∀ e ∈ p.requestEdits, ¬e.TakesPart) ∧ ∀ e ∈ p.responseEdits, ¬e.TakesPart := by
  rw [← Edit.operations_eq_nil_iff, ← Edit.operations_eq_nil_iff]
  simp [Action.isEmpty, action]

/-! ## Rules -/

theorem ruleOf_eq_ok {p : Profile} {m : Matcher} {rule : Rule} :
    p.ruleOf m = .ok rule ↔ ∃ id, RuleId.ofPair p.id m.id = .ok id ∧ rule = p.ruleWith m id := by
  unfold ruleOf
  cases RuleId.ofPair p.id m.id <;> simp [eq_comm]

theorem exists_ruleOf_iff {p : Profile} {m : Matcher} :
    (∃ rule, p.ruleOf m = .ok rule) ↔ p.id.isRagged = false ∧ m.id.isRagged = false := by
  simp only [ruleOf_eq_ok, RuleId.ofPair, RuleId.ofText_eq_ok]
  have hkey : (∃ bytes, (RuleId.key p.id m.id).encode = .ok bytes) ↔
      p.id.isRagged = false ∧ m.id.isRagged = false := by
    rw [RawText.encode_eq_ok_iff, RuleId.isRagged_key, Bool.or_eq_false_iff]
  rw [← hkey]
  constructor
  · rintro ⟨_, _, ⟨bytes, hbytes, -⟩, -⟩
    exact ⟨bytes, hbytes⟩
  · rintro ⟨bytes, hbytes⟩
    exact ⟨_, _, ⟨bytes, hbytes, rfl⟩, rfl⟩

theorem rules_eq_ok_iff {p : Profile} {rules : List Rule} :
    p.rules = .ok rules ↔
      (p.action.isEmpty = true ∧ rules = []) ∨
        (p.action.isEmpty = false ∧ p.ruleMatchers.mapM p.ruleOf = .ok rules) := by
  unfold Profile.rules
  cases p.action.isEmpty <;> simp [eq_comm]

/-- The rules of a profile, by the ids of its pairs. -/
theorem rules_of_ids {p : Profile} {ids : List Int} (haction : p.action.isEmpty = false)
    (hids : p.ruleMatchers.mapM (fun m => RuleId.ofPair p.id m.id) = .ok ids) :
    p.rules = .ok (List.zipWith p.ruleWith p.ruleMatchers ids) := by
  refine rules_eq_ok_iff.2 (.inr ⟨haction, ?_⟩)
  rw [Outcome.mapM_eq_ok_iff] at hids ⊢
  generalize p.ruleMatchers = ms at hids ⊢
  induction hids with
  | nil => exact .nil
  | cons hid _ ih => exact .cons (ruleOf_eq_ok.2 ⟨_, hid, rfl⟩) ih

theorem exists_rules_iff {p : Profile} :
    (∃ rules, p.rules = .ok rules) ↔ p.action.isEmpty = true ∨ p.IdsEncode := by
  have hmatchers : (∀ m ∈ p.ruleMatchers, m.id.isRagged = false) ↔
      ∀ m ∈ p.matchers, m.id.isRagged = false := by
    unfold ruleMatchers
    cases hmatchers : p.matchers with
    | nil => simp [Matcher.everywhere]
    | cons m rest => exact @Matcher.forall_mem_distinct (·.isRagged = false) (m :: rest)
  have hencode : (∃ rules, p.ruleMatchers.mapM p.ruleOf = .ok rules) ↔ p.IdsEncode := by
    rw [Outcome.exists_mapM_eq_ok_iff, IdsEncode, ← hmatchers]
    simp only [exists_ruleOf_iff]
    constructor
    · intro h
      obtain ⟨m, hm⟩ := List.exists_mem_of_ne_nil _ p.ruleMatchers_ne_nil
      exact ⟨(h m hm).1, fun m hm => (h m hm).2⟩
    · exact fun h m hm => ⟨h.1, h.2 m hm⟩
  simp only [rules_eq_ok_iff, exists_or, exists_and_left, hencode]
  cases p.action.isEmpty <;> simp

theorem rules_eq_nil_iff {p : Profile} : p.rules = .ok [] ↔ p.action.isEmpty = true := by
  rw [rules_eq_ok_iff, and_iff_left rfl, or_iff_left]
  rintro ⟨-, hnone⟩
  have hlength := (Outcome.mapM_eq_ok_iff.1 hnone).length_eq
  exact p.ruleMatchers_ne_nil (List.length_eq_zero_iff.1 hlength)

theorem forall₂_ruleMatchers {p : Profile} {rules : List Rule} (h : p.rules = .ok rules)
    (hrules : rules ≠ []) : List.Forall₂ (fun m rule => p.ruleOf m = .ok rule) p.ruleMatchers rules := by
  obtain ⟨-, rfl⟩ | ⟨-, h⟩ := rules_eq_ok_iff.1 h
  · exact absurd rfl hrules
  · exact Outcome.mapM_eq_ok_iff.1 h

/-- A profile has no rules exactly if no edit of either side takes part; otherwise it has rules
exactly if its ids have a UTF-8 form. If it has some, they stand one to one for its matcher ids:
each has the id of the pair, priority one and the condition that belongs to the matcher id, and all
have the same action. The operations of the action are those that the edits ask for, and a side of
it is missing exactly if no edit of that side takes part. -/
theorem rules_forall₂_matcherIds (p : Profile) :
    (∀ e : Edit, e.isActive = true ↔
        e.enabled ≠ .bool false ∧ ∃ name, e.header = some name ∧ trim name.toList ≠ []) ∧
      (p.rules = .ok [] ↔
        (∀ e ∈ p.requestEdits, ¬e.TakesPart) ∧ ∀ e ∈ p.responseEdits, ¬e.TakesPart) ∧
      ((∃ rules, p.rules = .ok rules) ↔ p.rules = .ok [] ∨ p.IdsEncode) ∧
      ∀ rules, p.rules = .ok rules → rules ≠ [] → ∃ action : Action,
        List.Forall₂
            (fun id rule => (∃ n, RuleId.ofPair p.id id = .ok n ∧ rule.id = .int n) ∧
              rule.priority = 1 ∧ p.AppliesBy id rule.condition ∧ rule.action = action)
            p.matcherIds rules ∧
          Edit.AskFor p.requestEdits action.request ∧
          Edit.AskFor p.responseEdits action.response ∧
          ∃ entries, action.toValue = .map entries ∧
            (Value.lookup entries "requestHeaders" = none ↔
              ∀ e ∈ p.requestEdits, ¬e.TakesPart) ∧
            (Value.lookup entries "responseHeaders" = none ↔
              ∀ e ∈ p.responseEdits, ¬e.TakesPart) := by
  refine ⟨fun e => Edit.isActive_iff, rules_eq_nil_iff.trans action_isEmpty_iff,
    by rw [exists_rules_iff, rules_eq_nil_iff], fun rules h hrules => ?_⟩
  obtain ⟨entries, hentries, hrequest, hresponse⟩ := p.action.toValue_sides
  refine ⟨p.action, ?_, Edit.askFor_operations _, Edit.askFor_operations _, entries, hentries,
    hrequest.trans Edit.operations_eq_nil_iff, hresponse.trans Edit.operations_eq_nil_iff⟩
  rw [← p.map_id_ruleMatchers, List.forall₂_map_left_iff]
  have hmembers := (List.forall₂_and_left _ _).2 ⟨fun m hm => hm, forall₂_ruleMatchers h hrules⟩
  refine hmembers.imp fun m rule hrule => ?_
  obtain ⟨id, hid, rfl⟩ := ruleOf_eq_ok.1 hrule.2
  exact ⟨⟨id, hid, rfl⟩, rfl, appliesBy_of_mem_ruleMatchers hrule.1, rfl⟩

/-- A profile whose id is a character written as two escapes, one for each half. -/
def halvedProfile : Profile where
  id := [.half 0x3D, .half 0x600]
  enabled := true
  matchers := []
  requestEdits := [⟨"a", some "X-Env", "staging", .bool true⟩]
  responseEdits := []
  name := ""
  color := ""
  notes := ""

/-- An edit takes part, and yet there are no rules. -/
theorem rules_halvedProfile :
    (∃ e ∈ halvedProfile.requestEdits, e.TakesPart) ∧
      halvedProfile.rules = .error ⟨0x3D, 0, 2⟩ := by
  refine ⟨⟨_, List.mem_singleton_self _, Edit.isActive_iff.1 rfl⟩, ?_⟩
  have hid : RuleId.ofPair halvedProfile.id Matcher.everywhere.id = .error ⟨0x3D, 0, 2⟩ := by
    decide +kernel
  have hrules : halvedProfile.rules = [Matcher.everywhere].mapM halvedProfile.ruleOf := rfl
  rw [hrules, List.mapM_cons, ruleOf, hid]
  rfl

end Profile

end HeaderRules
