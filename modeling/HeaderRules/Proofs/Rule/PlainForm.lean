import HeaderRules.Proofs.Profile.RoundTrip
import HeaderRules.Rule.OfProfile
/-!
# Rules of a profile that was written and read

What comes back of a profile that is written and read again is its plain form, which need not be the
profile. Its rules are the same: a filter stands for what it is filled in with, and an edit that has
no name takes no more part than one with the empty name.
-/

namespace HeaderRules

/-! ## Matchers -/

namespace Matcher

theorem toCondition_plain (m : Matcher) : m.plain.toCondition = m.toCondition := by
  have hfilter : matchAllFilter ≠ "" := by decide
  by_cases hempty : m.filter = "" <;> simp [plain, toCondition, hempty, hfilter]

theorem distinct_map_plain (ms : List Matcher) :
    distinct (ms.map plain) = (distinct ms).map plain := by
  induction ms with
  | nil => rfl
  | cons m rest ih =>
    rw [List.map_cons, distinct, distinct, ih, List.map_cons, List.filter_map]
    rfl

end Matcher

/-! ## Edits -/

namespace Edit

theorem isOn_bool (b : Bool) : isOn (.bool b) = b := by cases b <;> rfl

theorem isActive_plain (e : Edit) : e.plain.isActive = e.isActive := by
  have hblank : Text.hasInk "" = false := rfl
  cases hheader : e.header <;> simp [isActive, plain, isOn_bool, hheader, hblank]

theorem toOperation_plain {e : Edit} (h : e.isActive = true) :
    e.plain.toOperation = e.toOperation := by
  rw [isActive, Bool.and_eq_true, Option.any_eq_true] at h
  obtain ⟨-, name, hname, -⟩ := h
  simp [toOperation, plain, hname]

theorem operations_map_plain (edits : List Edit) :
    operations (edits.map plain) = operations edits := by
  have hactive : isActive ∘ plain = isActive := funext isActive_plain
  rw [operations, operations, List.filter_map, hactive, List.map_map]
  refine List.map_congr_left fun e he => ?_
  exact toOperation_plain (List.mem_filter.1 he).2

end Edit

/-! ## Rules -/

namespace Profile

theorem action_plain (p : Profile) : p.plain.action = p.action := by
  simp only [action, plain, Edit.operations_map_plain]

theorem ruleOf_plain (p : Profile) (m : Matcher) : p.plain.ruleOf m.plain = p.ruleOf m := by
  have hrule : p.plain.ruleWith m.plain = p.ruleWith m := by
    funext id
    simp only [ruleWith, action_plain, Matcher.toCondition_plain]
  rw [ruleOf, ruleOf, hrule]
  rfl

theorem ruleMatchers_plain (p : Profile) :
    p.plain.ruleMatchers = p.ruleMatchers.map .plain := by
  unfold ruleMatchers
  cases hmatchers : p.matchers with
  | nil =>
    -- the matcher that is put in is in plain form
    simp [plain, hmatchers]
    rfl
  | cons m rest =>
    simpa [plain, hmatchers] using Matcher.distinct_map_plain (m :: rest)

theorem rules_plain (p : Profile) : p.plain.rules = p.rules := by
  have hrule : p.plain.ruleOf ∘ Matcher.plain = p.ruleOf := funext p.ruleOf_plain
  simp only [rules, action_plain, ruleMatchers_plain, List.mapM_map, hrule]

/-- A profile with an id can be written and read again, whatever its matchers and edits are, and has
the same rules in the same order as before. -/
theorem rules_ofValue_toValue {p : Profile} (hid : p.id ≠ []) :
    ∃ stored, ofValue p.toValue = .ok stored ∧ stored.rules = p.rules :=
  ⟨p.plain, ofValue_toValue hid, p.rules_plain⟩

/-- A profile that does not come back as it was: filters are empty, an id is repeated, a header is
missing or blank, and switches are no truth values. -/
def roughProfile : Profile where
  id := "dev"
  enabled := true
  matchers := [⟨"a", "", []⟩, ⟨"b", "||example.com^", ["script"]⟩, ⟨"a", "*", ["image"]⟩]
  requestEdits := [⟨"1", none, "x", .bool true⟩, ⟨"2", some " \t", "x", .null⟩,
    ⟨"3", some "X-Env", "staging", .int 0⟩, ⟨"4", some "X-Off", "x", .bool false⟩]
  responseEdits := [⟨"5", some "X-Seen", "", .text "false"⟩]
  name := ""
  color := ""
  notes := ""

theorem rules_ofValue_toValue_rough :
    ∃ stored, ofValue roughProfile.toValue = .ok stored ∧ stored.rules = roughProfile.rules ∧
      stored.rules.map (List.map Rule.condition) =
        .ok [⟨"*", ResourceType.defaults⟩, ⟨"||example.com^", ["script"]⟩] ∧
      stored.rules.map (List.map Rule.action) =
        .ok (.replicate 2 ⟨[⟨some "X-Env", "staging", .set⟩], [⟨some "X-Seen", "", .set⟩]⟩) := by
  have hid : roughProfile.id ≠ [] := by decide
  obtain ⟨stored, hstored, hrules⟩ := rules_ofValue_toValue hid
  refine ⟨stored, hstored, hrules, ?_, ?_⟩
  · rw [hrules]
    decide +kernel
  · rw [hrules]
    decide +kernel

end Profile

end HeaderRules
