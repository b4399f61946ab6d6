import HeaderRules.Proofs.Store.Update
import Mathlib.Data.List.Nodup
/-!
# The rules that apply, in their order

Rules that cover a URL apply by descending priority and, among those of one priority, by ascending
id. No two installed rules have one id, so the order leaves nothing open: which rules apply, and in
which order, depends on the set of the installed rules and on nothing else in their history.
-/

namespace HeaderRules.Store

theorem mem_matchingRules {s : Store} {url type : String} {rule : Rule} :
    rule ∈ s.matchingRules url type ↔ rule ∈ s.rules ∧ covers url type rule = true := by
  rw [matchingRules, List.mem_mergeSort, List.mem_filter]

theorem matchingRules_eq_nil_iff {s : Store} {url type : String} :
    s.matchingRules url type = [] ↔ ∀ rule ∈ s.rules, covers url type rule = false := by
  simp [List.eq_nil_iff_forall_not_mem, mem_matchingRules]

theorem covers_iff {url type : String} {rule : Rule} :
    covers url type rule = true ↔
      (∃ name ∈ rule.condition.types, (if name = "document" then "main_frame" else name) = type) ∧
        Url.filterMatches rule.condition.filter.toList url.toList = true := by
  simp [covers, ResourceType.covers, ResourceType.canonical]

/-! ## The order -/

/-- One rule applies before another: it has a higher priority, or the same priority and a lower
id. -/
def Precedes (a b : Rule) : Prop :=
  b.priority < a.priority ∨
    (a.priority = b.priority ∧ ∃ m n : Int, a.id = .int m ∧ b.id = .int n ∧ m < n)

theorem not_precedes_of_precedes {a b : Rule} (hab : Precedes a b) : ¬Precedes b a := by
  intro hba
  rcases hab with hab | ⟨hpriority, m, n, ham, hbn, hmn⟩
  · rcases hba with hba | ⟨hpriority, -⟩
    · omega
    · omega
  · rcases hba with hba | ⟨-, n', m', hbn', ham', hnm⟩
    · omega
    · have hm : m = m' := by simpa using ham.symm.trans ham'
      have hn : n = n' := by simpa using hbn.symm.trans hbn'
      omega

theorem comesFirst_iff {a b : Rule} :
    comesFirst a b = true ↔
      b.priority < a.priority ∨ (a.priority = b.priority ∧ idNumber a.id ≤ idNumber b.id) := by
  simp [comesFirst]

theorem comesFirst_trans (a b c : Rule) (hab : comesFirst a b = true)
    (hbc : comesFirst b c = true) : comesFirst a c = true := by
  rw [comesFirst_iff] at *
  omega

theorem comesFirst_total (a b : Rule) : (comesFirst a b || comesFirst b a) = true := by
  rw [Bool.or_eq_true, comesFirst_iff, comesFirst_iff]
  omega

theorem precedes_of_comesFirst {a b : Rule} (ha : a.HasNumber) (hb : b.HasNumber)
    (hfirst : comesFirst a b = true) (hne : a.id ≠ b.id) : Precedes a b := by
  obtain ⟨m, hm⟩ := ha
  obtain ⟨n, hn⟩ := hb
  have hmn : m ≠ n := by
    rintro rfl
    exact hne (hm.trans hn.symm)
  rw [comesFirst_iff, hm, hn] at hfirst
  rcases hfirst with hpriority | ⟨hpriority, hle⟩
  · exact .inl hpriority
  · have hlt : m < n := by
      change m ≤ n at hle
      omega
    exact .inr ⟨hpriority, m, n, hm, hn, hlt⟩

/-! ## The list -/

section

variable {s : Store} (hs : s.Reachable) (url type : String)

include hs

theorem nodup_ids_matchingRules : ((s.matchingRules url type).map (·.id)).Nodup := by
  have hperm := (List.mergeSort_perm (s.rules.filter (covers url type)) comesFirst).map (·.id)
  have hsublist : (s.rules.filter (covers url type)).Sublist s.rules := List.filter_sublist
  rw [matchingRules, hperm.nodup_iff]
  exact hs.wellKept.distinct.sublist (hsublist.map (·.id))

theorem pairwise_matchingRules : (s.matchingRules url type).Pairwise Precedes := by
  have hsorted : (s.matchingRules url type).Pairwise fun a b => comesFirst a b = true :=
    List.pairwise_mergeSort comesFirst_trans comesFirst_total _
  have hdistinct : (s.matchingRules url type).Pairwise fun a b => a.id ≠ b.id :=
    List.pairwise_map.1 (nodup_ids_matchingRules hs url type)
  have hnumber : ∀ rule ∈ s.matchingRules url type, rule.HasNumber := fun rule hrule =>
    hs.hasNumber rule (mem_matchingRules.1 hrule).1
  apply (hsorted.and hdistinct).imp_of_mem
  intro a b ha hb hab
  exact precedes_of_comesFirst (hnumber a ha) (hnumber b hb) hab.1 hab.2

end

theorem eq_of_pairwise_precedes {xs ys : List Rule} (hxs : xs.Pairwise Precedes)
    (hys : ys.Pairwise Precedes) (hmem : ∀ rule, rule ∈ xs ↔ rule ∈ ys) : xs = ys := by
  have hnodup {rules : List Rule} (hrules : rules.Pairwise Precedes) : rules.Nodup := by
    refine hrules.imp fun {a b} hab heq => ?_
    subst heq
    exact not_precedes_of_precedes hab hab
  have hperm : xs.Perm ys := (List.perm_ext_iff_of_nodup (hnodup hxs) (hnodup hys)).2 hmem
  apply hperm.eq_of_pairwise _ hxs hys
  intro a b _ _ hab hba
  exact absurd hba (not_precedes_of_precedes hab)

/-- For every URL and type, the rules that apply are the installed rules whose types contain it,
with `document` among them read as `main_frame`, and whose filter matches the URL. Each of them is
listed once, in strict order. Two stores with the same rules therefore list the same, whichever
updates led to them. -/
theorem matchingRules_determined {s : Store} (hs : s.Reachable) (url type : String) :
    (∀ rule, rule ∈ s.matchingRules url type ↔
        rule ∈ s.rules ∧
          (∃ name ∈ rule.condition.types,
            (if name = "document" then "main_frame" else name) = type) ∧
          Url.filterMatches rule.condition.filter.toList url.toList = true) ∧
      ((s.matchingRules url type).map (·.id)).Nodup ∧
      (s.matchingRules url type).Pairwise Precedes ∧
      ∀ t : Store, t.Reachable → (∀ rule, rule ∈ t.rules ↔ rule ∈ s.rules) →
        t.matchingRules url type = s.matchingRules url type := by
  refine ⟨?_, nodup_ids_matchingRules hs url type, pairwise_matchingRules hs url type, ?_⟩
  · intro rule
    rw [mem_matchingRules, covers_iff]
  · intro t ht hrules
    apply eq_of_pairwise_precedes (pairwise_matchingRules ht url type)
      (pairwise_matchingRules hs url type)
    intro rule
    rw [mem_matchingRules, mem_matchingRules, hrules rule]

def rankedRule (id priority : Int) : Rule :=
  ⟨.int id, priority, ⟨"||example.com^", ["image", "document", "image"]⟩,
    ⟨[⟨some "X-Env", "dev", .set⟩], []⟩⟩

/-- Three rules are installed at once in one store, and one by one with a detour in another. -/
theorem matchingRules_determined_detour :
    let s := ((Store.empty 3).update [] [rankedRule 1 (-2), rankedRule 3 5, rankedRule 2 5]).store
    let first := ((Store.empty 9).update [] [rankedRule 2 5, rankedRule 7 1]).store
    let t := ((first.update [] [rankedRule 1 (-2)]).store.update [.int 7] [rankedRule 3 5]).store
    s.Reachable ∧ t.Reachable ∧ (∀ rule, rule ∈ t.rules ↔ rule ∈ s.rules) ∧
      s.matchingRules "https://example.com/" "main_frame" =
        [rankedRule 2 5, rankedRule 3 5, rankedRule 1 (-2)] ∧
      t.matchingRules "https://example.com/" "main_frame" =
        [rankedRule 2 5, rankedRule 3 5, rankedRule 1 (-2)] := by
  intro s first t
  have hs : s.Reachable := (Reachable.empty 3).update [] _
  have ht : t.Reachable := (((Reachable.empty 9).update [] _).update [] _).update [.int 7] _
  have hrulesS : s.rules = [rankedRule 1 (-2), rankedRule 3 5, rankedRule 2 5] := by
    with_unfolding_all rfl
  have hrulesT : t.rules = [rankedRule 2 5, rankedRule 1 (-2), rankedRule 3 5] := by
    with_unfolding_all rfl
  have hsame : ∀ rule, rule ∈ t.rules ↔ rule ∈ s.rules := by
    intro rule
    rw [hrulesS, hrulesT]
    simp only [List.mem_cons, List.not_mem_nil, or_false]
    tauto
  have hcovers : ∀ rule ∈ s.rules, covers "https://example.com/" "main_frame" rule = true := by
    rw [← List.all_eq_true]
    decide +kernel
  obtain ⟨hmem, -, hordered, hother⟩ :=
    matchingRules_determined hs "https://example.com/" "main_frame"
  have hlist : s.matchingRules "https://example.com/" "main_frame" =
      [rankedRule 2 5, rankedRule 3 5, rankedRule 1 (-2)] := by
    apply eq_of_pairwise_precedes hordered (by simp [Precedes, rankedRule])
    intro rule
    rw [hmem, ← covers_iff, and_iff_left_of_imp (hcovers rule), hrulesS]
    simp only [List.mem_cons, List.not_mem_nil, or_false]
    tauto
  exact ⟨hs, ht, hsame, hlist, (hother t ht hsame).trans hlist⟩

end HeaderRules.Store
