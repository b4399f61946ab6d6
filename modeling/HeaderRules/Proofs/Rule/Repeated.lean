import HeaderRules.Apply
import HeaderRules.Proofs.Rule.Firsts
import Mathlib.Data.List.Perm.Basic
import Mathlib.Data.List.Sort
/-!
# Repeated ids

Two ways to find out which ids are there more than once: sifting keeps the first rule of every id
and lists the ids of the others, and counting finds the ids that more than one rule has. They agree,
so nothing is left to be found in what has been sifted.
-/

namespace HeaderRules

namespace Scalar

open HeaderRules.Number (Binary64)

theorem before?_int (m n : Int) : (Scalar.int m).before? (.int n) = some (decide (m < n)) := by
  have hvalue (k : Int) :
      Binary64.signed (decide (k < 0)) k.natAbs * (Number.twoTo (0 - min 0 0) : Int) = k := by
    have hone : (Number.twoTo (0 - min 0 0) : Int) = 1 := rfl
    rw [hone, Int.mul_one, Binary64.signed]
    by_cases hneg : k < 0
    · rw [decide_eq_true hneg, if_pos rfl]
      omega
    · rw [decide_eq_false hneg, if_neg Bool.false_ne_true]
      omega
  simp only [before?, number?, Binary64.less, hvalue]

end Scalar

theorem Value.int_injective : Function.Injective Value.int := by
  intro m n h
  injection h with hscalar
  injection hscalar

namespace Rule

/-! ## Counting numbers -/

variable {numbers : List Int} {n : Int}

/-- A tally has every number once, with its count. -/
theorem exists_tally (numbers : List Int) :
    ∃ keys : List Int, keys.Nodup ∧ (∀ n, n ∈ keys ↔ n ∈ numbers) ∧
      tally (numbers.map Scalar.int) = keys.map fun n => (.int n, numbers.count n) := by
  induction numbers with
  | nil => exact ⟨[], .nil, fun _ => Iff.rfl, rfl⟩
  | cons first rest ih =>
    obtain ⟨keys, hnodup, hmem, htally⟩ := ih
    refine ⟨first :: keys.filter (first != ·), ?_, fun n => ?_, ?_⟩
    · exact List.nodup_cons.2 ⟨by simp [List.mem_filter], hnodup.filter _⟩
    · rw [List.mem_cons, List.mem_cons, List.mem_filter, hmem]
      by_cases hfirst : n = first
      · simp [hfirst]
      · simp [hfirst, Ne.symm hfirst]
    · have hcount : (rest.map Scalar.int).countP (Scalar.int first).sameKey = rest.count first := by
        rw [List.countP_map, List.count]
        congr 1
        funext n
        exact Bool.beq_comm
      have hothers : (keys.filter (first != ·)).map (fun n => (Scalar.int n, rest.count n)) =
          (keys.filter (first != ·)).map fun n => (Scalar.int n, (first :: rest).count n) := by
        refine List.map_congr_left fun n hn => ?_
        have hne : first ≠ n := by simpa using (List.mem_filter.1 hn).2
        rw [List.count_cons_of_ne hne]
      rw [List.map_cons, tally, htally, hcount, List.filter_map, List.map_cons,
        List.count_cons_self, Nat.add_comm, ← hothers]
      rfl

theorem unorderedPair?_numbers (numbers : List Int) :
    unorderedPair? (numbers.map Scalar.int) = none := by
  induction numbers with
  | nil => rfl
  | cons first rest ih =>
    have hnone : (rest.map Scalar.int).find? (fun b => ((Scalar.int first).before? b).isNone) =
        none := by
      simp [Scalar.before?_int]
    rw [List.map_cons, unorderedPair?, hnone]
    exact ih

theorem sortKeys_numbers (numbers : List Int) :
    sortKeys (numbers.map Scalar.int) = .ok ((numbers.mergeSort (· ≤ ·)).map Scalar.int) := by
  have horder : ∀ a ∈ numbers, ∀ b ∈ numbers,
      decide (a ≤ b) = ((Scalar.int b).before? (Scalar.int a) != some true) := by
    intro a _ b _
    rw [Scalar.before?_int]
    by_cases h : a ≤ b
    · simp [h]
    · simp [h, Int.not_le.1 h]
  have hsorted : (numbers.mergeSort (· ≤ ·)).map Scalar.int =
      (numbers.map Scalar.int).mergeSort fun a b => b.before? a != some true :=
    List.map_mergeSort horder
  rw [sortKeys, unorderedPair?_numbers, hsorted]

/-! ## Counting ids -/

theorem exists_numbers {rules : List Rule} (hnumbers : ∀ rule ∈ rules, rule.HasNumber) :
    ∃ numbers : List Int, rules.map (·.id) = numbers.map Value.int ∧
      rules.mapM (·.id.idKey) = .ok (numbers.map Scalar.int) := by
  induction rules with
  | nil => exact ⟨[], rfl, rfl⟩
  | cons rule rest ih =>
    obtain ⟨n, hn⟩ := hnumbers rule (by simp)
    obtain ⟨numbers, hids, hkeys⟩ := ih fun other hother => hnumbers other (by simp [hother])
    refine ⟨n :: numbers, by simp [hn, hids], ?_⟩
    rw [List.mapM_cons, hkeys, hn]
    rfl

theorem exists_repeatedIds {rules : List Rule} (hnumbers : ∀ rule ∈ rules, rule.HasNumber)
    {numbers : List Int} (hids : rules.map (·.id) = numbers.map Value.int) :
    ∃ repeated : List Int, repeatedIds rules = .ok (repeated.map Scalar.int) ∧
      repeated.Pairwise (· < ·) ∧ ∀ n, n ∈ repeated ↔ 1 < numbers.count n := by
  obtain ⟨found, hfound, hkeys⟩ := exists_numbers hnumbers
  obtain rfl : found = numbers :=
    List.map_injective_iff.2 Value.int_injective (hfound.symm.trans hids)
  obtain ⟨keys, hnodup, hmem, htally⟩ := exists_tally found
  let many := keys.filter fun n => 1 < found.count n
  have hmany : ((tally (found.map Scalar.int)).filter (1 < ·.2)).map (·.1) =
      many.map Scalar.int := by
    rw [htally, List.filter_map, List.map_map]
    rfl
  refine ⟨many.mergeSort (· ≤ ·), ?_, ?_, fun n => ?_⟩
  · rw [repeatedIds, hkeys, Outcome.ok_bind, hmany, sortKeys_numbers]
  · have hordered : (many.mergeSort (· ≤ ·)).Pairwise (· ≤ ·) :=
      List.pairwise_mergeSort' (· ≤ ·) _
    have hdistinct : (many.mergeSort (· ≤ ·)).Nodup :=
      (List.mergeSort_perm _ _).nodup_iff.2 (hnodup.filter _)
    exact (hordered.and hdistinct).imp fun h => lt_of_le_of_ne h.1 h.2
  · rw [List.mem_mergeSort, List.mem_filter, hmem, decide_eq_true_eq]
    exact and_iff_right_of_imp fun hcount => List.count_pos_iff.1 (by omega)

theorem repeatedIds_of_distinct {rules : List Rule} (hnumbers : ∀ rule ∈ rules, rule.HasNumber)
    (hdistinct : (rules.map (·.id)).Nodup) : repeatedIds rules = .ok [] := by
  obtain ⟨numbers, hids, -⟩ := exists_numbers hnumbers
  rw [hids] at hdistinct
  obtain ⟨repeated, hrepeated, -, hmem⟩ := exists_repeatedIds hnumbers hids
  have hnone : repeated = [] := by
    refine List.eq_nil_iff_forall_not_mem.2 fun n hn => ?_
    have honce := List.nodup_iff_count_le_one.1 hdistinct.of_map n
    rw [hmem] at hn
    omega
  rw [hrepeated, hnone]
  rfl

theorem repeatedIds_firsts {rules : List Rule} (hnumbers : ∀ rule ∈ rules, rule.HasNumber) :
    repeatedIds (firsts rules) = .ok [] :=
  repeatedIds_of_distinct (hasNumber_of_mem_firsts hnumbers) (firsts_distinct hnumbers)

/-! ## Sifting and counting -/

variable {rules : List Rule} {skipped : List Int}

theorem exists_first_of_skipped (hnumbers : ∀ rule ∈ rules, rule.HasNumber)
    (hskipped : (repeats rules).map (·.id) = skipped.map Value.int) (hn : n ∈ skipped) :
    ∃ rule ∈ firsts rules, rule.id = .int n := by
  obtain ⟨rule, hrule, hid⟩ := List.mem_map.1 (hskipped ▸ List.mem_map_of_mem hn)
  obtain ⟨first, hfirst, hsame⟩ := exists_first_of_mem hnumbers (mem_of_mem_repeats hrule)
  exact ⟨first, hfirst, hsame.trans hid⟩

/-- The numbers of the rules that sifting leaves out are those that are there more than once. -/
theorem mem_skipped_iff (hnumbers : ∀ rule ∈ rules, rule.HasNumber)
    (hids : rules.map (·.id) = numbers.map Value.int)
    (hskipped : (repeats rules).map (·.id) = skipped.map Value.int) (n : Int) :
    n ∈ skipped ↔ 1 < numbers.count n := by
  obtain ⟨kept, hfirsts, -⟩ := exists_numbers (hasNumber_of_mem_firsts hnumbers)
  have hparts : (kept ++ skipped).Perm numbers := by
    have hall := (firsts_append_repeats_perm rules).map (·.id)
    rw [List.map_append, hfirsts, hskipped, hids, ← List.map_append] at hall
    exact (List.map_perm_map_iff Value.int_injective).1 hall
  have hcount : kept.count n + skipped.count n = numbers.count n := by
    rw [← List.count_append, hparts.count_eq]
  have honce : kept.count n ≤ 1 := by
    have hdistinct := firsts_distinct hnumbers
    rw [hfirsts] at hdistinct
    exact List.nodup_iff_count_le_one.1 hdistinct.of_map n
  constructor
  · intro hmem
    obtain ⟨first, hfirst, hid⟩ := exists_first_of_skipped hnumbers hskipped hmem
    have hown : Value.int n ∈ kept.map Value.int := by
      rw [← hfirsts, ← hid]
      exact List.mem_map_of_mem hfirst
    have hkeptOnce := List.count_pos_iff.2 ((List.mem_map_of_injective Value.int_injective).1 hown)
    have hskippedOnce := List.count_pos_iff.2 hmem
    omega
  · intro hmany
    exact List.count_pos_iff.1 (by omega)

end Rule

/-- Rules with numbers are always prepared: sifting leaves nothing that is there twice. -/
theorem Apply.prepare_of_hasNumber {ε : Type} {rules : List Rule}
    (hnumbers : ∀ rule ∈ rules, rule.HasNumber) :
    prepare (ε := ε) rules = .ok ⟨Rule.firsts rules, (Rule.repeats rules).map (·.id)⟩ := by
  unfold prepare
  rw [Rule.sift_of_hasNumber hnumbers, Outcome.mapError_ok, Outcome.ok_bind,
    Rule.repeatedIds_firsts hnumbers]
  rfl

theorem Apply.ne_repeated_of_hasNumber {σ ε : Type} [RuleStore σ ε] {rules : List Rule}
    (hnumbers : ∀ rule ∈ rules, rule.HasNumber) (store : σ) (ids : List Scalar) :
    (run store rules).outcome ≠ .error (.repeated ids) := by
  unfold run
  rw [prepare_of_hasNumber hnumbers]
  simp only [install]
  split <;> simp

namespace Rule

/-- Rules with numbers are split into the first rule of every id, in order, and the ids of all other
rules, in order; each of these ids is the id of a rule that is kept. Counting finds no id twice
among the rules that are kept, so applying rules never fails for that. Among all rules it finds the
ids that sifting leaves out, each once and in ascending order. -/
theorem sift_loses_nothing {rules : List Rule} (hnumbers : ∀ rule ∈ rules, rule.HasNumber) :
    ∃ skipped repeated : List Int,
      (sift rules = .ok ⟨firsts rules, skipped.map Value.int⟩ ∧
        (repeats rules).map (·.id) = skipped.map Value.int ∧
        (firsts rules).length + skipped.length = rules.length ∧
        ∀ n ∈ skipped, ∃ rule ∈ firsts rules, rule.id = .int n) ∧
      (repeatedIds (firsts rules) = .ok [] ∧
        ∀ (σ ε : Type) [RuleStore σ ε] (store : σ) (ids : List Scalar),
          (Apply.run store rules).outcome ≠ .error (.repeated ids)) ∧
      repeatedIds rules = .ok (repeated.map Scalar.int) ∧ (repeated ≠ [] ↔ skipped ≠ []) ∧
        repeated.Pairwise (· < ·) ∧ ∀ n, n ∈ repeated ↔ n ∈ skipped := by
  obtain ⟨numbers, hids, -⟩ := exists_numbers hnumbers
  obtain ⟨skipped, hskipped, -⟩ :=
    exists_numbers fun rule hrule => hnumbers rule (mem_of_mem_repeats hrule)
  have hlength : (firsts rules).length + skipped.length = rules.length := by
    have hall := (firsts_append_repeats_perm rules).length_eq
    have hcount := congrArg List.length hskipped
    rw [List.length_map, List.length_map] at hcount
    rwa [List.length_append, hcount] at hall
  obtain ⟨repeated, hrepeated, hordered, hmany⟩ := exists_repeatedIds hnumbers hids
  have hmem : ∀ n, n ∈ repeated ↔ n ∈ skipped := fun n =>
    (hmany n).trans (mem_skipped_iff hnumbers hids hskipped n).symm
  refine ⟨skipped, repeated,
    ⟨hskipped ▸ sift_of_hasNumber hnumbers, hskipped, hlength, fun n hn =>
      exists_first_of_skipped hnumbers hskipped hn⟩,
    ⟨repeatedIds_firsts hnumbers, fun σ ε _ store ids =>
      Apply.ne_repeated_of_hasNumber hnumbers store ids⟩,
    hrepeated, ?_, hordered, hmem⟩
  rw [Ne, Ne, List.eq_nil_iff_forall_not_mem, List.eq_nil_iff_forall_not_mem]
  simp only [hmem]

def sixRules : List Rule :=
  [3, 1, 3, 2, 1, 3].map fun n => ⟨.int n, 1, ⟨"*", ["other"]⟩, ⟨[], []⟩⟩

theorem sift_loses_nothing_sixRules :
    (∀ rule ∈ sixRules, rule.HasNumber) ∧ (firsts sixRules).map (·.id) = [3, 1, 2].map Value.int ∧
      sift sixRules = .ok ⟨firsts sixRules, [3, 1, 3].map Value.int⟩ ∧
      repeatedIds sixRules = .ok ([1, 3].map Scalar.int) := by
  have hnumbers : ∀ rule ∈ sixRules, rule.HasNumber := by
    intro rule hrule
    obtain ⟨n, -, rfl⟩ := List.mem_map.1 hrule
    exact ⟨n, rfl⟩
  obtain ⟨skipped, repeated, ⟨hsift, hskipped, -⟩, -, hrepeated, -, hordered, hmem⟩ :=
    sift_loses_nothing hnumbers
  have hids : (repeats sixRules).map (·.id) = [3, 1, 3].map Value.int := rfl
  obtain rfl : skipped = [3, 1, 3] :=
    List.map_injective_iff.2 Value.int_injective (hskipped.symm.trans hids)
  have hperm : repeated.Perm [1, 3] := by
    rw [List.perm_ext_iff_of_nodup (hordered.imp Int.ne_of_lt) (by decide)]
    intro n
    simp only [hmem, List.mem_cons, List.not_mem_nil, or_false]
    omega
  obtain rfl : repeated = [1, 3] :=
    hperm.eq_of_pairwise (fun a b _ _ hab hba => by omega) hordered (by decide)
  exact ⟨hnumbers, rfl, hsift, hrepeated⟩

end Rule

end HeaderRules
