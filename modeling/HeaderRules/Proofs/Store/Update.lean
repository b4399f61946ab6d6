import HeaderRules.Apply
import HeaderRules.Proofs.Rule.Firsts
import HeaderRules.Proofs.Store.Check
/-!
# Updates of a store

What an accepted update has checked and what it leaves, and the stores that updates lead to. Every
rule in such a store has passed the check of its own, so its id is a number; an update that removes
all ids it holds therefore starts from nothing.
-/

namespace HeaderRules.Store

def Addable (base : List Rule) : List Rule → Prop
  | [] => True
  | rule :: rest =>
    validate rule = .ok () ∧ holdsId base rule = false ∧ Addable (base ++ [rule]) rest

theorem install_eq_ok {base after : List Rule} {rule : Rule} :
    install base rule = .ok after ↔
      validate rule = .ok () ∧ holdsId base rule = false ∧ after = base ++ [rule] := by
  unfold install
  cases hvalid : validate rule with
  | error fault => simp
  | ok valid =>
    cases hholds : holdsId base rule with
    | true => simp
    | false => simp [eq_comm]

theorem foldlM_install_eq_ok {base add after : List Rule} :
    add.foldlM install base = .ok after ↔ Addable base add ∧ after = base ++ add := by
  induction add generalizing base with
  | nil => simp [Addable, eq_comm]
  | cons rule rest ih =>
    rw [List.foldlM_cons, Outcome.bind_eq_ok]
    constructor
    · rintro ⟨next, hnext, hrest⟩
      obtain ⟨hvalid, hholds, rfl⟩ := install_eq_ok.1 hnext
      obtain ⟨haddable, rfl⟩ := ih.1 hrest
      exact ⟨⟨hvalid, hholds, haddable⟩, by simp⟩
    · rintro ⟨⟨hvalid, hholds, haddable⟩, rfl⟩
      exact ⟨base ++ [rule], install_eq_ok.2 ⟨hvalid, hholds, rfl⟩, ih.2 ⟨haddable, by simp⟩⟩

theorem install_eq_error {base : List Rule} {rule : Rule} {fault : Fault} :
    install base rule = .error fault ↔
      validate rule = .error fault ∨
        (validate rule = .ok () ∧ holdsId base rule = true ∧ fault = .idTaken rule.id) := by
  unfold install
  cases hvalid : validate rule with
  | error other => simp
  | ok valid =>
    cases hholds : holdsId base rule with
    | true => simp [eq_comm]
    | false => simp

theorem fault_of_foldlM_install {base add : List Rule} {fault : Fault}
    (h : add.foldlM install base = .error fault) :
    ∃ before rule after, add = before ++ rule :: after ∧ Addable base before ∧
      install (base ++ before) rule = .error fault := by
  induction add generalizing base with
  | nil => simp at h
  | cons rule rest ih =>
    rw [List.foldlM_cons] at h
    cases hinstall : install base rule with
    | error other =>
      rw [hinstall, Outcome.error_bind] at h
      obtain rfl := Except.error.inj h
      exact ⟨[], rule, rest, rfl, trivial, by simpa using hinstall⟩
    | ok next =>
      rw [hinstall, Outcome.ok_bind] at h
      obtain ⟨hvalid, hholds, rfl⟩ := install_eq_ok.1 hinstall
      obtain ⟨before, other, after, rfl, haddable, hother⟩ := ih h
      exact ⟨rule :: before, other, after, rfl, ⟨hvalid, hholds, haddable⟩, by simpa using hother⟩

theorem Addable.validate {base add : List Rule} (h : Addable base add) :
    ∀ rule ∈ add, Store.validate rule = .ok () := by
  induction add generalizing base with
  | nil => simp
  | cons rule rest ih =>
    intro other hother
    rcases List.mem_cons.1 hother with rfl | hother
    · exact h.1
    · exact ih h.2.2 other hother

/-- All that an accepted update has checked, and what it leaves. -/
theorem replace_eq_ok {s t : Store} {remove : List Value} {add : List Rule} :
    s.replace remove add = .ok t ↔
      ∃ keys, removalKeys remove = .ok keys ∧
        Addable (s.rules.filter fun rule => !hasIdIn keys rule) add ∧
        ((s.rules.filter fun rule => !hasIdIn keys rule) ++ add).length ≤ s.maxRules ∧
        t = ⟨s.maxRules, (s.rules.filter fun rule => !hasIdIn keys rule) ++ add,
          s.version + 1⟩ := by
  unfold replace
  simp only [Outcome.bind_eq_ok, foldlM_install_eq_ok]
  constructor
  · rintro ⟨keys, hkeys, updated, ⟨haddable, rfl⟩, h⟩
    split at h
    · simp at h
    · rename_i hroom
      exact ⟨keys, hkeys, haddable, by omega, (Except.ok.inj h).symm⟩
  · rintro ⟨keys, hkeys, haddable, hroom, rfl⟩
    refine ⟨keys, hkeys, _, ⟨haddable, rfl⟩, ?_⟩
    rw [if_neg (by omega)]
    rfl

theorem hasNumber_of_validate {rule : Rule} (h : validate rule = .ok ()) : rule.HasNumber := by
  obtain ⟨n, hn, -, -⟩ := (validate_eq_ok.1 h).id
  exact ⟨n, hn⟩

/-! ## Ids that are taken -/

theorem holdsId_eq_false_iff {rules : List Rule} {rule : Rule}
    (hrules : ∀ other ∈ rules, other.HasNumber) (hrule : rule.HasNumber) :
    holdsId rules rule = false ↔ rule.id ∉ rules.map (·.id) := by
  obtain ⟨n, hn⟩ := hrule
  have hsame : ∀ other ∈ rules, (hasIdIn [.int n] other = true ↔ other.id = .int n) := by
    intro other hother
    obtain ⟨m, hm⟩ := hrules other hother
    simp [hasIdIn, hm]
  simp only [holdsId, hn, List.any_eq_false, List.mem_map, not_exists, not_and]
  exact forall₂_congr fun other hother => not_congr (hsame other hother)

theorem nodup_ids_concat {rules : List Rule} {rule : Rule} :
    ((rules ++ [rule]).map (·.id)).Nodup ↔
      (rules.map (·.id)).Nodup ∧ rule.id ∉ rules.map (·.id) := by
  simp only [List.map_append, List.map_cons, List.map_nil, List.nodup_append, List.mem_singleton]
  constructor
  · rintro ⟨hrules, -, hdiffer⟩
    exact ⟨hrules, fun hmem => hdiffer _ hmem _ rfl rfl⟩
  · rintro ⟨hrules, hnew⟩
    refine ⟨hrules, by simp, ?_⟩
    rintro id hmem _ rfl rfl
    exact hnew hmem

/-- Rules can be added exactly if each passes its check and no two ids are the same. -/
theorem addable_iff {base add : List Rule} (hbase : ∀ rule ∈ base, rule.HasNumber)
    (hdistinct : (base.map (·.id)).Nodup) :
    Addable base add ↔
      (∀ rule ∈ add, validate rule = .ok ()) ∧ ((base ++ add).map (·.id)).Nodup := by
  induction add generalizing base with
  | nil => simp [Addable, hdistinct]
  | cons rule rest ih =>
    have hlist : base ++ rule :: rest = (base ++ [rule]) ++ rest := by simp
    have hnext : rule.HasNumber → ∀ other ∈ base ++ [rule], other.HasNumber := by
      intro hrule other hother
      rcases List.mem_append.1 hother with hother | hother
      · exact hbase other hother
      · rwa [List.mem_singleton.1 hother]
    rw [Addable, hlist, List.forall_mem_cons]
    constructor
    · rintro ⟨hvalid, hfree, hrest⟩
      have hrule := hasNumber_of_validate hvalid
      have hnew : rule.id ∉ base.map (·.id) := (holdsId_eq_false_iff hbase hrule).1 hfree
      obtain ⟨hall, hids⟩ :=
        (ih (hnext hrule) (nodup_ids_concat.2 ⟨hdistinct, hnew⟩)).1 hrest
      exact ⟨⟨hvalid, hall⟩, hids⟩
    · rintro ⟨⟨hvalid, hall⟩, hids⟩
      have hrule := hasNumber_of_validate hvalid
      have hnodup : ((base ++ [rule]).map (·.id)).Nodup := by
        rw [List.map_append] at hids
        exact (List.nodup_append.1 hids).1
      have hnew : rule.id ∉ base.map (·.id) := (nodup_ids_concat.1 hnodup).2
      have hrest := (ih (hnext hrule) hnodup).2 ⟨hall, hids⟩
      exact ⟨hvalid, (holdsId_eq_false_iff hbase hrule).2 hnew, hrest⟩

/-! ## The stores that updates lead to -/

/-- What holds of every store that updates lead to. -/
structure WellKept (s : Store) : Prop where
  installable : ∀ rule ∈ s.rules, Installable rule
  distinct : (s.rules.map (·.id)).Nodup
  room : (s.rules.length : Int) ≤ max s.maxRules 0

theorem WellKept.empty (maxRules : Int) : (Store.empty maxRules).WellKept where
  installable := by simp [Store.empty]
  distinct := by simp [Store.empty]
  room := Int.le_max_right maxRules 0

theorem WellKept.hasNumber {s : Store} (h : s.WellKept) : ∀ rule ∈ s.rules, rule.HasNumber :=
  fun rule hrule => hasNumber_of_validate (validate_eq_ok.2 (h.installable rule hrule))

theorem WellKept.replace {s t : Store} (h : s.WellKept) {remove : List Value} {add : List Rule}
    (hreplace : s.replace remove add = .ok t) : t.WellKept := by
  obtain ⟨keys, -, haddable, hroom, rfl⟩ := replace_eq_ok.1 hreplace
  -- what is left of the old rules is a part of them, and keeps what holds of all
  have hleft : (s.rules.filter fun rule => !hasIdIn keys rule).Sublist s.rules :=
    List.filter_sublist
  have hnumbers := fun rule hrule => h.hasNumber rule (hleft.subset hrule)
  have hnodup := h.distinct.sublist (hleft.map (·.id))
  obtain ⟨hvalid, hids⟩ := (addable_iff hnumbers hnodup).1 haddable
  refine ⟨?_, hids, ?_⟩
  · intro rule hrule
    rcases List.mem_append.1 hrule with hrule | hrule
    · exact h.installable rule (hleft.subset hrule)
    · exact validate_eq_ok.1 (hvalid rule hrule)
  · have hlimit : s.maxRules ≤ max s.maxRules 0 := by omega
    exact Int.le_trans hroom hlimit

/-- The stores that updates lead to from an empty one; a refused update changes nothing. -/
inductive Reachable : Store → Prop
  | empty (maxRules : Int) : Reachable (.empty maxRules)
  | update {s : Store} (h : Reachable s) (remove : List Value) (add : List Rule) :
      Reachable (s.update remove add).store

theorem update_store (s : Store) (remove : List Value) (add : List Rule) :
    (s.update remove add).store = s ∨ s.replace remove add = .ok (s.update remove add).store := by
  unfold update
  cases hreplace : s.replace remove add with
  | ok t => exact .inr rfl
  | error fault => exact .inl rfl

theorem Reachable.wellKept {s : Store} (h : s.Reachable) : s.WellKept := by
  induction h with
  | empty maxRules => exact .empty maxRules
  | @update s _ remove add ih =>
    rcases update_store s remove add with hstore | hstore
    · rwa [hstore]
    · exact ih.replace hstore

theorem Reachable.hasNumber {s : Store} (h : s.Reachable) :
    ∀ rule ∈ s.rules, rule.HasNumber := h.wellKept.hasNumber

/-! ## Removing all rules -/

theorem hasIdIn_cons_of_hasIdIn {key : Scalar} {keys : List Scalar} {rule : Rule}
    (h : hasIdIn keys rule = true) : hasIdIn (key :: keys) rule = true := by
  unfold hasIdIn at h ⊢
  split
  · simp_all
  · simp_all

theorem removalKeys_of_hasNumber {rules : List Rule} (h : ∀ rule ∈ rules, rule.HasNumber) :
    ∃ keys, removalKeys (rules.map (·.id)) = .ok keys ∧
      ∀ rule ∈ rules, hasIdIn keys rule = true := by
  induction rules with
  | nil => exact ⟨[], rfl, by simp⟩
  | cons rule rest ih =>
    obtain ⟨n, hn⟩ := h rule (by simp)
    obtain ⟨keys, hkeys, hall⟩ := ih fun other hother => h other (by simp [hother])
    refine ⟨.int n :: keys, ?_, ?_⟩
    · unfold removalKeys at hkeys ⊢
      simp [List.mapM_cons, hn, hkeys]
    · intro other hother
      rcases List.mem_cons.1 hother with rfl | hother
      · simp [hasIdIn, hn]
      · exact hasIdIn_cons_of_hasIdIn (hall other hother)

/-- Adding rules to nothing, within a limit. -/
def fill (maxRules : Int) (add : List Rule) : Except Fault (List Rule) := do
  let updated ← add.foldlM install []
  if maxRules < updated.length then throw (.tooMany updated.length maxRules)
  return updated

theorem fill_eq_ok {maxRules : Int} {add rules : List Rule} :
    fill maxRules add = .ok rules ↔
      rules = add ∧ Addable [] add ∧ (add.length : Int) ≤ maxRules := by
  rw [fill, Outcome.bind_eq_ok]
  simp only [foldlM_install_eq_ok, List.nil_append]
  constructor
  · rintro ⟨updated, ⟨haddable, rfl⟩, h⟩
    split at h
    · simp at h
    · rename_i hroom
      exact ⟨(Except.ok.inj h).symm, haddable, by omega⟩
  · rintro ⟨rfl, haddable, hroom⟩
    refine ⟨rules, ⟨haddable, rfl⟩, ?_⟩
    rw [if_neg (by omega)]
    rfl

theorem fault_of_fill {maxRules : Int} {add : List Rule} {fault : Fault}
    (h : fill maxRules add = .error fault) :
    (∃ before rule after, add = before ++ rule :: after ∧ Addable [] before ∧
        install before rule = .error fault) ∨
      (maxRules < add.length ∧ fault = .tooMany add.length maxRules) := by
  rw [fill] at h
  cases hadd : add.foldlM install [] with
  | error other =>
    rw [hadd, Outcome.error_bind] at h
    obtain rfl := Except.error.inj h
    exact .inl (by simpa using fault_of_foldlM_install hadd)
  | ok updated =>
    obtain ⟨-, rfl⟩ := foldlM_install_eq_ok.1 hadd
    rw [hadd, Outcome.ok_bind] at h
    split at h
    · rename_i hfull
      exact .inr ⟨hfull, by simpa using h.symm⟩
    · cases h

/-- An update that removes every id of a store works as on an empty one. -/
theorem replace_ids {s : Store} (h : ∀ rule ∈ s.rules, rule.HasNumber) (add : List Rule) :
    s.replace s.ids add =
      (fill s.maxRules add).map fun rules => { s with rules, version := s.version + 1 } := by
  obtain ⟨keys, hkeys, hall⟩ := removalKeys_of_hasNumber h
  have hnone : (s.rules.filter fun rule => !hasIdIn keys rule) = [] := by
    rw [List.filter_eq_nil_iff]
    intro rule hrule
    simp [hall rule hrule]
  unfold replace fill ids
  rw [hkeys, Outcome.ok_bind, hnone]
  cases add.foldlM install [] with
  | error fault => rfl
  | ok updated =>
    simp only [Outcome.ok_bind]
    split <;> rfl

end HeaderRules.Store
