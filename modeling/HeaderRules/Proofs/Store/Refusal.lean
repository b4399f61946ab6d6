import HeaderRules.Proofs.Store.Update
/-!
# Refused updates

Which updates a store refuses and for which reason, and what all others leave. The rules to add are
looked at in order, and the first one that cannot be added behind the rest and those before it
decides. Only if there is none does the number of rules count.
-/

namespace HeaderRules.Store

/-- Whether a fault is one of the update and not of the way in which it is asked for. -/
def Fault.isRefusal : Fault → Bool
  | notAKey _ => false
  | _ => true

/-- The installed rules that an update does not remove. -/
def keptRules (s : Store) (remove : List Scalar) : List Rule :=
  s.rules.filter fun rule => !hasIdIn remove rule

/-- Why a rule cannot be added behind others. What is wrong with the rule itself comes first. -/
inductive Offends (others : List Rule) (rule : Rule) : Fault → Prop
  | invalid {fault : Fault} (h : validate rule = .error fault) : Offends others rule fault
  | taken (hvalid : validate rule = .ok ()) (hid : rule.id ∈ others.map (·.id)) :
      Offends others rule (.idTaken rule.id)

/-- The fault of the first rule that cannot be added behind others and the rules before it. -/
inductive FirstOffence : (others add : List Rule) → Fault → Prop
  | here {others rest : List Rule} {rule : Rule} {fault : Fault} (h : Offends others rule fault) :
      FirstOffence others (rule :: rest) fault
  | later {others rest : List Rule} {rule : Rule} {fault : Fault}
      (hnone : ∀ other, ¬Offends others rule other)
      (h : FirstOffence (others ++ [rule]) rest fault) : FirstOffence others (rule :: rest) fault

variable {others add : List Rule} {rule : Rule} {fault : Fault}

/-! ## Rules that offend -/

theorem isRefusal_of_validate (h : validate rule = .error fault) : fault.isRefusal = true := by
  have hoperation (op : Operation) (hop : validateOperation rule.id op = .error fault) :
      fault.isRefusal = true := by
    unfold validateOperation at hop
    split at hop
    · obtain rfl := Except.error.inj hop
      rfl
    · split at hop <;> cases hop
      rfl
  unfold validate at h
  split at h
  · obtain rfl := Except.error.inj h
    rfl
  split at h
  · obtain rfl := Except.error.inj h
    rfl
  split at h
  · obtain rfl := Except.error.inj h
    rfl
  split at h
  · obtain rfl := Except.error.inj h
    rfl
  · obtain ⟨op, -, hop⟩ := Outcome.exists_of_forM_eq_error h
    exact hoperation op hop

theorem Offends.isRefusal (h : Offends others rule fault) : fault.isRefusal = true := by
  cases h with
  | invalid h => exact isRefusal_of_validate h
  | taken => rfl

theorem exists_offends_iff :
    (∃ fault, Offends others rule fault) ↔
      validate rule ≠ .ok () ∨ rule.id ∈ others.map (·.id) := by
  constructor
  · rintro ⟨fault, h | ⟨-, hid⟩⟩
    · exact .inl (by simp [h])
    · exact .inr hid
  · intro h
    cases hvalid : validate rule with
    | error fault => exact ⟨fault, .invalid hvalid⟩
    | ok valid =>
      have hid : rule.id ∈ others.map (·.id) := h.resolve_left (fun hne => hne hvalid)
      exact ⟨.idTaken rule.id, .taken hvalid hid⟩

theorem install_eq_error_iff (hothers : ∀ other ∈ others, other.HasNumber) :
    install others rule = .error fault ↔ Offends others rule fault := by
  have htaken (hvalid : validate rule = .ok ()) :
      holdsId others rule = true ↔ rule.id ∈ others.map (·.id) := by
    have hfree := holdsId_eq_false_iff hothers (hasNumber_of_validate hvalid)
    rw [← Bool.not_eq_false, hfree, not_not]
  rw [install_eq_error]
  constructor
  · rintro (hfault | ⟨hvalid, hholds, rfl⟩)
    · exact .invalid hfault
    · exact .taken hvalid ((htaken hvalid).1 hholds)
  · rintro (hfault | ⟨hvalid, hid⟩)
    · exact .inl hfault
    · exact .inr ⟨hvalid, (htaken hvalid).2 hid, rfl⟩

/-! ## The first that offends -/

theorem FirstOffence.isRefusal (h : FirstOffence others add fault) : fault.isRefusal = true := by
  induction h with
  | here h => exact h.isRefusal
  | later _ _ ih => exact ih

theorem exists_firstOffence_iff :
    (∃ fault, FirstOffence others add fault) ↔
      ∃ before rule after, add = before ++ rule :: after ∧
        (validate rule ≠ .ok () ∨ rule.id ∈ others.map (·.id) ∨ rule.id ∈ before.map (·.id)) := by
  constructor
  · rintro ⟨fault, h⟩
    induction h with
    | @here others rest rule fault h =>
      have hrule := exists_offends_iff.1 ⟨fault, h⟩
      exact ⟨[], rule, rest, rfl, hrule.imp_right .inl⟩
    | @later others rest first fault hnone h ih =>
      obtain ⟨before, rule, after, rfl, hrule⟩ := ih
      refine ⟨first :: before, rule, after, rfl, hrule.imp_right ?_⟩
      simp only [List.map_append, List.map_cons, List.map_nil, List.mem_append, List.mem_cons,
        List.not_mem_nil, or_false]
      tauto
  · rintro ⟨before, rule, after, rfl, hrule⟩
    induction before generalizing others with
    | nil =>
      have hoffends : validate rule ≠ .ok () ∨ rule.id ∈ others.map (·.id) := by simpa using hrule
      obtain ⟨fault, h⟩ := exists_offends_iff.2 hoffends
      exact ⟨fault, .here h⟩
    | cons first before ih =>
      by_cases hfirst : ∃ fault, Offends others first fault
      · obtain ⟨fault, h⟩ := hfirst
        exact ⟨fault, .here h⟩
      · have hnext : validate rule ≠ .ok () ∨ rule.id ∈ (others ++ [first]).map (·.id) ∨
            rule.id ∈ before.map (·.id) := by
          simp only [List.map_append, List.map_cons, List.map_nil, List.mem_append, List.mem_cons,
            List.not_mem_nil, or_false] at hrule ⊢
          tauto
        obtain ⟨fault, h⟩ := ih hnext
        exact ⟨fault, .later (not_exists.1 hfirst) h⟩

theorem foldlM_install_eq_error_iff (hothers : ∀ other ∈ others, other.HasNumber) :
    add.foldlM install others = .error fault ↔ FirstOffence others add fault := by
  induction add generalizing others with
  | nil =>
    constructor
    · intro h
      cases h
    · rintro ⟨⟩
  | cons rule rest ih =>
    rw [List.foldlM_cons]
    cases hinstall : install others rule with
    | error found =>
      have hfound : Offends others rule found := (install_eq_error_iff hothers).1 hinstall
      rw [Outcome.error_bind]
      constructor
      · intro h
        obtain rfl := Except.error.inj h
        exact .here hfound
      · rintro (h | ⟨hnone, -⟩)
        · rw [← hinstall]
          exact (install_eq_error_iff hothers).2 h
        · exact absurd hfound (hnone found)
    | ok next =>
      obtain ⟨hvalid, -, rfl⟩ := install_eq_ok.1 hinstall
      have hnone (other : Fault) : ¬Offends others rule other := by
        intro h
        rw [(install_eq_error_iff hothers).2 h] at hinstall
        cases hinstall
      have hnext : ∀ other ∈ others ++ [rule], other.HasNumber := by
        intro other hother
        rcases List.mem_append.1 hother with hother | hother
        · exact hothers other hother
        · rw [List.mem_singleton.1 hother]
          exact hasNumber_of_validate hvalid
      rw [Outcome.ok_bind, ih hnext]
      constructor
      · exact .later hnone
      · rintro (h | ⟨-, h⟩)
        · exact absurd h (hnone fault)
        · exact h

/-! ## Updates -/

theorem removalKeys_scalars (remove : List Scalar) :
    removalKeys (remove.map .scalar) = .ok remove := by
  induction remove with
  | nil => rfl
  | cons key rest ih =>
    unfold removalKeys at ih ⊢
    rw [List.map_cons, List.mapM_cons, ih]
    rfl

theorem hasNumber_keptRules {s : Store} (hs : s.Reachable) (remove : List Scalar) :
    ∀ rule ∈ s.keptRules remove, rule.HasNumber :=
  fun rule hrule => hs.hasNumber rule (List.mem_filter.1 hrule).1

theorem replace_eq_error_iff {s : Store} (hs : s.Reachable) (remove : List Scalar) :
    s.replace (remove.map .scalar) add = .error fault ↔
      FirstOffence (s.keptRules remove) add fault ∨
        (∀ other, ¬FirstOffence (s.keptRules remove) add other) ∧
          s.maxRules < (s.keptRules remove).length + add.length ∧
          fault = .tooMany ((s.keptRules remove).length + add.length) s.maxRules := by
  have hoffence (other : Fault) : add.foldlM install (s.keptRules remove) = .error other ↔
      FirstOffence (s.keptRules remove) add other :=
    foldlM_install_eq_error_iff (hasNumber_keptRules hs remove)
  unfold replace
  rw [removalKeys_scalars, Outcome.ok_bind, ← keptRules]
  cases hadd : add.foldlM install (s.keptRules remove) with
  | error found =>
    have hfound : FirstOffence (s.keptRules remove) add found := (hoffence found).1 hadd
    rw [Outcome.error_bind, ← hoffence fault, hadd, Except.error.injEq, Except.error.injEq]
    constructor
    · exact .inl
    · rintro (h | ⟨hnone, -⟩)
      · exact h
      · exact absurd hfound (hnone found)
  | ok updated =>
    obtain ⟨-, rfl⟩ := foldlM_install_eq_ok.1 hadd
    have hnone (other : Fault) : ¬FirstOffence (s.keptRules remove) add other := by
      rw [← hoffence other, hadd]
      simp
    simp only [Outcome.ok_bind, List.length_append]
    split
    · rename_i hroom
      push_cast at hroom
      simp [hnone, hroom, eq_comm]
    · rename_i hroom
      push_cast at hroom
      simp [hnone, hroom]

theorem exists_replace_error_iff {s : Store} (hs : s.Reachable) (remove : List Scalar) :
    (∃ fault, s.replace (remove.map .scalar) add = .error fault) ↔
      (∃ fault, FirstOffence (s.keptRules remove) add fault) ∨
        s.maxRules < (s.keptRules remove).length + add.length := by
  simp only [replace_eq_error_iff hs]
  constructor
  · rintro ⟨fault, h | ⟨-, hfull, -⟩⟩
    · exact .inl ⟨fault, h⟩
    · exact .inr hfull
  · intro h
    by_cases hoffence : ∃ fault, FirstOffence (s.keptRules remove) add fault
    · obtain ⟨fault, hfault⟩ := hoffence
      exact ⟨fault, .inl hfault⟩
    · exact ⟨_, .inr ⟨not_exists.1 hoffence, h.resolve_left hoffence, rfl⟩⟩

theorem update_eq_error_iff {s : Store} {remove : List Value} :
    (s.update remove add).outcome = .error fault ↔ s.replace remove add = .error fault := by
  unfold update
  cases s.replace remove add <;> simp

theorem store_of_update_error {s : Store} {remove : List Value}
    (h : (s.update remove add).outcome = .error fault) : (s.update remove add).store = s := by
  rw [update_eq_error_iff] at h
  simp [update, h]

theorem replace_of_update_ok {s : Store} {remove : List Value}
    (h : (s.update remove add).outcome = .ok ()) :
    s.replace remove add = .ok (s.update remove add).store := by
  unfold update at h ⊢
  cases hreplace : s.replace remove add with
  | error fault => simp [hreplace] at h
  | ok next => rfl

/-- A store refuses an update just when one of the rules to add fails its check, or has the id of a
rule that is kept or of one before it, or when there are too many rules in the end. The reason given
is the first offence, and the number of rules only if nothing offends. A refused update leaves the
store as it was; any other leaves the rules that are kept, in their order, and those added behind
them. -/
theorem update_refused_iff {s : Store} (hs : s.Reachable) (remove : List Scalar)
    (add : List Rule) :
    let kept := s.keptRules remove
    let updated := s.update (remove.map .scalar) add
    ((∃ fault, updated.outcome = .error fault) ↔
      (∃ before rule after, add = before ++ rule :: after ∧
        (validate rule ≠ .ok () ∨ rule.id ∈ kept.map (·.id) ∨ rule.id ∈ before.map (·.id))) ∨
      s.maxRules < kept.length + add.length) ∧
    (∀ fault, updated.outcome = .error fault →
      updated.store = s ∧ fault.isRefusal = true ∧
        (FirstOffence kept add fault ∨
          (∀ other, ¬FirstOffence kept add other) ∧ s.maxRules < kept.length + add.length ∧
            fault = .tooMany (kept.length + add.length) s.maxRules)) ∧
    (updated.outcome = .ok () →
      updated.store = { s with rules := kept ++ add, version := s.version + 1 }) := by
  intro kept updated
  have hrefused (fault : Fault) :
      updated.outcome = .error fault ↔ s.replace (remove.map .scalar) add = .error fault :=
    update_eq_error_iff
  refine ⟨?_, ?_, ?_⟩
  · simp only [hrefused]
    rw [exists_replace_error_iff hs, exists_firstOffence_iff]
  · intro fault hfault
    have hreason := (replace_eq_error_iff hs remove).1 ((hrefused fault).1 hfault)
    refine ⟨store_of_update_error hfault, ?_, hreason⟩
    rcases hreason with h | ⟨-, -, rfl⟩
    · exact h.isRefusal
    · rfl
  · intro hdone
    obtain ⟨keys, hkeys, -, -, hstore⟩ := replace_eq_ok.1 (replace_of_update_ok hdone)
    rw [removalKeys_scalars] at hkeys
    obtain rfl := Except.ok.inj hkeys
    exact hstore

def languageRule (id : Int) : Rule :=
  ⟨.int id, 1, ⟨"*", ["main_frame"]⟩, ⟨[⟨some "Accept-Language", "de", .set⟩], []⟩⟩

/-- Two rules are removed, one of them by `true` for its id. Of the rules to add, the second has the
id of the rule that is kept, and the third could not be installed anywhere. -/
theorem update_refused_iff_taken :
    let s := ((Store.empty 3).update [] [languageRule 7, languageRule 8, languageRule 1]).store
    let add := [languageRule 7, languageRule 8, languageRule 0]
    let updated := s.update ([.int 7, .bool true].map .scalar) add
    s.Reachable ∧ s.keptRules [.int 7, .bool true] = [languageRule 8] ∧
      updated.outcome = .error (.idTaken (.int 8)) ∧ updated.store = s ∧
      FirstOffence [languageRule 8] add (.idTaken (.int 8)) := by
  intro s add updated
  have hs : s.Reachable :=
    (Reachable.empty 3).update [] [languageRule 7, languageRule 8, languageRule 1]
  have hkept : s.keptRules [.int 7, .bool true] = [languageRule 8] := by with_unfolding_all rfl
  have houtcome : updated.outcome = .error (.idTaken (.int 8)) := by with_unfolding_all rfl
  obtain ⟨hstore, -, hreason⟩ :=
    (update_refused_iff hs [.int 7, .bool true] add).2.1 _ houtcome
  rw [hkept] at hreason
  refine ⟨hs, hkept, houtcome, hstore, ?_⟩
  rcases hreason with h | ⟨-, -, hfull⟩
  · exact h
  · cases hfull

end HeaderRules.Store
