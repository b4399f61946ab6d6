import HeaderRules.Proofs.Store.Keyed
import HeaderRules.Proofs.Store.Update
/-!
# What a store always keeps

Updates may remove any ids, add any rules, and be accepted or refused in any order. All along the
installed rules have passed their check, no two of them have the same id, there are no more of them
than the limit allows, and the version counts the updates that were accepted.
-/

namespace HeaderRules

namespace Store

def after (s : Store) (call : UpdateCall) : Store := (s.update call.remove call.add).store

def run (s : Store) (calls : List UpdateCall) : Store := calls.foldl after s

def outcomes (s : Store) : List UpdateCall → List (Except Fault Unit)
  | [] => []
  | call :: rest => (s.update call.remove call.add).outcome :: (s.after call).outcomes rest

theorem update_of_ok {s t : Store} {call : UpdateCall}
    (h : s.replace call.remove call.add = .ok t) :
    s.after call = t ∧ (s.update call.remove call.add).outcome = .ok () := by
  simp [after, update, h]

theorem update_of_error {s : Store} {call : UpdateCall} {fault : Fault}
    (h : s.replace call.remove call.add = .error fault) :
    s.after call = s ∧ (s.update call.remove call.add).outcome = .error fault := by
  simp [after, update, h]

theorem Reachable.run {s : Store} (h : s.Reachable) (calls : List UpdateCall) :
    (s.run calls).Reachable := by
  induction calls generalizing s with
  | nil => exact h
  | cons call rest ih => exact ih (h.update call.remove call.add)

theorem maxRules_run (s : Store) (calls : List UpdateCall) :
    (s.run calls).maxRules = s.maxRules := by
  induction calls generalizing s with
  | nil => rfl
  | cons call rest ih =>
    rw [run, List.foldl_cons, ← run, ih]
    cases hreplace : s.replace call.remove call.add with
    | ok t =>
      obtain ⟨keys, -, -, -, ht⟩ := replace_eq_ok.1 hreplace
      rw [(update_of_ok hreplace).1, ht]
    | error fault => rw [(update_of_error hreplace).1]

theorem version_run (s : Store) (calls : List UpdateCall) :
    (s.run calls).version = s.version + (s.outcomes calls).countP (·.isOk) := by
  induction calls generalizing s with
  | nil => rfl
  | cons call rest ih =>
    rw [run, List.foldl_cons, ← run, ih, outcomes, List.countP_cons]
    cases hreplace : s.replace call.remove call.add with
    | ok t =>
      obtain ⟨hafter, houtcome⟩ := update_of_ok hreplace
      obtain ⟨keys, -, -, -, ht⟩ := replace_eq_ok.1 hreplace
      have hversion : (s.after call).version = s.version + 1 := by rw [hafter, ht]
      rw [houtcome, hversion]
      simp [Except.isOk, Except.toBool]
      omega
    | error fault =>
      obtain ⟨hafter, houtcome⟩ := update_of_error hreplace
      rw [houtcome, hafter]
      simp [Except.isOk, Except.toBool]

end Store

namespace KeyedStore

/-- The dictionary after an update, which leaves it as it was if it is refused. -/
def after (k : KeyedStore) (call : UpdateCall) : KeyedStore :=
  match k.replace call.remove call.add with
  | .ok t => t
  | .error _ => k

def run (k : KeyedStore) (calls : List UpdateCall) : KeyedStore := calls.foldl after k

theorem after_toStore {k : KeyedStore} (h : Keyed k.entries) (call : UpdateCall) :
    (k.after call).toStore = k.toStore.after call ∧ Keyed (k.after call).entries := by
  obtain ⟨hmap, hkeyed⟩ := replace_toStore h call.remove call.add
  unfold after
  cases hreplace : k.replace call.remove call.add with
  | ok t =>
    rw [hreplace] at hmap
    exact ⟨(Store.update_of_ok hmap.symm).1.symm, hkeyed t hreplace⟩
  | error fault =>
    rw [hreplace] at hmap
    exact ⟨(Store.update_of_error hmap.symm).1.symm, h⟩

theorem run_toStore {k : KeyedStore} (h : Keyed k.entries) (calls : List UpdateCall) :
    (k.run calls).toStore = k.toStore.run calls ∧ Keyed (k.run calls).entries := by
  induction calls generalizing k with
  | nil => exact ⟨rfl, h⟩
  | cons call rest ih =>
    obtain ⟨hstore, hkeyed⟩ := after_toStore h call
    obtain ⟨hrun, hkept⟩ := ih hkeyed
    exact ⟨by rw [Store.run, List.foldl_cons, ← hstore]; exact hrun, hkept⟩

end KeyedStore

namespace Store

/-- In every run of updates from an empty store: kept as a dictionary, the store has every rule
under its id; the ids are whole numbers in range and no two are the same; every rule has passed its
check, so its types are known and its operations can be carried out, and there are some of each; the
limit is kept; and the version is the number of accepted updates. -/
theorem run_wellKept (maxRules : Int) (calls : List UpdateCall) :
    let s := (Store.empty maxRules).run calls
    let keyed := (KeyedStore.empty maxRules).run calls
    (keyed.toStore = s ∧ ∀ entry ∈ keyed.entries, entry.2.id = .scalar entry.1) ∧
      (∀ rule ∈ s.rules, ∃ n : Int, rule.id = .int n ∧ 1 ≤ n ∧ n ≤ 2147483647) ∧
      (s.rules.map (·.id)).Nodup ∧
      (∀ rule ∈ s.rules, validate rule = .ok () ∧
        rule.condition.types ≠ [] ∧ (∀ type ∈ rule.condition.types, type ∈ ResourceType.known) ∧
        rule.action.operations ≠ [] ∧ ∀ op ∈ rule.action.operations,
          (op.verb = .set ∨ op.verb = .append ∨ op.verb = .remove) ∧
            ∃ name, op.header = some name ∧ Text.hasInk name = true) ∧
      (s.rules.length : Int) ≤ max maxRules 0 ∧
      s.version = ((Store.empty maxRules).outcomes calls).countP (·.isOk) := by
  intro s keyed
  have hkept : s.WellKept := ((Reachable.empty maxRules).run calls).wellKept
  have hkeyed := KeyedStore.run_toStore (k := .empty maxRules) (by simp [KeyedStore.Keyed,
    KeyedStore.empty]) calls
  have hroom := hkept.room
  rw [maxRules_run] at hroom
  refine ⟨hkeyed, ?_, hkept.distinct, ?_, hroom, ?_⟩
  · intro rule hrule
    exact (hkept.installable rule hrule).id
  · intro rule hrule
    have hrule := hkept.installable rule hrule
    exact ⟨validate_eq_ok.2 hrule, hrule.hasTypes, hrule.typesKnown, hrule.hasOperations,
      fun op hop => ⟨(hrule.operable op hop).verb, (hrule.operable op hop).header⟩⟩
  · rw [version_run]
    simp [Store.empty]

end Store

end HeaderRules
