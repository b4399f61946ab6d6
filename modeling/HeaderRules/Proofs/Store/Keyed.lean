import HeaderRules.Apply
import HeaderRules.Proofs.Store.Check
/-!
# Rules under keys

A store as a dictionary, in which every rule stands under a key. An update takes keys out and puts
rules under their ids. Since a rule is put nowhere else, every key stays the id of the rule under
it, and the rules alone, in their order, say all that the dictionary says.
-/

namespace HeaderRules

open HeaderRules.Store (Fault validate removalKeys)

/-- Installed rules, each under a key, in the order in which the keys came. -/
structure KeyedStore where
  maxRules : Int
  entries : List (Scalar × Rule)
  version : Nat

namespace KeyedStore

def empty (maxRules : Int) : KeyedStore := ⟨maxRules, [], 0⟩

def holdsKey (entries : List (Scalar × Rule)) (key : Scalar) : Bool := entries.any (·.1.sameKey key)

/-- Puts a rule under a key. A key that is there keeps its place and spelling. -/
def put (entries : List (Scalar × Rule)) (key : Scalar) (rule : Rule) : List (Scalar × Rule) :=
  if holdsKey entries key then
    entries.map fun entry => if entry.1.sameKey key then (entry.1, rule) else entry
  else entries ++ [(key, rule)]

/-- Puts a rule under its id, if it passes its check and no rule stands there. -/
def install (entries : List (Scalar × Rule)) (rule : Rule) :
    Except Fault (List (Scalar × Rule)) := do
  validate rule
  match rule.id with
  | .scalar key =>
    if holdsKey entries key then throw (.idTaken rule.id)
    return put entries key rule
  | id => throw (.notAKey id)

def without (entries : List (Scalar × Rule)) (keys : List Scalar) : List (Scalar × Rule) :=
  entries.filter fun entry => !keys.any entry.1.sameKey

def replace (k : KeyedStore) (remove : List Value) (add : List Rule) :
    Except Fault KeyedStore := do
  let keys ← removalKeys remove
  let updated ← add.foldlM install (without k.entries keys)
  if k.maxRules < updated.length then throw (.tooMany updated.length k.maxRules)
  return ⟨k.maxRules, updated, k.version + 1⟩

def toStore (k : KeyedStore) : Store := ⟨k.maxRules, k.entries.map (·.2), k.version⟩

def Keyed (entries : List (Scalar × Rule)) : Prop := ∀ entry ∈ entries, entry.2.id = .scalar entry.1

/-- A dictionary and a list of rules come to the same: either to rules, and then every key is the
id of its rule, or to a fault. -/
inductive Agrees : Except Fault (List (Scalar × Rule)) → Except Fault (List Rule) → Prop
  | rules {entries : List (Scalar × Rule)} (keyed : Keyed entries) :
      Agrees (.ok entries) (.ok (entries.map (·.2)))
  | fault (fault : Fault) : Agrees (.error fault) (.error fault)

theorem holdsId_map {entries : List (Scalar × Rule)} (h : Keyed entries) {rule : Rule}
    {key : Scalar} (hid : rule.id = .scalar key) :
    Store.holdsId (entries.map (·.2)) rule = holdsKey entries key := by
  simp only [Store.holdsId, hid, holdsKey, List.any_map]
  rw [Bool.eq_iff_iff, List.any_eq_true, List.any_eq_true]
  refine exists_congr fun entry => and_congr_right fun hentry => ?_
  simp [Store.hasIdIn, h entry hentry]

theorem map_without {entries : List (Scalar × Rule)} (h : Keyed entries) (keys : List Scalar) :
    (without entries keys).map (·.2) =
      (entries.map (·.2)).filter fun rule => !Store.hasIdIn keys rule := by
  rw [without, List.filter_map]
  congr 1
  apply List.filter_congr
  intro entry hentry
  simp [Store.hasIdIn, h entry hentry]

theorem Keyed.without {entries : List (Scalar × Rule)} (h : Keyed entries) (keys : List Scalar) :
    Keyed (without entries keys) :=
  fun entry hentry => h entry (List.mem_filter.1 hentry).1

theorem install_agrees {entries : List (Scalar × Rule)} (h : Keyed entries) (rule : Rule) :
    Agrees (install entries rule) (Store.install (entries.map (·.2)) rule) := by
  unfold install Store.install
  cases hvalid : validate rule with
  | error fault => exact .fault fault
  | ok valid =>
    obtain ⟨n, hid, -⟩ := (Store.validate_eq_ok.1 hvalid).id
    rw [holdsId_map h hid]
    simp only [hid, Outcome.ok_bind]
    cases hholds : holdsKey entries (.int n) with
    | true => exact .fault _
    | false =>
      have hkeyed : Keyed (entries ++ [(.int n, rule)]) := by
        intro entry hentry
        rcases List.mem_append.1 hentry with hentry | hentry
        · exact h entry hentry
        · rw [List.mem_singleton.1 hentry, hid]
      simpa [put, hholds] using Agrees.rules hkeyed

theorem foldlM_agrees {entries : List (Scalar × Rule)} (h : Keyed entries) (add : List Rule) :
    Agrees (add.foldlM install entries) (add.foldlM Store.install (entries.map (·.2))) := by
  induction add generalizing entries with
  | nil => exact .rules h
  | cons rule rest ih =>
    rw [List.foldlM_cons, List.foldlM_cons]
    have hagrees := install_agrees h rule
    generalize install entries rule = here,
      Store.install (entries.map (·.2)) rule = there at hagrees
    cases hagrees with
    | rules keyed => exact ih keyed
    | fault fault => exact .fault fault

/-- An update of a dictionary is the update of the store that holds the same rules. -/
theorem replace_toStore {k : KeyedStore} (h : Keyed k.entries) (remove : List Value)
    (add : List Rule) :
    (k.replace remove add).map toStore = k.toStore.replace remove add ∧
      ∀ t, k.replace remove add = .ok t → Keyed t.entries := by
  unfold replace Store.replace
  cases removalKeys remove with
  | error fault => simp
  | ok keys =>
    simp only [Outcome.ok_bind, toStore]
    rw [← map_without h]
    have hagrees := foldlM_agrees (h.without keys) add
    generalize add.foldlM install (without k.entries keys) = here,
      add.foldlM Store.install ((without k.entries keys).map (·.2)) = there at hagrees
    cases hagrees with
    | fault fault => simp
    | rules keyed =>
      simp only [Outcome.ok_bind, List.length_map]
      split
      · simp
      · refine ⟨rfl, fun t ht => ?_⟩
        obtain rfl := Except.ok.inj ht
        exact keyed

end KeyedStore

end HeaderRules
