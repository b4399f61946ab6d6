import HeaderRules.Proofs.Apply.Atomic
import Mathlib.Logic.Function.Basic
/-!
# Runs that overlap

Rules are applied in two steps: the ids in the store are read, and then they are replaced. When
several runs share a store, one can replace what another has read. What such a run removes is what
it read and not what it meets, so rules that came in between stay beside its own, and stand in its
way if they have the same ids or take up the room.
-/

namespace HeaderRules

open HeaderRules.Store (Addable Reachable fill)

namespace Store

/-- The rules that are left when some ids are removed. -/
def left (s : Store) (found : List Value) : List Rule :=
  s.rules.filter fun rule => !found.any rule.id.same

theorem removalKeys_cons_scalar (key : Scalar) (rest : List Value) :
    removalKeys (.scalar key :: rest) = removalKeys rest >>= fun keys => .ok (key :: keys) := by
  unfold removalKeys
  rw [List.mapM_cons, Outcome.ok_bind]
  rfl

theorem removalKeys_cons_of_not_scalar {id : Value} (h : ∀ key, id ≠ .scalar key)
    (rest : List Value) : removalKeys (id :: rest) = .error (.notAKey id) := by
  unfold removalKeys
  rw [List.mapM_cons]
  cases id with
  | scalar key => exact absurd rfl (h key)
  | _ => rfl

theorem removalKeys_eq_ok {ids : List Value} {keys : List Scalar} :
    removalKeys ids = .ok keys ↔ ids = keys.map Value.scalar := by
  induction ids generalizing keys with
  | nil =>
    have hnil : removalKeys [] = .ok [] := rfl
    rw [hnil]
    cases keys <;> simp
  | cons id rest ih =>
    by_cases hid : ∃ key, id = .scalar key
    · obtain ⟨key, rfl⟩ := hid
      rw [removalKeys_cons_scalar, Outcome.bind_eq_ok]
      constructor
      · rintro ⟨others, hothers, h⟩
        obtain rfl := Except.ok.inj h
        rw [ih.1 hothers, List.map_cons]
      · intro h
        cases keys with
        | nil => cases h
        | cons other others =>
          obtain ⟨hkey, hrest⟩ := List.cons.inj h
          obtain rfl := Value.scalar.inj hkey
          exact ⟨others, ih.2 hrest, rfl⟩
    · rw [removalKeys_cons_of_not_scalar (not_exists.1 hid)]
      cases keys with
      | nil => exact ⟨nofun, nofun⟩
      | cons key others =>
        refine ⟨nofun, fun h => ?_⟩
        exact absurd ⟨key, (List.cons.inj h).1⟩ hid

theorem hasIdIn_eq (keys : List Scalar) (rule : Rule) :
    hasIdIn keys rule = (keys.map Value.scalar).any rule.id.same := by
  rw [List.any_map]
  unfold hasIdIn
  cases hid : rule.id with
  | scalar id => simp [Function.comp_def]
  | _ => simp [Function.comp_def, Value.same]

theorem left_own {s : Store} (hs : s.Reachable) : s.left s.ids = [] := by
  rw [left, List.filter_eq_nil_iff]
  intro rule hrule
  obtain ⟨n, hn⟩ := hs.hasNumber rule hrule
  have hmem : rule.id ∈ s.ids := List.mem_map.2 ⟨rule, hrule, rfl⟩
  have hsame : rule.id.same rule.id = true := by simp [hn]
  simpa using ⟨rule.id, hmem, hsame⟩

theorem replace_ids_eq_ok {s t u : Store} (ht : t.Reachable) {add : List Rule} :
    s.replace t.ids add = .ok u ↔
      Addable (s.left t.ids) add ∧ ((s.left t.ids ++ add).length : Int) ≤ s.maxRules ∧
        u = ⟨s.maxRules, s.left t.ids ++ add, s.version + 1⟩ := by
  obtain ⟨keys, hkeys, -⟩ := removalKeys_of_hasNumber ht.hasNumber
  have hids : t.ids = keys.map Value.scalar := removalKeys_eq_ok.1 hkeys
  have hleft : (s.rules.filter fun rule => !hasIdIn keys rule) = s.left t.ids := by
    simp only [hasIdIn_eq, ← hids, left]
  rw [replace_eq_ok]
  constructor
  · rintro ⟨others, hothers, h⟩
    have hsame : others = keys := Except.ok.inj (hothers.symm.trans hkeys)
    rwa [hsame, hleft] at h
  · intro h
    exact ⟨keys, hkeys, by rwa [hleft]⟩

theorem update_maxRules (s : Store) (remove : List Value) (add : List Rule) :
    (s.update remove add).store.maxRules = s.maxRules := by
  rcases update_store s remove add with hstore | hstore
  · rw [hstore]
  · obtain ⟨keys, -, -, -, h⟩ := replace_eq_ok.1 hstore
    rw [h]

end Store

namespace Apply

theorem install_store (s : Store) (found : List Value) (sifted : Rule.Sifted) :
    (install s found sifted).store = (s.update found sifted.kept).store := by
  simp only [install, RuleStore.update]
  cases (s.update found sifted.kept).outcome <;> rfl

theorem install_outcome_isOk {s : Store} {found : List Value} {sifted : Rule.Sifted} :
    (install s found sifted).outcome.isOk = true ↔
      ∃ u, s.replace found sifted.kept = .ok u := by
  simp only [install, RuleStore.update, Store.update]
  cases s.replace found sifted.kept <;> simp [Except.isOk, Except.toBool]

theorem install_store_of_not_isOk {s : Store} {found : List Value} {sifted : Rule.Sifted}
    (h : (install s found sifted).outcome.isOk = false) : (install s found sifted).store = s := by
  rw [install_store]
  rcases Store.update_store s found sifted.kept with hstore | hstore
  · exact hstore
  · rw [install_outcome_isOk.2 ⟨_, hstore⟩] at h
    cases h

/-- Rules that are found good on an empty store are installed beside those that are left exactly if
no id is there already and there is room for all. -/
theorem install_isOk_iff {s t : Store} (hs : s.Reachable) (ht : t.Reachable) {rules : List Rule}
    {sifted : Rule.Sifted} (hprepare : prepare (ε := Store.Fault) rules = .ok sifted) :
    (install s t.ids sifted).outcome.isOk = true ↔
      verdict s.maxRules rules = .ok sifted ∧
        (∀ rule ∈ s.left t.ids, rule.id ∉ sifted.kept.map (·.id)) ∧
        ((s.left t.ids ++ sifted.kept).length : Int) ≤ s.maxRules := by
  have hleft : (s.left t.ids).Sublist s.rules := List.filter_sublist
  have hnumbers : ∀ rule ∈ s.left t.ids, rule.HasNumber := fun rule hrule =>
    hs.hasNumber rule (hleft.subset hrule)
  have hdistinct : ((s.left t.ids).map (·.id)).Nodup :=
    hs.wellKept.distinct.sublist (hleft.map (·.id))
  have hverdict : verdict s.maxRules rules = .ok sifted ↔
      Addable [] sifted.kept ∧ (sifted.kept.length : Int) ≤ s.maxRules := by
    rw [verdict, hprepare, Outcome.ok_bind, Outcome.bind_eq_ok]
    simp [Outcome.mapError_eq_ok, Store.fill_eq_ok]
  rw [install_outcome_isOk, hverdict, Store.addable_iff (by simp) (by simp)]
  simp only [Store.replace_ids_eq_ok ht, Store.addable_iff hnumbers hdistinct, List.nil_append,
    List.map_append, List.nodup_append, List.length_append]
  constructor
  · rintro ⟨u, ⟨hvalid, -, hkept, hnew⟩, hroom, -⟩
    refine ⟨⟨⟨hvalid, hkept⟩, by omega⟩, ?_, hroom⟩
    intro rule hrule hmem
    exact hnew rule.id (List.mem_map.2 ⟨rule, hrule, rfl⟩) rule.id hmem rfl
  · rintro ⟨⟨⟨hvalid, hkept⟩, -⟩, hnew, hroom⟩
    refine ⟨_, ⟨hvalid, hdistinct, hkept, ?_⟩, hroom, rfl⟩
    rintro id hid other hother rfl
    obtain ⟨rule, hrule, rfl⟩ := List.mem_map.1 hid
    exact hnew rule hrule hother

/-- How far a run has come. Between its two steps it holds the ids that it has read. -/
inductive Progress
  | waiting
  | holding (found : List Value) (sifted : Rule.Sifted)
  | finished (outcome : Except (ApplyFault Store.Fault) Receipt)

/-- Numbered runs over one store. -/
structure Race where
  store : Store
  progress : Nat → Progress

namespace Race

def begin (s : Store) : Race := ⟨s, fun _ => .waiting⟩

def step (jobs : Nat → List Rule) (r : Race) (i : Nat) : Race :=
  match r.progress i with
  | .waiting =>
    match prepare (jobs i) with
    | .error fault => { r with progress := Function.update r.progress i (.finished (.error fault)) }
    | .ok sifted =>
      { r with progress := Function.update r.progress i (.holding r.store.ids sifted) }
  | .holding found sifted =>
    let applied := install r.store found sifted
    ⟨applied.store, Function.update r.progress i (.finished applied.outcome)⟩
  | .finished _ => r

/-- The steps of a schedule, which names the run that takes each of them. -/
def run (jobs : Nat → List Rule) (r : Race) (schedule : List Nat) : Race :=
  schedule.foldl (step jobs) r

/-- Whether the store takes the rules of a run at its next step. -/
def accepts (r : Race) (i : Nat) : Bool :=
  match r.progress i with
  | .holding found sifted => (install r.store found sifted).outcome.isOk
  | .waiting | .finished _ => false

/-- The runs that are accepted in the course of a schedule, the last one at the end. -/
def winners (jobs : Nat → List Rule) (r : Race) : List Nat → List Nat
  | [] => []
  | i :: rest =>
    if r.accepts i then i :: (r.step jobs i).winners jobs rest else (r.step jobs i).winners jobs rest

variable {jobs : Nat → List Rule} {r : Race} {i j : Nat} {before between after schedule : List Nat}

theorem run_append (r : Race) (before after : List Nat) :
    r.run jobs (before ++ after) = (r.run jobs before).run jobs after :=
  List.foldl_append

theorem run_cons (r : Race) (i : Nat) (after : List Nat) :
    r.run jobs (i :: after) = (r.step jobs i).run jobs after := rfl

theorem winners_append (r : Race) (before after : List Nat) :
    r.winners jobs (before ++ after) =
      r.winners jobs before ++ (r.run jobs before).winners jobs after := by
  induction before generalizing r with
  | nil => rfl
  | cons i rest ih =>
    simp only [List.cons_append, winners, ih, run_cons]
    split <;> rfl

theorem mem_of_mem_winners (h : j ∈ r.winners jobs schedule) : j ∈ schedule := by
  induction schedule generalizing r with
  | nil => cases h
  | cons i rest ih =>
    unfold winners at h
    split at h
    · rcases List.mem_cons.1 h with rfl | h
      · exact List.mem_cons_self
      · exact List.mem_cons_of_mem i (ih h)
    · exact List.mem_cons_of_mem i (ih h)

/-! ## One step -/

theorem step_of_unfit {fault : ApplyFault Store.Fault} (hwaiting : r.progress i = .waiting)
    (hprepare : prepare (jobs i) = .error fault) :
    r.step jobs i = ⟨r.store, Function.update r.progress i (.finished (.error fault))⟩ := by
  rw [step, hwaiting, hprepare]

theorem step_of_waiting {sifted : Rule.Sifted} (hwaiting : r.progress i = .waiting)
    (hprepare : prepare (ε := Store.Fault) (jobs i) = .ok sifted) :
    r.step jobs i = ⟨r.store, Function.update r.progress i (.holding r.store.ids sifted)⟩ := by
  rw [step, hwaiting, hprepare]

theorem step_of_holding {found : List Value} {sifted : Rule.Sifted}
    (hholding : r.progress i = .holding found sifted) :
    r.step jobs i =
      ⟨(install r.store found sifted).store,
        Function.update r.progress i (.finished (install r.store found sifted).outcome)⟩ := by
  rw [step, hholding]

theorem step_of_finished {outcome : Except (ApplyFault Store.Fault) Receipt}
    (hfinished : r.progress i = .finished outcome) : r.step jobs i = r := by
  rw [step, hfinished]

theorem accepts_of_holding {found : List Value} {sifted : Rule.Sifted}
    (hholding : r.progress i = .holding found sifted) :
    r.accepts i = (install r.store found sifted).outcome.isOk := by
  rw [accepts, hholding]

theorem holding_of_accepts (haccepts : r.accepts i = true) :
    ∃ found sifted, r.progress i = .holding found sifted := by
  unfold accepts at haccepts
  split at haccepts
  · exact ⟨_, _, ‹_›⟩
  · cases haccepts
  · cases haccepts

theorem accepts_of_finished {outcome : Except (ApplyFault Store.Fault) Receipt}
    (hfinished : r.progress i = .finished outcome) : r.accepts i = false := by
  rw [accepts, hfinished]

theorem step_first (jobs : Nat → List Rule) (hwaiting : r.progress i = .waiting) :
    ∃ next, r.step jobs i = ⟨r.store, Function.update r.progress i next⟩ ∧
      ((∃ fault, next = .finished (.error fault)) ∨
        ∃ sifted, prepare (ε := Store.Fault) (jobs i) = .ok sifted ∧
          next = .holding r.store.ids sifted) := by
  cases hprepare : prepare (ε := Store.Fault) (jobs i) with
  | error fault => exact ⟨_, step_of_unfit hwaiting hprepare, .inl ⟨fault, rfl⟩⟩
  | ok sifted => exact ⟨_, step_of_waiting hwaiting hprepare, .inr ⟨sifted, rfl, rfl⟩⟩

theorem step_store_of_not_accepts (haccepts : r.accepts i = false) :
    (r.step jobs i).store = r.store := by
  cases hprogress : r.progress i with
  | waiting =>
    obtain ⟨next, hstep, -⟩ := step_first jobs hprogress
    rw [hstep]
  | holding found sifted =>
    rw [accepts_of_holding hprogress] at haccepts
    rw [step_of_holding hprogress]
    exact install_store_of_not_isOk haccepts
  | finished outcome => rw [step_of_finished hprogress]

theorem step_progress_of_ne (r : Race) (h : j ≠ i) : (r.step jobs i).progress j = r.progress j := by
  cases hprogress : r.progress i with
  | waiting =>
    obtain ⟨next, hstep, -⟩ := step_first jobs hprogress
    rw [hstep]
    exact Function.update_of_ne h ..
  | holding found sifted =>
    rw [step_of_holding hprogress]
    exact Function.update_of_ne h ..
  | finished outcome => rw [step_of_finished hprogress]

theorem step_progress_of_holding {found : List Value} {sifted : Rule.Sifted}
    (hholding : r.progress i = .holding found sifted) :
    (r.step jobs i).progress i = .finished (install r.store found sifted).outcome := by
  rw [step_of_holding hholding]
  exact Function.update_self ..

theorem step_progress_of_finished {outcome : Except (ApplyFault Store.Fault) Receipt}
    (hfinished : r.progress j = .finished outcome) (i : Nat) :
    (r.step jobs i).progress j = .finished outcome := by
  by_cases hne : j = i
  · rw [← hne, step_of_finished hfinished, hfinished]
  · rw [step_progress_of_ne r hne, hfinished]

/-! ## What holds at every time -/

/-- What holds at every time of a race for a store with a given limit. -/
structure Sound (maxRules : Int) (jobs : Nat → List Rule) (r : Race) : Prop where
  reachable : r.store.Reachable
  limit : r.store.maxRules = maxRules
  /-- What a run holds are its own rules and the ids of a store that there was. -/
  held : ∀ i found sifted, r.progress i = .holding found sifted →
    prepare (ε := Store.Fault) (jobs i) = .ok sifted ∧
      ∃ earlier : Store, earlier.Reachable ∧ found = earlier.ids

variable {s : Store} {maxRules : Int}

theorem Sound.begin (hs : s.Reachable) : Sound s.maxRules jobs (begin s) where
  reachable := hs
  limit := rfl
  held := nofun

theorem Sound.store_step (h : r.Sound maxRules jobs) (i : Nat) :
    (r.step jobs i).store.Reachable ∧ (r.step jobs i).store.maxRules = maxRules := by
  cases haccepts : r.accepts i with
  | false =>
    rw [step_store_of_not_accepts haccepts]
    exact ⟨h.reachable, h.limit⟩
  | true =>
    obtain ⟨found, sifted, hholding⟩ := holding_of_accepts haccepts
    have hstore : (r.step jobs i).store = (r.store.update found sifted.kept).store := by
      rw [step_of_holding hholding, install_store]
    rw [hstore]
    exact ⟨h.reachable.update found sifted.kept, by rw [Store.update_maxRules, h.limit]⟩

theorem Sound.held_step (h : r.Sound maxRules jobs) (i : Nat) {found : List Value}
    {sifted : Rule.Sifted} (hholding : (r.step jobs i).progress j = .holding found sifted) :
    prepare (ε := Store.Fault) (jobs j) = .ok sifted ∧
      ∃ earlier : Store, earlier.Reachable ∧ found = earlier.ids := by
  by_cases hne : j = i
  · subst hne
    cases hprogress : r.progress j with
    | waiting =>
      obtain ⟨next, hstep, hnext⟩ := step_first jobs hprogress
      have hself : (r.step jobs j).progress j = next := by
        rw [hstep]
        exact Function.update_self ..
      rw [hself] at hholding
      rcases hnext with ⟨fault, rfl⟩ | ⟨own, hprepare, rfl⟩
      · cases hholding
      · cases hholding
        exact ⟨hprepare, r.store, h.reachable, rfl⟩
    | holding found sifted =>
      rw [step_progress_of_holding hprogress] at hholding
      cases hholding
    | finished outcome =>
      rw [step_progress_of_finished hprogress] at hholding
      cases hholding
  · rw [step_progress_of_ne r hne] at hholding
    exact h.held j found sifted hholding

theorem Sound.step (h : r.Sound maxRules jobs) (i : Nat) :
    (r.step jobs i).Sound maxRules jobs where
  reachable := (h.store_step i).1
  limit := (h.store_step i).2
  held _ _ _ := h.held_step i

theorem Sound.run (h : r.Sound maxRules jobs) (schedule : List Nat) :
    (r.run jobs schedule).Sound maxRules jobs := by
  induction schedule generalizing r with
  | nil => exact h
  | cons i rest ih => exact ih (h.step i)

/-- A run that is accepted leaves what its ids do not name, and its own rules behind that. -/
theorem Sound.rules_of_accepts (h : r.Sound maxRules jobs) {found : List Value}
    {sifted : Rule.Sifted} (hholding : r.progress i = .holding found sifted)
    (haccepts : r.accepts i = true) :
    (r.step jobs i).store.rules = r.store.left found ++ Rule.firsts (jobs i) := by
  obtain ⟨hprepare, earlier, hearlier, rfl⟩ := h.held i found sifted hholding
  rw [accepts_of_holding hholding] at haccepts
  have hverdict := ((install_isOk_iff h.reachable hearlier hprepare).1 haccepts).1
  obtain ⟨u, hu⟩ := install_outcome_isOk.1 haccepts
  obtain ⟨-, -, hrules⟩ := (Store.replace_ids_eq_ok hearlier).1 hu
  rw [step_of_holding hholding, ← (firsts_of_verdict hverdict).1]
  simp only [install_store, Store.update, hu, hrules]

/-- Between two times a store keeps what it had or gets rules of the runs accepted in between. -/
theorem Sound.mem_left_run (h : r.Sound maxRules jobs) (ids : List Value) {rule : Rule}
    (hrule : rule ∈ (r.run jobs schedule).store.left ids) :
    rule ∈ r.store.left ids ∨ ∃ j ∈ r.winners jobs schedule, rule ∈ Rule.firsts (jobs j) := by
  induction schedule generalizing r with
  | nil => exact .inl hrule
  | cons i rest ih =>
    rcases ih (h.step i) hrule with hrule | ⟨j, hj, hrule⟩
    · cases haccepts : r.accepts i with
      | false =>
        rw [step_store_of_not_accepts haccepts] at hrule
        exact .inl hrule
      | true =>
        obtain ⟨found, sifted, hholding⟩ := holding_of_accepts haccepts
        obtain ⟨hmem, hnot⟩ := List.mem_filter.1 hrule
        rw [h.rules_of_accepts hholding haccepts] at hmem
        rcases List.mem_append.1 hmem with hmem | hmem
        · exact .inl (List.mem_filter.2 ⟨List.mem_of_mem_filter hmem, hnot⟩)
        · exact .inr ⟨i, by simp [winners, haccepts], hmem⟩
    · refine .inr ⟨j, ?_, hrule⟩
      unfold winners
      split
      · exact List.mem_cons_of_mem i hj
      · exact hj

/-! ## From the reading of one run to the end of all -/

theorem run_progress_of_not_mem (r : Race) (h : j ∉ schedule) :
    (r.run jobs schedule).progress j = r.progress j := by
  induction schedule generalizing r with
  | nil => rfl
  | cons i rest ih =>
    have hne : j ≠ i := List.ne_of_not_mem_cons h
    have hrest : j ∉ rest := List.not_mem_of_not_mem_cons h
    rw [run_cons, ih _ hrest, step_progress_of_ne r hne]

theorem run_progress_of_finished {outcome : Except (ApplyFault Store.Fault) Receipt}
    (hfinished : r.progress j = .finished outcome) (schedule : List Nat) :
    (r.run jobs schedule).progress j = .finished outcome := by
  induction schedule generalizing r with
  | nil => exact hfinished
  | cons i rest ih => exact ih (step_progress_of_finished hfinished i)

theorem not_mem_winners_of_finished {outcome : Except (ApplyFault Store.Fault) Receipt}
    (hfinished : r.progress j = .finished outcome) (schedule : List Nat) :
    j ∉ r.winners jobs schedule := by
  induction schedule generalizing r with
  | nil => exact List.not_mem_nil
  | cons i rest ih =>
    have hrest : j ∉ (r.step jobs i).winners jobs rest :=
      ih (step_progress_of_finished hfinished i)
    unfold winners
    split
    case isFalse => exact hrest
    case isTrue haccepts =>
      refine List.not_mem_cons_of_ne_of_not_mem ?_ hrest
      rintro rfl
      rw [accepts_of_finished hfinished] at haccepts
      cases haccepts

theorem run_store_of_winners_eq_nil (h : r.winners jobs schedule = []) :
    (r.run jobs schedule).store = r.store := by
  induction schedule generalizing r with
  | nil => rfl
  | cons i rest ih =>
    unfold winners at h
    split at h
    · cases h
    · rename_i haccepts
      rw [run_cons, ih h, step_store_of_not_accepts (Bool.eq_false_iff.2 haccepts)]

theorem verdict_isOk_iff {sifted : Rule.Sifted} {rules : List Rule}
    (hprepare : prepare (ε := Store.Fault) rules = .ok sifted) :
    (verdict maxRules rules).isOk = true ↔ verdict maxRules rules = .ok sifted := by
  rw [verdict, hprepare, Outcome.ok_bind]
  cases (fill maxRules sifted.kept).mapError ApplyFault.store <;>
    simp [Except.isOk, Except.toBool]

/-- Whether rules can be applied while others stay: they could be applied alone, and those that stay
have other ids and leave room. -/
structure FitsBeside (maxRules : Int) (stayed rules : List Rule) : Prop where
  alone : (verdict maxRules rules).isOk = true
  fresh : ∀ rule ∈ stayed, rule.id ∉ (Rule.firsts rules).map (·.id)
  room : ((stayed ++ Rule.firsts rules).length : Int) ≤ maxRules

/-- A run that holds its rules is accepted at its next step if they fit beside those that it meets
but has not read. -/
theorem Sound.accepts_iff (h : r.Sound maxRules jobs) {earlier : Store}
    (hearlier : earlier.Reachable) {sifted : Rule.Sifted}
    (hholding : r.progress i = .holding earlier.ids sifted) :
    r.accepts i = true ↔ FitsBeside maxRules (r.store.left earlier.ids) (jobs i) := by
  have hprepare := (h.held i _ sifted hholding).1
  rw [accepts_of_holding hholding, install_isOk_iff h.reachable hearlier hprepare, h.limit]
  constructor
  · rintro ⟨hverdict, hfresh, hroom⟩
    rw [(firsts_of_verdict hverdict).1] at hfresh hroom
    exact ⟨(verdict_isOk_iff hprepare).2 hverdict, hfresh, hroom⟩
  · rintro ⟨halone, hfresh, hroom⟩
    have hverdict := (verdict_isOk_iff hprepare).1 halone
    rw [← (firsts_of_verdict hverdict).1] at hfresh hroom
    exact ⟨hverdict, hfresh, hroom⟩

/-- Where a run stands between its two steps, whatever others do in the meantime. -/
theorem between_steps (s : Store) (jobs : Nat → List Rule) (hbefore : i ∉ before)
    (hbetween : i ∉ between) :
    let seen := (begin s).run jobs before
    let met := seen.run jobs (i :: between)
    (∃ fault, met.progress i = .finished (.error fault) ∧
        prepare (ε := Store.Fault) (jobs i) = .error fault) ∨
      ∃ sifted, met.progress i = .holding seen.store.ids sifted := by
  intro seen met
  have hwaiting : seen.progress i = .waiting := run_progress_of_not_mem _ hbefore
  have hkept : met.progress i = (seen.step jobs i).progress i :=
    run_progress_of_not_mem _ hbetween
  rw [hkept]
  cases hprepare : prepare (ε := Store.Fault) (jobs i) with
  | error fault =>
    rw [step_of_unfit hwaiting hprepare]
    exact .inl ⟨fault, Function.update_self .., rfl⟩
  | ok sifted =>
    rw [step_of_waiting hwaiting hprepare]
    exact .inr ⟨sifted, Function.update_self ..⟩

theorem eq_nil_of_getLast?_append {front back : List Nat}
    (hlast : (front ++ back).getLast? = some i) (hback : i ∉ back) : back = [] := by
  cases hback' : back.getLast? with
  | none => exact List.getLast?_eq_none_iff.1 hback'
  | some j =>
    rw [List.getLast?_append, hback', Option.some_or] at hlast
    obtain rfl := Option.some.inj hlast
    exact absurd (List.mem_of_getLast? hback') hback

/-- A run that is the last to be accepted is accepted at its second step, and no run is after it. -/
theorem accepts_of_last {front : List Nat} (hfront : i ∉ front)
    (hover : ∃ outcome, (r.step jobs i).progress i = .finished outcome)
    (hlast : (front ++ r.winners jobs (i :: after)).getLast? = some i) :
    r.accepts i = true ∧ (r.step jobs i).winners jobs after = [] := by
  obtain ⟨outcome, hfinished⟩ := hover
  have hafter : i ∉ (r.step jobs i).winners jobs after :=
    not_mem_winners_of_finished hfinished after
  cases haccepts : r.accepts i with
  | false =>
    simp only [winners, haccepts] at hlast
    have hnone := eq_nil_of_getLast?_append hlast hafter
    rw [hnone, List.append_nil] at hlast
    exact absurd (List.mem_of_getLast? hlast) hfront
  | true =>
    have hfirst : r.winners jobs (i :: after) = i :: (r.step jobs i).winners jobs after := by
      rw [winners, if_pos haccepts]
    rw [hfirst, List.append_cons] at hlast
    exact ⟨rfl, eq_nil_of_getLast?_append hlast hafter⟩

theorem not_mem_winners_before (s : Store) (jobs : Nat → List Rule) (hbefore : i ∉ before)
    (hbetween : i ∉ between) : i ∉ (begin s).winners jobs (before ++ i :: between) := by
  have hfirst : ((begin s).run jobs before).accepts i = false := by
    rw [accepts, run_progress_of_not_mem _ hbefore]
    rfl
  intro hmem
  rw [winners_append] at hmem
  rcases List.mem_append.1 hmem with hmem | hmem
  · exact hbefore (mem_of_mem_winners hmem)
  · simp only [winners, hfirst] at hmem
    exact hbetween (mem_of_mem_winners hmem)

/-- A run at its second step has been refused without a look at the store, or it is accepted if its
rules fit beside those that it meets but has not read. -/
theorem Sound.finish (h : r.Sound maxRules jobs) {earlier : Store} (hearlier : earlier.Reachable)
    (hstands : (∃ fault, r.progress i = .finished (.error fault) ∧
        prepare (ε := Store.Fault) (jobs i) = .error fault) ∨
      ∃ sifted, r.progress i = .holding earlier.ids sifted) :
    ∃ outcome, (r.step jobs i).progress i = .finished outcome ∧
      (outcome.isOk = true ↔ FitsBeside maxRules (r.store.left earlier.ids) (jobs i)) := by
  rcases hstands with ⟨fault, hfinished, hprepare⟩ | ⟨sifted, hholding⟩
  · refine ⟨.error fault, step_progress_of_finished hfinished i, nofun, fun hfits => ?_⟩
    have halone := hfits.alone
    rw [verdict, hprepare] at halone
    cases halone
  · refine ⟨_, step_progress_of_holding hholding, ?_⟩
    rw [← accepts_of_holding hholding]
    exact h.accepts_iff hearlier hholding

/-- Runs that overlap, seen from one of them that takes its first step after some steps of others
and its second after some more. The rules that it meets beside those that it has read come from runs
that were accepted in between, and there are none if no run was. It is accepted exactly if its rules
could be applied alone and those rules do not stand in their way. If it is the last to be accepted,
what is installed in the end is those rules and its own behind them, so its own alone only if there
are no such rules. -/
theorem run_overlapping {s : Store} (hs : s.Reachable) (jobs : Nat → List Rule) {i : Nat}
    {before between : List Nat} (after : List Nat) (hbefore : i ∉ before) (hbetween : i ∉ between) :
    let schedule := before ++ i :: (between ++ i :: after)
    let seen := (begin s).run jobs before
    let met := seen.run jobs (i :: between)
    let last := (begin s).run jobs schedule
    let stayed := met.store.left seen.store.ids
    (∀ rule ∈ stayed, ∃ j ∈ seen.winners jobs (i :: between), rule ∈ Rule.firsts (jobs j)) ∧
    (∃ outcome, last.progress i = .finished outcome ∧
      (outcome.isOk = true ↔ FitsBeside s.maxRules stayed (jobs i))) ∧
    (((begin s).winners jobs schedule).getLast? = some i →
      last.store.rules = stayed ++ Rule.firsts (jobs i) ∧
        (last.store.rules = Rule.firsts (jobs i) ↔ stayed = [])) := by
  intro schedule seen met last stayed
  have hseen : seen.Sound s.maxRules jobs := (Sound.begin hs).run before
  have hmet : met.Sound s.maxRules jobs := hseen.run (i :: between)
  have hlast : last = (met.step jobs i).run jobs after := by
    simp only [last, schedule, met, seen, run_append, run_cons]
  have hstands := between_steps s jobs hbefore hbetween
  obtain ⟨outcome, hfinished, houtcome⟩ := hmet.finish hseen.reachable hstands
  refine ⟨?_, ?_, ?_⟩
  · intro rule hrule
    rcases hseen.mem_left_run seen.store.ids hrule with hnone | hwinner
    · rw [Store.left_own hseen.reachable] at hnone
      cases hnone
    · exact hwinner
  · rw [hlast]
    exact ⟨outcome, run_progress_of_finished hfinished after, houtcome⟩
  · intro hwinner
    have hsplit : schedule = (before ++ i :: between) ++ i :: after := by simp [schedule]
    have hmeets : met = (begin s).run jobs (before ++ i :: between) :=
      (run_append (begin s) before (i :: between)).symm
    rw [hsplit, winners_append, ← hmeets] at hwinner
    obtain ⟨haccepts, hnone⟩ := accepts_of_last
      (not_mem_winners_before s jobs hbefore hbetween) ⟨outcome, hfinished⟩ hwinner
    obtain ⟨found, sifted, hholding⟩ := holding_of_accepts haccepts
    have hfound : found = seen.store.ids := by
      rcases hstands with ⟨fault, hover, -⟩ | ⟨own, hown⟩
      · cases hover.symm.trans hholding
      · cases hown.symm.trans hholding
        rfl
    subst hfound
    have hrules : last.store.rules = stayed ++ Rule.firsts (jobs i) := by
      rw [hlast, run_store_of_winners_eq_nil hnone]
      exact hmet.rules_of_accepts hholding haccepts
    exact ⟨hrules, by rw [hrules]; simp⟩

/-! ## Two runs -/

def pair (first second : Rule) (i : Nat) : List Rule := if i = 0 then [first] else [second]

/-- The second run reads before the first one replaces. It is accepted last, and the rule of the
first stays beside its own. -/
theorem run_overlapping_both_read :
    (1 ∉ [0] ∧ (Store.empty 5).Reachable) ∧
      ((begin (Store.empty 5)).run (pair (pageRule 1 "a") (pageRule 2 "b"))
        [0, 1, 0, 1]).store.rules = [pageRule 1 "a", pageRule 2 "b"] := by
  have hs : (Store.empty 5).Reachable := .empty 5
  obtain ⟨-, -, hlast⟩ := @run_overlapping _ hs (pair (pageRule 1 "a") (pageRule 2 "b")) 1 [0] [0]
    [] (by decide) (by decide)
  obtain ⟨hrules, -⟩ := hlast (by decide +kernel)
  exact ⟨⟨by decide, hs⟩, hrules.trans (by with_unfolding_all rfl)⟩

/-- Two runs that read and then replace. With ids of their own both are accepted, and what is
installed is not what the last one applied. With one id the second is refused, though on its own its
rule can be applied. -/
theorem not_last_alone_both_read :
    ((begin (Store.empty 5)).winners (pair (pageRule 1 "a") (pageRule 2 "b"))
        [0, 1, 0, 1]).getLast? = some 1 ∧
      ((begin (Store.empty 5)).run (pair (pageRule 1 "a") (pageRule 2 "b"))
        [0, 1, 0, 1]).store.rules ≠ Rule.firsts [pageRule 2 "b"] ∧
      ((begin (Store.empty 5)).run (pair (pageRule 1 "a") (pageRule 1 "b"))
        [0, 1, 0, 1]).progress 1 = .finished (.error (.store (.idTaken (.int 1)))) ∧
      (Apply.run (Store.empty 5) [pageRule 1 "b"]).outcome.isOk = true := by
  refine ⟨by decide +kernel, ?_, by with_unfolding_all rfl, by decide +kernel⟩
  intro hsame
  have hlength := congrArg List.length hsame
  revert hlength
  decide +kernel

end Race

end Apply

end HeaderRules
