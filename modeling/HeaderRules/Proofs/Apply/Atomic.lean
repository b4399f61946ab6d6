import HeaderRules.Proofs.Store.Update
/-!
# Applying rules as a whole

On every store that updates lead to, applying rules does one of two things: it leaves nothing of
what was installed, or it leaves everything. Which of the two, and why, is decided by the rules and
the limit of the store alone.
-/

namespace HeaderRules.Apply

open HeaderRules.Store (Reachable fill)

/-- What applying rules comes to on any store with a given limit. -/
def verdict (maxRules : Int) (rules : List Rule) :
    Except (ApplyFault Store.Fault) Rule.Sifted := do
  let sifted ← prepare rules
  let _ ← (fill maxRules sifted.kept).mapError .store
  return sifted

def settled (s : Store) : Except (ApplyFault Store.Fault) Rule.Sifted → Store
  | .ok sifted => { s with rules := sifted.kept, version := s.version + 1 }
  | .error _ => s

def receiptFor (s : Store) (sifted : Rule.Sifted) : Receipt :=
  ⟨sifted.kept.length, s.rules.length, sifted.skipped⟩

theorem install_ids {s : Store} (hs : s.Reachable) (sifted : Rule.Sifted) :
    (install s s.ids sifted).outcome =
        ((fill s.maxRules sifted.kept).mapError .store).map (fun _ => receiptFor s sifted) ∧
      (install s s.ids sifted).store =
        settled s (((fill s.maxRules sifted.kept).mapError .store).map fun _ => sifted) := by
  have hreplace := Store.replace_ids hs.hasNumber sifted.kept
  cases hfill : fill s.maxRules sifted.kept with
  | error fault =>
    rw [hfill] at hreplace
    simp [install, RuleStore.update, Store.update, hreplace, settled]
  | ok updated =>
    obtain ⟨rfl, -, -⟩ := Store.fill_eq_ok.1 hfill
    rw [hfill] at hreplace
    have hlength : s.ids.length = s.rules.length := by simp [Store.ids]
    simp [install, RuleStore.update, Store.update, hreplace, settled, receiptFor, hlength]

theorem run_spec {s : Store} (hs : s.Reachable) (rules : List Rule) :
    (run s rules).outcome = (verdict s.maxRules rules).map (receiptFor s) ∧
      (run s rules).store = settled s (verdict s.maxRules rules) := by
  unfold run verdict
  cases prepare (ε := Store.Fault) rules with
  | error fault => exact ⟨rfl, rfl⟩
  | ok sifted =>
    obtain ⟨houtcome, hstore⟩ := install_ids hs sifted
    simp only [Outcome.ok_bind]
    cases hfill : fill s.maxRules sifted.kept with
    | error fault =>
      rw [hfill] at houtcome hstore
      exact ⟨houtcome, hstore⟩
    | ok updated =>
      rw [hfill] at houtcome hstore
      exact ⟨houtcome, hstore⟩

theorem run_maxRules {s : Store} (hs : s.Reachable) (rules : List Rule) :
    (run s rules).store.maxRules = s.maxRules := by
  rw [(run_spec hs rules).2]
  cases verdict s.maxRules rules <;> rfl

/-- Applying rules is an update, or none at all. -/
theorem run_reachable {s : Store} (hs : s.Reachable) (rules : List Rule) :
    (run s rules).store.Reachable := by
  unfold run
  cases prepare (ε := Store.Fault) rules with
  | error fault => exact hs
  | ok sifted =>
    have hupdate := hs.update s.ids sifted.kept
    simp only [install, RuleStore.update, RuleStore.ids]
    cases (s.update s.ids sifted.kept).outcome <;> exact hupdate

theorem prepare_eq_ok {rules : List Rule} {sifted : Rule.Sifted}
    (h : prepare (ε := Store.Fault) rules = .ok sifted) : Rule.sift rules = .ok sifted := by
  obtain ⟨found, hfound, h⟩ := Outcome.bind_eq_ok.1 h
  obtain ⟨repeated, -, h⟩ := Outcome.bind_eq_ok.1 h
  split at h
  · obtain rfl := Except.ok.inj h
    exact Outcome.mapError_eq_ok.1 hfound
  · cases h

/-- Rules that can be applied have been sifted, and each of those kept has passed its check. -/
theorem verdict_eq_ok {maxRules : Int} {rules : List Rule} {sifted : Rule.Sifted}
    (h : verdict maxRules rules = .ok sifted) :
    Rule.sift rules = .ok sifted ∧ ∀ rule ∈ sifted.kept, Store.validate rule = .ok () := by
  obtain ⟨found, hfound, h⟩ := Outcome.bind_eq_ok.1 h
  obtain ⟨updated, hupdated, h⟩ := Outcome.bind_eq_ok.1 h
  obtain rfl := Except.ok.inj h
  obtain ⟨-, haddable, -⟩ := Store.fill_eq_ok.1 (Outcome.mapError_eq_ok.1 hupdated)
  exact ⟨prepare_eq_ok hfound, haddable.validate⟩

theorem firsts_of_verdict {maxRules : Int} {rules : List Rule} {sifted : Rule.Sifted}
    (h : verdict maxRules rules = .ok sifted) :
    sifted.kept = Rule.firsts rules ∧ sifted.skipped = (Rule.repeats rules).map (·.id) := by
  obtain ⟨hsift, hvalid⟩ := verdict_eq_ok h
  exact Rule.sift_eq_firsts hsift fun rule hrule => Store.hasNumber_of_validate (hvalid rule hrule)

theorem run_eq_ok {s : Store} (hs : s.Reachable) {rules : List Rule} {receipt : Receipt}
    (h : (run s rules).outcome = .ok receipt) :
    ∃ sifted, verdict s.maxRules rules = .ok sifted ∧ receipt = receiptFor s sifted ∧
      (run s rules).store = { s with rules := sifted.kept, version := s.version + 1 } := by
  obtain ⟨houtcome, hstore⟩ := run_spec hs rules
  cases hverdict : verdict s.maxRules rules with
  | error fault =>
    rw [houtcome, hverdict] at h
    cases h
  | ok sifted =>
    rw [hverdict] at houtcome hstore
    rw [houtcome] at h
    exact ⟨sifted, rfl, (Except.ok.inj h).symm, hstore⟩

theorem store_of_run_error {s : Store} (hs : s.Reachable) {rules : List Rule}
    {fault : ApplyFault Store.Fault} (h : (run s rules).outcome = .error fault) :
    (run s rules).store = s := by
  obtain ⟨houtcome, hstore⟩ := run_spec hs rules
  cases hverdict : verdict s.maxRules rules with
  | error other => rw [hstore, hverdict, settled]
  | ok sifted =>
    rw [houtcome, hverdict] at h
    cases h

theorem outcome_of_maxRules_eq {s t : Store} (hs : s.Reachable) (ht : t.Reachable)
    (h : t.maxRules = s.maxRules) (rules : List Rule) :
    (run t rules).outcome.map (fun _ => ()) = (run s rules).outcome.map fun _ => () := by
  rw [(run_spec hs rules).1, (run_spec ht rules).1, h]
  cases verdict s.maxRules rules <;> rfl

theorem rules_of_run_ok {s : Store} (hs : s.Reachable) {rules : List Rule} {receipt : Receipt}
    (h : (run s rules).outcome = .ok receipt) :
    (run s rules).store = { s with rules := Rule.firsts rules, version := s.version + 1 } ∧
      receipt = ⟨(Rule.firsts rules).length, s.rules.length, (Rule.repeats rules).map (·.id)⟩ := by
  obtain ⟨sifted, hverdict, rfl, hstore⟩ := run_eq_ok hs h
  obtain ⟨hkept, hskipped⟩ := firsts_of_verdict hverdict
  rw [hkept] at hstore
  exact ⟨hstore, by rw [receiptFor, hkept, hskipped]⟩

/-- Applying rules twice is applying them once. -/
theorem run_again {s : Store} (hs : s.Reachable) {rules : List Rule} {receipt : Receipt}
    (h : (run s rules).outcome = .ok receipt) :
    ∃ again, (run (run s rules).store rules).outcome = .ok again ∧
      (run (run s rules).store rules).store.rules = (run s rules).store.rules := by
  have hnext := run_reachable hs rules
  have hsame := outcome_of_maxRules_eq hs hnext (run_maxRules hs rules) rules
  rw [h] at hsame
  cases hagain : (run (run s rules).store rules).outcome with
  | error fault =>
    rw [hagain] at hsame
    cases hsame
  | ok again =>
    refine ⟨again, rfl, ?_⟩
    rw [(rules_of_run_ok hnext hagain).1, (rules_of_run_ok hs h).1]

/-- Whether rules are applied, and why they are not, is the same for all stores of one limit. Rules
that are applied leave nothing but the first of every id, and the receipt tells how many there are,
how many are gone, and which ids were dropped; rules that are not applied leave all as it was. So
the last rules that were applied are the ones installed, and to apply them again changes nothing. -/
theorem run_replaces_all_or_nothing {s : Store} (hs : s.Reachable) (rules : List Rule) :
    (∀ t : Store, t.Reachable → t.maxRules = s.maxRules →
      (run t rules).outcome.map (fun _ => ()) = (run s rules).outcome.map fun _ => ()) ∧
    (∀ receipt, (run s rules).outcome = .ok receipt →
      (run s rules).store = { s with rules := Rule.firsts rules, version := s.version + 1 } ∧
      receipt =
        ⟨(Rule.firsts rules).length, s.rules.length, (Rule.repeats rules).map (·.id)⟩) ∧
    (∀ fault, (run s rules).outcome = .error fault → (run s rules).store = s) ∧
    (∀ next receipt, (run (run s rules).store next).outcome = .ok receipt →
      (run (run s rules).store next).store.rules = Rule.firsts next) ∧
    (∀ receipt, (run s rules).outcome = .ok receipt →
      ∃ again, (run (run s rules).store rules).outcome = .ok again ∧
        (run (run s rules).store rules).store.rules = (run s rules).store.rules) := by
  refine ⟨?_, ?_, ?_, ?_, ?_⟩
  · intro t ht hlimit
    exact outcome_of_maxRules_eq hs ht hlimit rules
  · intro receipt hok
    exact rules_of_run_ok hs hok
  · intro fault herror
    exact store_of_run_error hs herror
  · intro next receipt hok
    rw [(rules_of_run_ok (run_reachable hs rules) hok).1]
  · intro receipt hok
    exact run_again hs hok

def pageRule (id : Int) (filter : String) : Rule :=
  ⟨.int id, 1, ⟨filter, ["main_frame"]⟩, ⟨[⟨some "X-Env", "staging", .set⟩], []⟩⟩

/-- A store with a rule of its own takes three rules, of which the last has the id of the first. -/
theorem run_replaces_all_or_nothing_repeated_id :
    let s := ((Store.empty 2).update [] [pageRule 7 "old"]).store
    let rules := [pageRule 1 "a", pageRule 7 "b", pageRule 1 "c"]
    s.Reachable ∧ (run s rules).outcome = .ok ⟨2, 1, [.int 1]⟩ ∧
      (run s rules).store.rules = [pageRule 1 "a", pageRule 7 "b"] := by
  intro s rules
  have hs : s.Reachable := (Reachable.empty 2).update [] [pageRule 7 "old"]
  have hheld : s.rules.length = 1 := by decide +kernel
  have hisOk : (run s rules).outcome.isOk = true := by decide +kernel
  cases hok : (run s rules).outcome with
  | error fault =>
    rw [hok] at hisOk
    cases hisOk
  | ok receipt =>
    obtain ⟨hstore, hreceipt⟩ := (run_replaces_all_or_nothing hs rules).2.1 receipt hok
    refine ⟨hs, ?_, ?_⟩
    · rw [hreceipt, hheld]
      rfl
    · rw [hstore]
      rfl

end HeaderRules.Apply
