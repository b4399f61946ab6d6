import HeaderRules.Proofs.Enforce.Repeated
import Mathlib.Data.List.Induction
/-!
# The hits of a flow

A flow keeps a hit for every rule that has covered its request. However often the request is handled
and whatever becomes of the store and of the request in between, there is one hit for each id, in the
order of the first matches and with the priority that the rule had then.
-/

namespace HeaderRules

namespace Rule

theorem noteAll_append (hits : Option (List Hit)) (rules more : List Rule) :
    noteAll hits (rules ++ more) = noteAll (noteAll hits rules) more := by
  by_cases hrules : rules = []
  · simp [noteAll, hrules]
  · by_cases hmore : more = []
    · simp [noteAll, hmore]
    · simp [noteAll, hrules, hmore]

theorem noteAll_getD (rules : List Rule) : (noteAll none rules).getD [] = rules.foldl noteIn [] := by
  unfold noteAll
  split
  · rename_i hnone
    rw [hnone]
    rfl
  · rfl

theorem noteAll_eq_none {rules : List Rule} : noteAll none rules = none ↔ rules = [] := by
  simp [noteAll]

theorem foldl_noteIn {rules : List Rule} (hnumbers : ∀ rule ∈ rules, rule.HasNumber) :
    rules.foldl noteIn [] = (firsts rules).map toHit := by
  induction rules using List.reverseRecOn with
  | nil => rfl
  | append_singleton rules rule ih =>
    have hrules : ∀ other ∈ rules, other.HasNumber := fun other hother =>
      hnumbers other (by simp [hother])
    have hrule : rule.HasNumber := hnumbers rule (by simp)
    have hnoted : ((firsts rules).map toHit).any (·.id.same rule.id) =
        rules.any (rule.id.same ·.id) := by
      rw [Bool.eq_iff_iff, List.any_map, List.any_eq_true, List.any_eq_true]
      constructor
      · rintro ⟨first, hfirst, hsame⟩
        have hmem := (firsts_sublist hrules).subset hfirst
        have hid := (same_id_iff (hrules first hmem) hrule).1 hsame
        exact ⟨first, hmem, (same_id_iff hrule (hrules first hmem)).2 hid.symm⟩
      · rintro ⟨other, hother, hsame⟩
        have hid := (same_id_iff hrule (hrules other hother)).1 hsame
        obtain ⟨first, hfirst, hsame⟩ := exists_first_of_mem hrules hother
        have hnumber := hasNumber_of_mem_firsts hrules first hfirst
        exact ⟨first, hfirst, (same_id_iff hnumber hrule).2 (hsame.trans hid.symm)⟩
    rw [List.foldl_append, ih hrules, firsts_concat, List.foldl_cons, List.foldl_nil, noteIn,
      hnoted]
    split
    · rfl
    · rw [List.map_append, List.map_singleton]

end Rule

/-! ## Requests -/

namespace Exchange

theorem after_hits (x : Exchange) (events : List Event) :
    (x.after events).flow.hits = Rule.noteAll x.flow.hits (x.coverings events).flatten := by
  rw [kept_after (·.hits) Rule.noteAll (fun x m => by cases m <;> rfl)
    fun x => (x.store.handleRequest_kept x.flow).2]
  generalize x.flow.hits = hits
  induction x.coverings events generalizing hits with
  | nil => rfl
  | cons call rest ih => rw [List.foldl_cons, ih, List.flatten_cons, Rule.noteAll_append]

/-! ## The rules of a call -/

theorem happen_reachable {x : Exchange} (hs : x.store.Reachable) (event : Event) :
    (x.happen event).store.Reachable := by
  cases event with
  | request => exact hs
  | meanwhile m =>
    cases m with
    | update remove add => exact hs.update remove add
    | apply rules => exact Apply.run_reachable hs rules
    | answer response => exact hs

theorem covering_eq (x : Exchange) :
    x.covering = [] ∨ ∃ url type, x.covering = x.store.matchingRules url type := by
  unfold covering Store.covering Store.rulesFor
  cases x.flow.request with
  | none => exact .inl rfl
  | some fields =>
    cases x.flow.url with
    | some url => exact .inr ⟨url, fields.resourceType, rfl⟩
    | none =>
      by_cases hneeds : x.store.rules.any (Store.needsUrl fields.resourceType) = true
      · exact .inl (by simp [hneeds, Except.toOption])
      · exact .inr ⟨"", fields.resourceType, by simp [hneeds, Except.toOption]⟩

theorem covering_ordered {x : Exchange} (hs : x.store.Reachable) :
    x.covering.Pairwise Store.Precedes ∧ ∀ rule ∈ x.covering, rule.HasNumber := by
  rcases x.covering_eq with hnone | ⟨url, type, hlist⟩
  · simp [hnone]
  · rw [hlist]
    exact ⟨Store.pairwise_matchingRules hs url type, fun rule hrule =>
      hs.hasNumber rule (Store.mem_matchingRules.1 hrule).1⟩

theorem coverings_ordered {x : Exchange} (hs : x.store.Reachable) (events : List Event) :
    ∀ call ∈ x.coverings events,
      call.Pairwise Store.Precedes ∧ ∀ rule ∈ call, rule.HasNumber := by
  induction events generalizing x with
  | nil => simp [coverings]
  | cons event rest ih =>
    have hrest := ih (happen_reachable hs event)
    cases event with
    | meanwhile m => exact hrest
    | request => exact List.forall_mem_cons.2 ⟨covering_ordered hs, hrest⟩

/-- On a flow that no rule has covered before, the hits are one for each id of the rules that
covered the request at any time, in the order of the first matches and with the priority that the
rule had then. In each call rules come by descending priority and then ascending id. There are no
hits only as long as no call has found any rule. -/
theorem hits_of_first_matches {x : Exchange} (hs : x.store.Reachable) (hfresh : x.flow.hits = none)
    (events : List Event) :
    let calls := x.coverings events
    let hits := (x.after events).flow.hits
    (∀ call ∈ calls, call.Pairwise Store.Precedes) ∧
      hits.getD [] = (Rule.firsts calls.flatten).map Rule.toHit ∧
      ((hits.getD []).map (·.id)).Nodup ∧
      (∀ id, (∃ hit ∈ hits.getD [], hit.id = id) ↔ ∃ call ∈ calls, ∃ rule ∈ call, rule.id = id) ∧
      (hits = none ↔ ∀ call ∈ calls, call = []) := by
  intro calls hits
  have hordered := coverings_ordered hs events
  have hnumbers : ∀ rule ∈ calls.flatten, rule.HasNumber := by
    intro rule hrule
    obtain ⟨call, hcall, hrule⟩ := List.mem_flatten.1 hrule
    exact (hordered call hcall).2 rule hrule
  have hafter : hits = Rule.noteAll none calls.flatten := by
    rw [← hfresh]
    exact x.after_hits events
  have hlist : hits.getD [] = (Rule.firsts calls.flatten).map Rule.toHit := by
    rw [hafter, Rule.noteAll_getD, Rule.foldl_noteIn hnumbers]
  have hids : (hits.getD []).map (·.id) = (Rule.firsts calls.flatten).map (·.id) := by
    rw [hlist, List.map_map]
    rfl
  refine ⟨fun call hcall => (hordered call hcall).1, hlist, ?_, ?_, ?_⟩
  · rw [hids]
    exact Rule.firsts_distinct hnumbers
  · intro id
    have hmem : (∃ hit ∈ hits.getD [], hit.id = id) ↔ ∃ rule ∈ calls.flatten, rule.id = id := by
      rw [← List.mem_map, hids, List.mem_map]
      constructor
      · rintro ⟨first, hfirst, hid⟩
        exact ⟨first, (Rule.firsts_sublist hnumbers).subset hfirst, hid⟩
      · rintro ⟨rule, hrule, rfl⟩
        exact Rule.exists_first_of_mem hnumbers hrule
    rw [hmem]
    simp only [List.mem_flatten]
    constructor
    · rintro ⟨rule, ⟨call, hcall, hrule⟩, hid⟩
      exact ⟨call, hcall, rule, hrule, hid⟩
    · rintro ⟨call, hcall, rule, hrule, hid⟩
      exact ⟨rule, ⟨call, hcall, hrule⟩, hid⟩
  · rw [hafter, Rule.noteAll_eq_none, List.flatten_eq_nil_iff]

def typedRule (id priority : Int) (type : String) (operations : List Operation) : Rule :=
  ⟨.int id, priority, ⟨"*", [type]⟩, ⟨operations, [⟨some "X-Seen", "yes", .set⟩]⟩⟩

/-- A rule that makes a request for an image of one of no known type, a rule for images, and a
flow. -/
def disguised : Exchange where
  store := ((Store.empty 5).update [] [typedRule 1 1 "image" [],
    typedRule 2 5 "other" [⟨some "Sec-Fetch-Dest", "image", .set⟩]]).store
  flow := .fresh (some "https://example.com/") (some []) none

/-- The second rule comes back with another priority and another type. -/
def replaced : List Event :=
  [.request, .request, .meanwhile (.update [.int 1, .int 2] [typedRule 2 9 "image" []]), .request,
    .meanwhile (.update [.int 2] [typedRule 3 9 "image" []]), .request]

theorem hits_of_first_matches_disguised :
    disguised.store.Reachable ∧ disguised.flow.hits = none ∧
      ((disguised.after replaced).flow.hits.getD []).map
        (fun hit => (Store.idNumber hit.id, hit.priority)) = [(2, 5), (1, 1), (3, 9)] := by
  have hs : disguised.store.Reachable := (Store.Reachable.empty 5).update [] _
  obtain ⟨-, hlist, -⟩ := hits_of_first_matches hs rfl replaced
  refine ⟨hs, rfl, ?_⟩
  rw [hlist]
  decide +kernel

end Exchange

end HeaderRules
