import HeaderRules.Proofs.Apply.Atomic
import HeaderRules.Proofs.Enforce.Handling
import HeaderRules.Proofs.Message.Upsert
import HeaderRules.Proofs.Rule.OfProfile
/-!
# Exchanges

A request and its response under the rules of one profile. The rules that covered the request are
kept on the flow, so what happens to the store while the answer is awaited has no part in it.
-/

namespace HeaderRules

open HeaderRules.Edit (Upserted upsertAll upserted)

theorem Profile.action_of_mem_rules {p : Profile} {rules : List Rule} (h : p.rules = .ok rules)
    {rule : Rule} (hrule : rule ∈ rules) : rule.action = p.action := by
  obtain ⟨-, rfl⟩ | ⟨-, h⟩ := rules_eq_ok_iff.1 h
  · cases hrule
  · obtain ⟨m, -, hm⟩ := Outcome.exists_of_mapM_eq_ok h hrule
    obtain ⟨id, -, rfl⟩ := ruleOf_eq_ok.1 hm
    rfl

theorem Apply.action_of_mem_store {s : Store} (hs : s.Reachable) {p : Profile} {rules : List Rule}
    (hrules : p.rules = .ok rules) {receipt : Receipt}
    (h : (Apply.run s rules).outcome = .ok receipt) {rule : Rule}
    (hrule : rule ∈ (Apply.run s rules).store.rules) : rule.action = p.action := by
  obtain ⟨sifted, hverdict, -, hstore⟩ := run_eq_ok hs h
  rw [hstore] at hrule
  exact Profile.action_of_mem_rules hrules
    ((Rule.kept_sublist (verdict_eq_ok hverdict).1).subset hrule)

/-! ## While the answer is awaited -/

structure Exchange where
  store : Store
  flow : Flow

/-- What happens between the request and the response of a flow. -/
inductive Meanwhile
  | update (remove : List Value) (add : List Rule)
  | apply (rules : List Rule)
  | answer (response : Option (Option Fields))

namespace Exchange

def step (x : Exchange) : Meanwhile → Exchange
  | .update remove add => { x with store := (x.store.update remove add).store }
  | .apply rules => { x with store := (Apply.run x.store rules).store }
  | .answer response => { x with flow := { x.flow with response } }

def run (x : Exchange) (events : List Meanwhile) : Exchange := events.foldl step x

theorem run_flow (x : Exchange) (events : List Meanwhile) :
    ∃ response, (x.run events).flow = { x.flow with response } := by
  induction events generalizing x with
  | nil => exact ⟨x.flow.response, rfl⟩
  | cons e rest ih =>
    obtain ⟨response, h⟩ := ih (x.step e)
    refine ⟨response, ?_⟩
    rw [run, List.foldl_cons, ← run, h]
    cases e <;> rfl

theorem covering_fresh_ne_nil {s : Store} {url : String} {fields : Fields}
    {response : Option (Option Fields)}
    (h : ∃ rule ∈ s.rules, Store.covers url fields.resourceType rule = true) :
    s.covering (.fresh (some url) (some fields) response) ≠ [] := by
  rw [Store.covering_of_url rfl rfl]
  intro hnil
  obtain ⟨rule, hrule, hcovers⟩ := h
  rw [Store.matchingRules_eq_nil_iff.1 hnil rule hrule] at hcovers
  cases hcovers

theorem request_of_cover {s : Store} (hs : s.Reachable) {p : Profile} {rules : List Rule}
    (hrules : p.rules = .ok rules) {receipt : Receipt}
    (h : (Apply.run s rules).outcome = .ok receipt) {url : String} {fields : Fields}
    (response : Option (Option Fields))
    (hcover : ∃ rule ∈ (Apply.run s rules).store.rules,
      Store.covers url fields.resourceType rule = true) :
    let requested := (Apply.run s rules).store.handleRequest
      (.fresh (some url) (some fields) response)
    requested.misuse = none ∧
      ∃ matched hits, matched ≠ [] ∧ (∀ rule ∈ matched, rule.action = p.action) ∧
        requested.flow =
          ⟨some url, some (upsertAll p.requestEdits fields), response, some matched, hits⟩ := by
  intro requested
  let flow := Flow.fresh (some url) (some fields) response
  let matched := (Apply.run s rules).store.covering flow
  have hne : matched ≠ [] := covering_fresh_ne_nil hcover
  have haction : ∀ rule ∈ matched, rule.action = p.action := fun rule hrule =>
    Apply.action_of_mem_store hs hrules h (Store.mem_rules_of_mem_covering hrule)
  have hasked : ∀ rule ∈ matched, rule.action.request = Edit.operations p.requestEdits :=
    fun rule hrule => congrArg Action.request (haction rule hrule)
  obtain ⟨hfields, hfine⟩ := Edit.enforceOperations_map_operations _ hne hasked fields "request"
  have hrequested : requested = _ := Store.handleRequest_of_covering hne
  refine ⟨by rw [hrequested]; exact hfine, matched, Rule.noteAll flow.hits matched, hne, haction, ?_⟩
  rw [hrequested, ← hfields]
  rfl

theorem response_of_matched {p : Profile} {f : Flow} {matched : List Rule} {answer : Fields}
    (hmatched : f.matched = some matched) (hne : matched ≠ [])
    (haction : ∀ rule ∈ matched, rule.action = p.action)
    (hanswer : f.response = some (some answer)) :
    f.handleResponse.misuse = none ∧
      f.handleResponse.flow =
        { f with response := some (some (upsertAll p.responseEdits answer)) } := by
  have hasked : ∀ rule ∈ matched, rule.action.response = Edit.operations p.responseEdits :=
    fun rule hrule => congrArg Action.response (haction rule hrule)
  obtain ⟨hfields, hfine⟩ := Edit.enforceOperations_map_operations _ hne hasked answer "response"
  rw [Flow.handleResponse_eq, hmatched, Flow.respondBy, hanswer]
  exact ⟨hfine, by simp [hfields, hmatched]⟩

/-- A profile that sets one header twice, the second time in another spelling. -/
def tokenProfile : Profile where
  id := "dev"
  enabled := true
  matchers := [⟨"api", "||example.com^", ["main_frame"]⟩, ⟨"all", "*", ["main_frame"]⟩]
  requestEdits :=
    [⟨"a", some "X-Token", "old", .bool true⟩, ⟨"b", some "x-token", "new", .bool true⟩]
  responseEdits := [⟨"c", some "X-Seen", "yes", .bool true⟩]
  name := ""
  color := ""
  notes := ""

def tokenRules : List Rule :=
  List.zipWith tokenProfile.ruleWith tokenProfile.ruleMatchers [547243051, 663974968]

end Exchange

end HeaderRules
