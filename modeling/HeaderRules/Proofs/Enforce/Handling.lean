import HeaderRules.Enforce
import HeaderRules.Proofs.Store.Matching
/-!
# Handling one flow

The engine leaves a flow alone unless a rule covers its request. The rules that do are kept on the
flow with a hit for each of them, and their operations are carried out, first on the request and
later on the response.
-/

namespace HeaderRules

namespace Rule

def toHit (rule : Rule) : Hit := ⟨rule.id, rule.priority⟩

/-- One hit more, unless there is one of the same rule. -/
def noteIn (hits : List Hit) (rule : Rule) : List Hit :=
  if hits.any (·.id.same rule.id) then hits else hits ++ [rule.toHit]

/-- The hits of some rules more; without any there need be no hits. -/
def noteAll (hits : Option (List Hit)) (rules : List Rule) : Option (List Hit) :=
  if rules = [] then hits else some (rules.foldl noteIn (hits.getD []))

theorem noteAll_cons (hits : Option (List Hit)) (rule : Rule) (rest : List Rule) :
    noteAll hits (rule :: rest) = noteAll (some (noteIn (hits.getD []) rule)) rest := by
  cases rest <;> rfl

end Rule

namespace Flow

theorem recordHits_eq (f : Flow) (rules : List Rule) :
    f.recordHits rules = { f with hits := Rule.noteAll f.hits rules } := by
  induction rules generalizing f with
  | nil => rfl
  | cons rule rest ih =>
    have hrest : f.recordHits (rule :: rest) = (f.recordHit rule.id rule.priority).recordHits rest :=
      rfl
    rw [hrest, ih, Rule.noteAll_cons]
    rfl

end Flow

namespace Store

/-- The installed rules that cover the request of a flow, in the order in which they apply. -/
def covering (s : Store) (flow : Flow) : List Rule :=
  match flow.request with
  | none => []
  | some fields => (s.rulesFor flow.url fields.resourceType).toOption.getD []

variable {s : Store} {flow : Flow} {url : String} {fields : Fields}

theorem covering_of_url (hurl : flow.url = some url) (hfields : flow.request = some fields) :
    s.covering flow = s.matchingRules url fields.resourceType := by
  simp [covering, hurl, hfields, rulesFor, Except.toOption]

theorem mem_rules_of_mem_covering {rule : Rule} (h : rule ∈ s.covering flow) : rule ∈ s.rules := by
  unfold covering rulesFor at h
  split at h
  · cases h
  · split at h
    · exact (mem_matchingRules.1 h).1
    · split at h
      · cases h
      · exact (mem_matchingRules.1 h).1

/-- A flow that no rule covers stays as it is, and is only misused if something is missing. -/
theorem handleRequest_of_none (h : s.covering flow = []) :
    ∃ misuse, s.handleRequest flow = ⟨flow, misuse, []⟩ ∧
      (flow.url.isSome → flow.request.isSome → misuse = none) := by
  unfold covering at h
  unfold handleRequest
  cases hrequest : flow.request with
  | none => exact ⟨_, rfl, fun _ hsome => absurd hsome (by simp)⟩
  | some fields =>
    rw [hrequest] at h
    cases hfound : s.rulesFor flow.url fields.resourceType with
    | error misuse =>
      refine ⟨some misuse, by simp [hfound], fun hurl _ => ?_⟩
      obtain ⟨url, hurl⟩ := Option.isSome_iff_exists.1 hurl
      simp [rulesFor, hurl] at hfound
    | ok found =>
      obtain rfl : found = [] := by simpa [hfound, Except.toOption] using h
      exact ⟨none, by simp [hfound], fun _ _ => rfl⟩

/-- The rules that cover a flow are kept on it, each with a hit, and their operations are carried
out on the request. -/
theorem handleRequest_of_covering (h : s.covering flow ≠ []) :
    let done := enforceOperations flow.request ((s.covering flow).map (·.action.request)) "request"
    s.handleRequest flow =
      ⟨⟨flow.url, done.fields, flow.response, some (s.covering flow),
        Rule.noteAll flow.hits (s.covering flow)⟩, done.misuse, done.log⟩ := by
  intro done
  have hdone : done = enforceOperations flow.request
    ((s.covering flow).map (·.action.request)) "request" := rfl
  rw [hdone]
  unfold covering at h ⊢
  unfold handleRequest
  cases hrequest : flow.request with
  | none => simp [hrequest] at h
  | some fields =>
    cases hfound : s.rulesFor flow.url fields.resourceType with
    | error misuse => simp [hrequest, hfound, Except.toOption] at h
    | ok found =>
      cases found with
      | nil => simp [hrequest, hfound, Except.toOption] at h
      | cons first rest => simp [hfound, Except.toOption, Flow.recordHits_eq]

theorem handleRequest_kept (s : Store) (flow : Flow) :
    (s.handleRequest flow).flow.matched.getD [] =
        (if (s.covering flow).isEmpty then flow.matched.getD [] else s.covering flow) ∧
      (s.handleRequest flow).flow.hits = Rule.noteAll flow.hits (s.covering flow) := by
  by_cases hnone : s.covering flow = []
  · obtain ⟨misuse, hhandled, -⟩ := handleRequest_of_none hnone
    rw [hhandled, hnone]
    exact ⟨rfl, rfl⟩
  · rw [handleRequest_of_covering hnone, if_neg (by simpa using hnone)]
    exact ⟨rfl, rfl⟩

end Store

namespace Flow

def respondBy (f : Flow) (rules : List Rule) : Handled :=
  match f.response with
  | none => ⟨f, none, []⟩
  | some fields =>
    let done := enforceOperations fields (rules.map (·.action.response)) "response"
    ⟨{ f with response := some done.fields }, done.misuse, done.log⟩

theorem respondBy_nil (f : Flow) : f.respondBy [] = ⟨f, none, []⟩ := by
  rcases f with ⟨url, request, response, matched, hits⟩
  rcases response with - | fields
  · rfl
  · cases fields <;> rfl

theorem respondBy_of_unanswered {f : Flow} (h : f.response = none) (rules : List Rule) :
    f.respondBy rules = ⟨f, none, []⟩ := by
  simp [respondBy, h]

/-- The response is changed by the rules that are kept on the flow. -/
theorem handleResponse_eq (f : Flow) : f.handleResponse = f.respondBy (f.matched.getD []) := by
  unfold handleResponse
  cases hkept : f.matched.getD [] with
  | nil =>
    rw [respondBy_nil]
    cases f.response <;> rfl
  | cons first rest =>
    unfold respondBy
    cases f.response <;> rfl

end Flow

end HeaderRules
