import HeaderRules.Proofs.Enforce.Exchange
/-!
# Requests that are handled again

The request of one flow may be handled any number of times, while the store is replaced and the
answer comes in. The rules that the flow keeps are those of the last time that any rule covered the
request: a request that no rule covers any more leaves the earlier rules where they are.
-/

namespace HeaderRules

namespace Exchange

/-- What happens to a store and a flow whose request can be handled at any time. -/
inductive Event
  | meanwhile (m : Meanwhile)
  | request

def happen (x : Exchange) : Event → Exchange
  | .meanwhile m => x.step m
  | .request => { x with flow := (x.store.handleRequest x.flow).flow }

def after (x : Exchange) (events : List Event) : Exchange := events.foldl happen x

/-- The installed rules that cover the request as it is now, in the order in which they apply. -/
def covering (x : Exchange) : List Rule := x.store.covering x.flow

def coverings (x : Exchange) : List Event → List (List Rule)
  | [] => []
  | .meanwhile m :: rest => (x.step m).coverings rest
  | .request :: rest => x.covering :: (x.happen .request).coverings rest

/-- The last of some lists of rules that has any. -/
def lastCovering (earlier : List Rule) (found : List (List Rule)) : List Rule :=
  (found.filter fun rules => !rules.isEmpty).getLast?.getD earlier

theorem lastCovering_cons (earlier first : List Rule) (found : List (List Rule)) :
    lastCovering earlier (first :: found) =
      lastCovering (if first.isEmpty then earlier else first) found := by
  unfold lastCovering
  cases first with
  | nil => rfl
  | cons rule rest => simp [List.getLast?_cons]

theorem lastCovering_of_getLast? {earlier last : List Rule} {found : List (List Rule)}
    (hlast : found.getLast? = some last) (hne : last ≠ []) : lastCovering earlier found = last := by
  obtain ⟨before, rfl⟩ := List.getLast?_eq_some_iff.1 hlast
  have hsome : last.isEmpty = false := by simpa using hne
  simp [lastCovering, hsome]

/-! ## What is kept on the flow -/

/-- What a flow keeps, and only a request touches, is after some events what the rules of each call
have made of it, one call after the other. -/
theorem kept_after {α : Type} (kept : Flow → α) (note : α → List Rule → α)
    (hmeanwhile : ∀ (x : Exchange) m, kept (x.step m).flow = kept x.flow)
    (hrequest : ∀ x : Exchange, kept (x.happen .request).flow = note (kept x.flow) x.covering)
    (x : Exchange) (events : List Event) :
    kept (x.after events).flow = (x.coverings events).foldl note (kept x.flow) := by
  induction events generalizing x with
  | nil => rfl
  | cons event rest ih =>
    have hrest : x.after (event :: rest) = (x.happen event).after rest := rfl
    rw [hrest, ih]
    cases event with
    | meanwhile m =>
      rw [show (x.happen (.meanwhile m)).flow = (x.step m).flow from rfl, hmeanwhile]
      rfl
    | request =>
      rw [hrequest]
      rfl

theorem after_matched (x : Exchange) (events : List Event) :
    (x.after events).flow.matched.getD [] =
      lastCovering (x.flow.matched.getD []) (x.coverings events) := by
  rw [kept_after (·.matched.getD []) (fun earlier found => if found.isEmpty then earlier else found)
    (fun x m => by cases m <;> rfl) fun x => (x.store.handleRequest_kept x.flow).1]
  generalize x.flow.matched.getD [] = earlier
  induction x.coverings events generalizing earlier with
  | nil => rfl
  | cons first rest ih => rw [List.foldl_cons, ih, lastCovering_cons]

/-- The response is changed by the rules that covered the request the last time that any rule did.
These are the rules that were found when the request was last handled, if some were found then. If
none were found then, they are still rules of an earlier time, and the response stays as it is only
if their operations change nothing. -/
theorem response_by_lastCovering (x : Exchange) (events : List Event) :
    let flow := (x.after events).flow
    let kept := lastCovering (x.flow.matched.getD []) (x.coverings events)
    flow.handleResponse = flow.respondBy kept ∧
      ∀ last, (x.coverings events).getLast? = some last →
        (flow.handleResponse = flow.respondBy last ↔
          last ≠ [] ∨ flow.respondBy kept = ⟨flow, none, []⟩) := by
  intro flow kept
  have hkept : flow.handleResponse = flow.respondBy kept := by
    rw [Flow.handleResponse_eq, after_matched]
  refine ⟨hkept, ?_⟩
  intro last hlast
  by_cases hne : last = []
  · rw [hkept, hne, Flow.respondBy_nil]
    simp
  · have hsame : kept = last := lastCovering_of_getLast? hlast hne
    rw [hkept, hsame]
    simp [hne]

def markRule : Rule :=
  ⟨.int 1, 1, ⟨"*", ["other"]⟩, ⟨[], [⟨some "X-Served", "yes", .set⟩]⟩⟩

def answered : Exchange :=
  ⟨⟨5, [markRule], 1⟩, .fresh (some "https://example.com/") (some []) (some (some []))⟩

/-- The request is handled, all rules are removed, and the request is handled again. -/
def emptied : List Event := [.request, .meanwhile (.update [.int 1] []), .request]

/-- The second time no rule covers the request, and yet the response is marked. -/
theorem response_after_no_covering :
    (answered.coverings emptied).getLast? = some [] ∧
      ((answered.after emptied).flow.respondBy []).flow.response = some (some []) ∧
      (answered.after emptied).flow.handleResponse.flow.response =
        some (some [("X-Served", "yes")]) := by
  have hlength : (answered.coverings emptied).getLast?.map List.length = some 0 := by
    decide +kernel
  obtain ⟨last, hlast, hzero⟩ := Option.map_eq_some_iff.1 hlength
  refine ⟨?_, ?_, ?_⟩
  · rw [hlast, List.length_eq_zero_iff.1 hzero]
  · decide +kernel
  · decide +kernel

end Exchange

end HeaderRules
