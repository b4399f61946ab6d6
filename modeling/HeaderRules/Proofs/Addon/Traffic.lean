import HeaderRules.Proofs.Addon.Run
import HeaderRules.Proofs.Enforce.FirstRule
import HeaderRules.Proofs.Enforce.Handling
/-!
# Traffic

A request is handled whatever has come of the look at the profile document before it. The rules in
a store all name the headers that they change, so a request with a URL and fields is never misused;
and a look that comes to nothing leaves the rules that were installed.
-/

namespace HeaderRules

namespace Store

variable {s : Store} {flow : Flow} {url : String} {fields : Fields}

theorem named_of_mem_matchingRules (hs : s.Reachable) {type : String} {rule : Rule}
    (hrule : rule ∈ s.matchingRules url type) : ∀ op ∈ rule.action.request, op.header.isSome := by
  intro op hop
  have hinstallable := hs.wellKept.installable rule (mem_matchingRules.1 hrule).1
  have hmem : op ∈ rule.action.operations := by simp [Action.operations, hop]
  obtain ⟨name, hname, -⟩ := (hinstallable.operable op hmem).header
  simp [hname]

theorem misuse_handleRequest (hs : s.Reachable) (hurl : flow.url = some url)
    (hfields : flow.request = some fields) : (s.handleRequest flow).misuse = none := by
  by_cases hnone : s.covering flow = []
  · obtain ⟨misuse, hhandled, hfine⟩ := handleRequest_of_none hnone
    rw [hhandled, hfine (by simp [hurl]) (by simp [hfields])]
  · rw [handleRequest_of_covering hnone, hfields]
    apply FirstRule.misuse_enforceOperations
    intro ops hops
    obtain ⟨rule, hrule, rfl⟩ := List.mem_map.1 hops
    rw [covering_of_url hurl hfields] at hrule
    exact named_of_mem_matchingRules hs hrule

end Store

theorem Addon.reportMisuse_of_none {handled : Handled} (h : handled.misuse = none)
    (before : String) : reportMisuse handled before = (handled.flow, handled.log) := by
  simp [reportMisuse, h]

namespace World

variable {flow : Flow} {url : String} {fields : Fields}

/-- A request is handled by the rules that are there after the look at the document, and its reports
follow those of the look. -/
theorem request_eq {w : World} (h : w.Sound) (hurl : flow.url = some url)
    (hfields : flow.request = some fields) :
    let after := (w.step (.request flow)).addon
    let handled := after.store.handleRequest flow
    handled.misuse = none ∧
      w.addon.request w.around flow = (after, handled.flow,
        ((w.addon.sync w.around).reported "Failed to refresh rules: ").2 ++ handled.log) := by
  intro after handled
  have hmisuse : handled.misuse = none :=
    Store.misuse_handleRequest (sound_step h (.request flow)).reachable hurl hfields
  let reported := Addon.reportMisuse handled "Critical error in CoreAddon.request: "
  have hrequest : w.addon.request w.around flow = (after, reported.1,
      ((w.addon.sync w.around).reported "Failed to refresh rules: ").2 ++ reported.2) := rfl
  have hreported : reported = (handled.flow, handled.log) := Addon.reportMisuse_of_none hmisuse _
  exact ⟨hmisuse, by rw [hrequest, hreported]⟩

/-- In every run from a new addon, a request with a URL and fields is handled to the end by the
rules that are there after the look at the document. They are those that were there before if the
look breaks off or finds no change, or if the rules that it asks for are refused. -/
theorem request_undisturbed (maxRules : Int) (path : String) (interval : Number.Binary64)
    (around : Surroundings) (events : List Event) (hurl : flow.url = some url)
    (hfields : flow.request = some fields) :
    let w := (start maxRules path interval around).run events
    let after := (w.step (.request flow)).addon
    let handled := after.store.handleRequest flow
    handled.misuse = none ∧
      w.addon.request w.around flow = (after, handled.flow,
        ((w.addon.sync w.around).reported "Failed to refresh rules: ").2 ++ handled.log) ∧
      ((∃ fault, w.looked (.request flow) = some (.error fault)) ∨
          w.looked (.request flow) = some (.ok false) ∨
          (∃ fault, w.attempt (.request flow) = some (.error fault)) →
        after.store = w.addon.store) := by
  intro w after handled
  have hsound := sound_run (sound_start maxRules path interval around) events
  obtain ⟨hmisuse, hrequest⟩ := request_eq hsound hurl hfields
  refine ⟨hmisuse, hrequest, fun hcause => ?_⟩
  exact store_of_no_change hsound (hcause.imp_right (Or.imp_left fun hlooked => ⟨rfl, hlooked⟩))

/-- A request gets the header of the rule that is installed, though the document has become a byte
that spells nothing. -/
theorem request_undisturbed_undecodable :
    let events : List Event := [.running, .fileBecomes (.file (.ofInt 2) [0xFF]), .clockShows (.ofInt 5)]
    let w := (start 1 "p" (.ofInt 1) ⟨.zero false, .file (.ofInt 1) oneRule⟩).run events
    let flow := Flow.fresh (some "https://a/") (some []) none
    (w.addon.request w.around flow).2.1.request = some [("X", "")] ∧
      (w.step (.request flow)).addon.store = w.addon.store := by
  intro events w flow
  have hurl : flow.url = some "https://a/" := rfl
  have hfields : flow.request = some [] := rfl
  obtain ⟨hbroken, hheader⟩ : (w.looked (.request flow)).any (!·.isOk) = true ∧
      (w.addon.store.handleRequest flow).flow.request = some [("X", "")] := by decide +kernel
  obtain ⟨outcome, houtcome, herror⟩ := (Option.any_eq_true _ _).1 hbroken
  obtain ⟨-, hrequest, hstore⟩ :=
    request_undisturbed 1 "p" (.ofInt 1) ⟨.zero false, .file (.ofInt 1) oneRule⟩ events hurl hfields
  cases outcome with
  | ok changed => cases herror
  | error fault =>
    have hsame := hstore (.inl ⟨fault, houtcome⟩)
    refine ⟨?_, hsame⟩
    rw [hrequest, hsame]
    exact hheader

end World

end HeaderRules
