import HeaderRules.Proofs.Enforce.Exchange
/-!
# What an unrestricted matcher covers

A matcher that names no resource types gets the default types. Of the types that a request can have
there are some more: sockets, and a few destinations that a browser announces. To requests of these
the rule of the matcher does not apply, whatever their URL.
-/

namespace HeaderRules

namespace Profile

/-- Whether a profile applies a matcher to all resource types: it is one of its own that names none,
or the one that stands in for missing matchers. -/
def Unrestricted (p : Profile) (m : Matcher) : Prop :=
  (m ∈ p.matchers ∧ m.types = []) ∨ (p.matchers = [] ∧ m = .everywhere)

theorem types_of_unrestricted {p : Profile} {m : Matcher} (h : p.Unrestricted m) :
    m.toCondition.types = ResourceType.defaults := by
  rcases h with ⟨-, htypes⟩ | ⟨-, rfl⟩
  · simp [Matcher.toCondition, htypes]
  · rfl

end Profile

theorem Matcher.filterMatches_toCondition (m : Matcher) (url : List Char) :
    Url.filterMatches m.toCondition.filter.toList url = Url.filterMatches m.filter.toList url := by
  by_cases hempty : m.filter = ""
  · simp [toCondition, hempty, matchAllFilter, Url.filterMatches, Url.isMatchAll]
  · rw [toCondition, if_neg hempty]

namespace ResourceType

theorem canonical_of_mem_defaults {type : String} (h : type ∈ defaults) :
    canonical type = type := by
  have hall : ∀ type ∈ defaults, canonical type = type := by decide
  exact hall type h

theorem covers_defaults_iff {type : String} : covers defaults type = true ↔ type ∈ defaults := by
  rw [covers, List.any_eq_true]
  constructor
  · rintro ⟨name, hname, heq⟩
    rw [canonical_of_mem_defaults hname, beq_iff_eq] at heq
    exact heq ▸ hname
  · intro htype
    exact ⟨type, htype, by simp [canonical_of_mem_defaults htype]⟩

end ResourceType

/-! ## The type of a request -/

namespace Fields

/-- The announced destinations whose type is not one of the defaults. -/
def otherDestinations : List String := ["font", "audio", "video", "track", "report", "webbundle"]

/-- A destination that is unknown counts as one of the default types. -/
theorem destination_mem_defaults_iff (destination : String) :
    (destinationTypes.lookup destination).getD "other" ∈ ResourceType.defaults ↔
      destination ∉ otherDestinations := by
  by_cases hknown : destination ∈ destinationTypes.map (·.1)
  · have hall : ∀ name ∈ destinationTypes.map (·.1),
        (destinationTypes.lookup name).getD "other" ∈ ResourceType.defaults ↔
          name ∉ otherDestinations := by decide
    exact hall destination hknown
  · have hnone : destinationTypes.lookup destination = none := by
      rw [List.lookup_eq_none_iff]
      intro entry hentry
      have hne : destination ≠ entry.1 := by
        rintro rfl
        exact hknown (List.mem_map_of_mem hentry)
      simpa using hne
    have hother : destination ∉ otherDestinations := by
      have hall : ∀ name ∈ otherDestinations, name ∈ destinationTypes.map (·.1) := by decide
      exact fun hmem => hknown (hall destination hmem)
    rw [hnone]
    exact iff_of_true (by decide) hother

/-- Whether a request is of a type beyond the defaults: it asks for a socket, or it is no ping and
announces one of some destinations. -/
def BeyondDefaults (fields : Fields) : Prop :=
  lowered fields "Upgrade" = "websocket" ∨
    (hasText fields "Ping-To" = false ∧ hasText fields "Ping-From" = false ∧
      lowered fields "Sec-Fetch-Dest" ∈ otherDestinations)

theorem resourceType_mem_defaults_iff (fields : Fields) :
    fields.resourceType ∈ ResourceType.defaults ↔ ¬fields.BeyondDefaults := by
  unfold resourceType BeyondDefaults
  by_cases hsocket : lowered fields "Upgrade" = "websocket"
  · simp [hsocket, ResourceType.defaults]
  · rw [if_neg hsocket]
    by_cases hping : (hasText fields "Ping-To" || hasText fields "Ping-From") = true
    · rw [if_pos hping]
      have hnone : ¬(hasText fields "Ping-To" = false ∧ hasText fields "Ping-From" = false) := by
        rintro ⟨hto, hfrom⟩
        simp [hto, hfrom] at hping
      apply iff_of_true (by decide)
      rintro (h | ⟨hto, hfrom, -⟩)
      · exact hsocket h
      · exact hnone ⟨hto, hfrom⟩
    · rw [if_neg hping, destination_mem_defaults_iff]
      have hboth : hasText fields "Ping-To" = false ∧ hasText fields "Ping-From" = false := by
        simpa using hping
      simp [hsocket, hboth]

end Fields

/-! ## The rules that cover a request -/

namespace Store

/-- The installed rule of an unrestricted matcher covers the requests to the URLs that its filter
matches exactly if their type is one of the defaults. -/
theorem ruleOf_mem_matchingRules_iff {s : Store} {p : Profile} {m : Matcher} {rule : Rule}
    (hm : p.Unrestricted m) (hrule : p.ruleOf m = .ok rule) (hinstalled : rule ∈ s.rules)
    {url : String} (hurl : Url.filterMatches m.filter.toList url.toList = true)
    (fields : Fields) :
    (rule ∈ s.matchingRules url fields.resourceType ↔
      fields.resourceType ∈ ResourceType.defaults) ∧
    (fields.resourceType ∈ ResourceType.defaults ↔ ¬fields.BeyondDefaults) := by
  refine ⟨?_, fields.resourceType_mem_defaults_iff⟩
  obtain ⟨id, -, rfl⟩ := Profile.ruleOf_eq_ok.1 hrule
  have htypes : (p.ruleWith m id).condition.types = ResourceType.defaults :=
    Profile.types_of_unrestricted hm
  have hfilter : Url.filterMatches (p.ruleWith m id).condition.filter.toList url.toList = true :=
    (m.filterMatches_toCondition url.toList).trans hurl
  rw [mem_matchingRules, covers, htypes, hfilter, Bool.and_true,
    ResourceType.covers_defaults_iff]
  exact and_iff_right hinstalled

def siteWideProfile : Profile where
  id := "dev"
  enabled := true
  matchers := []
  requestEdits := [⟨"a", some "X-Env", "staging", .bool true⟩]
  responseEdits := []
  name := ""
  color := ""
  notes := ""

def siteWideRule : Rule := siteWideProfile.ruleWith .everywhere 143407512

theorem siteWideRule_compiled :
    siteWideProfile.ruleOf .everywhere = .ok siteWideRule ∧
      siteWideProfile.rules = .ok [siteWideRule] := by
  have hid : RuleId.ofPair siteWideProfile.id Matcher.everywhere.id = .ok 143407512 := by
    decide +kernel
  have haction : siteWideProfile.action.isEmpty = false := by decide
  have hids : siteWideProfile.ruleMatchers.mapM (fun m => RuleId.ofPair siteWideProfile.id m.id) =
      .ok [143407512] := by decide +kernel
  exact ⟨Profile.ruleOf_eq_ok.2 ⟨_, hid, rfl⟩, Profile.rules_of_ids haction hids⟩

theorem siteWideRule_installed :
    (∃ receipt, (Apply.run (Store.empty 5000) [siteWideRule]).outcome = .ok receipt) ∧
      siteWideRule ∈ (Apply.run (Store.empty 5000) [siteWideRule]).store.rules := by
  have hisOk : (Apply.run (Store.empty 5000) [siteWideRule]).outcome.isOk = true := by
    decide +kernel
  cases hok : (Apply.run (Store.empty 5000) [siteWideRule]).outcome with
  | error fault =>
    rw [hok] at hisOk
    cases hisOk
  | ok receipt =>
    refine ⟨⟨receipt, rfl⟩, ?_⟩
    rw [(Apply.rules_of_run_ok (.empty 5000) hok).1]
    exact .head _

theorem ruleOf_mem_matchingRules_iff_image :
    let s := (Apply.run (Store.empty 5000) [siteWideRule]).store
    let fields := [("Sec-Fetch-Dest", "Image")]
    siteWideProfile.ruleOf .everywhere = .ok siteWideRule ∧
      siteWideRule ∈ s.matchingRules "https://example.com/" (Fields.resourceType fields) := by
  intro s fields
  have hunrestricted : siteWideProfile.Unrestricted .everywhere := .inr ⟨rfl, rfl⟩
  have hurl : Url.filterMatches Matcher.everywhere.filter.toList "https://example.com/".toList =
      true := by decide
  obtain ⟨hcovers, -⟩ := ruleOf_mem_matchingRules_iff hunrestricted siteWideRule_compiled.1
    siteWideRule_installed.2 hurl fields
  exact ⟨siteWideRule_compiled.1, hcovers.2 (by decide +kernel)⟩

/-- A font is announced by its destination, and no default type is the type of fonts. -/
theorem ruleOf_not_mem_matchingRules_font :
    let s := (Apply.run (Store.empty 5000) [siteWideRule]).store
    let fields := [("Sec-Fetch-Dest", "font")]
    (∃ e ∈ siteWideProfile.requestEdits, e.isActive = true) ∧
      siteWideProfile.Unrestricted .everywhere ∧
      siteWideProfile.rules = .ok [siteWideRule] ∧
      siteWideProfile.ruleOf .everywhere = .ok siteWideRule ∧
      (∃ receipt, (Apply.run (Store.empty 5000) [siteWideRule]).outcome = .ok receipt) ∧
      siteWideRule ∈ s.rules ∧
      Url.filterMatches Matcher.everywhere.filter.toList "https://example.com/".toList = true ∧
      siteWideRule ∉ s.matchingRules "https://example.com/" (Fields.resourceType fields) := by
  intro s fields
  obtain ⟨hrule, hrules⟩ := siteWideRule_compiled
  obtain ⟨happlied, hinstalled⟩ := siteWideRule_installed
  refine ⟨by decide, .inr ⟨rfl, rfl⟩, hrules, hrule, happlied, hinstalled, by decide, ?_⟩
  intro hmem
  have hcovers := (mem_matchingRules.1 hmem).2
  have hnot : covers "https://example.com/" (Fields.resourceType fields)
      siteWideRule = false := by decide +kernel
  rw [hnot] at hcovers
  cases hcovers

end Store

end HeaderRules
