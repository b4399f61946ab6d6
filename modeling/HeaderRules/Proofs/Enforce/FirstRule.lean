import HeaderRules.Proofs.Message.Change
import HeaderRules.Proofs.Text.AsciiCase
/-!
# The first rule of a header

Of all rules that ask for a change of some header, the first one claims it: that rule makes its
changes of the header, and no other rule makes any. Rules claim a header in lower case of all
scripts, while a message compares names in the case of ASCII letters only, so a rule may claim a
header that it does not change.
-/

namespace HeaderRules

open HeaderRules.Fields (sameName)
open HeaderRules.Operation (asked)

namespace FirstRule

/-- Whether a rule asks for a change of a header, as rules compare headers. -/
def claims (ops : List Operation) (name : String) : Bool :=
  (asked ops).any fun change => claimKey change.name == claimKey name

/-- The changes that rules make when others stand before them: those of headers that none of the
rules before the one that asks for them claims. -/
def grantedBehind (before : List (List Operation)) : List (List Operation) → List Change
  | [] => []
  | ops :: rest =>
    (asked ops).filter (fun change => !before.any (claims · change.name)) ++
      grantedBehind (before ++ [ops]) rest

def granted (rules : List (List Operation)) : List Change := grantedBehind [] rules

/-- Fields before and after the operations of rules: a header has what the first rule that claims it
makes of its values, and one that no rule claims keeps its fields. So do all headers together that no
change names, in order. -/
structure Wins (rules : List (List Operation)) (before after : Fields) : Prop where
  claimed : ∀ name ops, rules.find? (claims · name) = some ops →
    after.values name =
      ((asked ops).filter (sameName ·.name name)).foldl Change.onValues (before.values name)
  unclaimed : ∀ name, rules.find? (claims · name) = none →
    after.filter (sameName ·.1 name) = before.filter (sameName ·.1 name)
  others : (after.filter fun field => !(granted rules).any (sameName ·.name field.1)) =
    before.filter fun field => !(granted rules).any (sameName ·.name field.1)

/-! ## Names -/

theorem claimKey_eq_of_sameName {a b : String} (h : sameName a b = true) :
    claimKey a = claimKey b :=
  Text.lower_congr (Fields.sameName_iff.1 h)

theorem claims_congr {a b : String} (h : claimKey a = claimKey b) (ops : List Operation) :
    claims ops a = claims ops b := by
  simp only [claims, h]

theorem claims_of_mem_asked {ops : List Operation} {change : Change} (h : change ∈ asked ops)
    {name : String} (hname : claimKey change.name = claimKey name) : claims ops name = true :=
  List.any_eq_true.2 ⟨change, h, by simp [hname]⟩

/-! ## What is selected -/

theorem contains_taken {before : List (List Operation)} {taken : List (List Char)}
    (h : ∀ name, taken.contains (claimKey name) = before.any (claims · name))
    (ops : List Operation) (name : String) :
    (taken ++ ((asked ops).filter fun change => !taken.contains (claimKey change.name)).map
        (claimKey ·.name)).contains (claimKey name) =
      (before ++ [ops]).any (claims · name) := by
  rw [List.any_append, ← h name, List.any_cons, List.any_nil, Bool.or_false, Bool.eq_iff_iff]
  constructor
  · intro hmem
    rw [List.contains_iff_mem, List.mem_append, List.mem_map] at hmem
    obtain htaken | ⟨change, hchange, hkey⟩ := hmem
    · simp [htaken]
    · simp [claims_of_mem_asked (List.mem_filter.1 hchange).1 hkey]
  · intro hclaims
    rw [List.contains_iff_mem, List.mem_append, List.mem_map]
    by_cases htaken : claimKey name ∈ taken
    · exact .inl htaken
    · have hops : claims ops name = true := by simpa [htaken] using hclaims
      obtain ⟨change, hchange, hkey⟩ := List.any_eq_true.1 hops
      have hsame : claimKey change.name = claimKey name := by simpa using hkey
      exact .inr ⟨change, List.mem_filter.2 ⟨hchange, by simpa [hsame] using htaken⟩, hsame⟩

theorem select_eq {rules : List (List Operation)}
    (hnamed : ∀ ops ∈ rules, ∀ op ∈ ops, op.header.isSome) {before : List (List Operation)}
    {taken : List (List Char)}
    (h : ∀ name, taken.contains (claimKey name) = before.any (claims · name)) :
    select taken rules = ⟨grantedBehind before rules, false⟩ := by
  -- the headers that are taken stay those that the rules before claim
  induction rules generalizing before taken with
  | nil => rfl
  | cons ops rest ih =>
    have hfirst := Operation.selectOfRule_eq (hnamed ops (by simp)) taken
    have hrest := ih (fun other hother => hnamed other (by simp [hother])) (contains_taken h ops)
    rw [select, hfirst, hrest]
    simp only [Bool.false_eq_true, if_false, grantedBehind, h]

/-! ## What is granted -/

/-- Of its changes of one header, a rule behind others keeps all or none. -/
theorem filter_unclaimed (before : List (List Operation)) (ops : List Operation) (name : String) :
    ((asked ops).filter fun change => !before.any (claims · change.name)).filter
        (sameName ·.name name) =
      if before.any (claims · name) then [] else (asked ops).filter (sameName ·.name name) := by
  have hsame : ∀ change ∈ asked ops,
      (sameName change.name name && !before.any (claims · change.name)) =
        (sameName change.name name && !before.any (claims · name)) := by
    intro change _
    cases hname : sameName change.name name with
    | false => rfl
    | true => simp only [claims_congr (claimKey_eq_of_sameName hname)]
  rw [List.filter_filter, List.filter_congr hsame]
  cases before.any (claims · name) <;> simp

theorem filter_grantedBehind_claimed {before : List (List Operation)} {name : String}
    (h : before.any (claims · name) = true) (rules : List (List Operation)) :
    (grantedBehind before rules).filter (sameName ·.name name) = [] := by
  induction rules generalizing before with
  | nil => rfl
  | cons ops rest ih =>
    rw [grantedBehind, List.filter_append, filter_unclaimed, if_pos h,
      ih (by simp [List.any_append, h]), List.append_nil]

/-- Of the changes of a header, those of the first rule that claims it are granted. -/
theorem filter_grantedBehind {before : List (List Operation)} {name : String}
    (h : before.any (claims · name) = false) (rules : List (List Operation)) :
    (grantedBehind before rules).filter (sameName ·.name name) =
      (rules.find? (claims · name)).elim [] fun ops =>
        (asked ops).filter (sameName ·.name name) := by
  induction rules generalizing before with
  | nil => rfl
  | cons ops rest ih =>
    rw [grantedBehind, List.filter_append, filter_unclaimed, if_neg (by simp [h]), List.find?_cons]
    cases hclaims : claims ops name with
    | true =>
      -- this rule now stands before all the others
      rw [filter_grantedBehind_claimed (by simp [List.any_append, hclaims]), List.append_nil]
      rfl
    | false =>
      have hnone : (asked ops).filter (sameName ·.name name) = [] := by
        rw [List.filter_eq_nil_iff]
        intro change hchange hname
        have hkey := claimKey_eq_of_sameName hname
        simp [claims_of_mem_asked hchange hkey] at hclaims
      rw [hnone, List.nil_append]
      exact ih (by simpa [List.any_append, hclaims] using h)

theorem filter_granted (rules : List (List Operation)) (name : String) :
    (granted rules).filter (sameName ·.name name) =
      (rules.find? (claims · name)).elim [] fun ops =>
        (asked ops).filter (sameName ·.name name) :=
  filter_grantedBehind rfl rules

/-! ## Carrying them out -/

theorem filter_foldl_granted {rules : List (List Operation)} {name : String}
    (h : rules.find? (claims · name) = none) (fields : Fields) :
    ((granted rules).foldl Change.perform fields).filter (sameName ·.1 name) =
      fields.filter (sameName ·.1 name) := by
  have hnone : (granted rules).filter (sameName ·.name name) = [] := by
    rw [filter_granted, h]
    rfl
  apply Change.filter_foldl_perform (p := (sameName · name))
  intro change hchange other hother
  rw [Bool.eq_false_iff]
  intro hname
  exact List.filter_eq_nil_iff.1 hnone change hchange (Fields.sameName_trans hother hname)

theorem wins (rules : List (List Operation)) (fields : Fields) :
    Wins rules fields ((granted rules).foldl Change.perform fields) where
  claimed := by
    intro name ops hfind
    rw [Change.values_foldl_perform, filter_granted, hfind]
    rfl
  unclaimed _ hfind := filter_foldl_granted hfind fields
  others := by
    apply Change.filter_foldl_perform
      (p := fun name => !(granted rules).any (sameName ·.name name))
    intro change hchange name hname
    simpa using ⟨change, hchange, hname⟩

theorem select_of_named {rules : List (List Operation)}
    (hnamed : ∀ ops ∈ rules, ∀ op ∈ ops, op.header.isSome) :
    select [] rules = ⟨granted rules, false⟩ :=
  select_eq hnamed fun _ => rfl

/-- All that comes of operations follows from the changes granted. -/
theorem enforceOperations_of_named {rules : List (List Operation)}
    (hnamed : ∀ ops ∈ rules, ∀ op ∈ ops, op.header.isSome) (fields : Fields) (phase : String) :
    enforceOperations (some fields) rules phase =
      ⟨some ((granted rules).foldl Change.perform fields), (granted rules).length, none,
        (granted rules).map (Change.note phase) ++ countNotes phase (granted rules).length⟩ := by
  simp [enforceOperations, select_of_named hnamed]

theorem misuse_enforceOperations {rules : List (List Operation)}
    (hnamed : ∀ ops ∈ rules, ∀ op ∈ ops, op.header.isSome) (fields : Fields) (phase : String) :
    (enforceOperations (some fields) rules phase).misuse = none := by
  rw [enforceOperations_of_named hnamed]

/-- Two rules that have something to say about the same headers, and an operation that none knows. -/
def twoRules : List (List Operation) :=
  [[⟨some "X-Env", "dev", .set⟩, ⟨some "x-env", "eu", .append⟩, ⟨some "Cookie", "", .remove⟩],
    [⟨some "X-ENV", "prod", .set⟩, ⟨some "cookie", "a=b", .set⟩,
      ⟨some "X-Seen", "no", .unknown (some "merge")⟩, ⟨some "X-Seen", "yes", .append⟩]]

end FirstRule

end HeaderRules
