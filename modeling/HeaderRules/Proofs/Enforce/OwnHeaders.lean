import HeaderRules.Proofs.Enforce.FirstRule
import HeaderRules.Proofs.Text.BeyondAscii
/-!
# Rules with headers of their own

Rules carry out all their operations exactly if none of them claims a header that a later one wants
to change. Rules that share no header keep to this if lower case changes nothing but ASCII letters
in the names. Every other name is claimed together with a different header: its own lower case.
-/

namespace HeaderRules

open HeaderRules.Fields (sameName)

namespace Operation

def isKnown (op : Operation) : Bool :=
  match op.verb with
  | .set | .append | .remove => true
  | .unknown _ => false

/-- What an operation makes of the fields of a message when no rule keeps it from its header. -/
def run (fields : Fields) (op : Operation) : Fields :=
  match op.header, op.verb with
  | some name, .set => fields.set name op.value
  | some name, .append => fields.append name op.value
  | some name, .remove => fields.erase name
  | _, _ => fields

def headers (ops : List Operation) : List String := ops.filterMap (·.header)

theorem run_eq (fields : Fields) (op : Operation) :
    run fields op = op.asked?.elim fields (Change.perform fields) := by
  unfold run asked? change?
  cases op.header with
  | none => rfl
  | some name => cases op.verb <;> rfl

theorem isSome_asked? {op : Operation} (h : op.header.isSome) : op.asked?.isSome = op.isKnown := by
  obtain ⟨name, hname⟩ := Option.isSome_iff_exists.1 h
  unfold asked? change? isKnown
  rw [hname]
  cases op.verb <;> rfl

theorem foldl_run (ops : List Operation) (fields : Fields) :
    ops.foldl run fields = (asked ops).foldl Change.perform fields := by
  induction ops generalizing fields with
  | nil => rfl
  | cons op rest ih =>
    have hasked : asked (op :: rest) = op.asked?.toList ++ asked rest := by
      rw [asked, List.filterMap_cons]
      cases op.asked? <;> rfl
    rw [List.foldl_cons, ih, run_eq, hasked, List.foldl_append]
    cases op.asked? <;> rfl

theorem length_asked {ops : List Operation} (h : ∀ op ∈ ops, op.header.isSome) :
    (asked ops).length = ops.countP isKnown := by
  rw [asked, List.length_filterMap_eq_countP]
  exact List.countP_congr fun op hop => by rw [isSome_asked? (h op hop)]

theorem asked_append (first second : List Operation) :
    asked (first ++ second) = asked first ++ asked second := List.filterMap_append

theorem name_mem_headers {ops : List Operation} {change : Change} (h : change ∈ asked ops) :
    change.name ∈ headers ops := by
  obtain ⟨op, hop, hchange⟩ := List.mem_filterMap.1 h
  obtain ⟨name, hname, hasked⟩ := Option.bind_eq_some_iff.1 hchange
  exact List.mem_filterMap.2 ⟨op, hop, by rw [hname, change?_name hasked]⟩

end Operation

namespace FirstRule

open HeaderRules.Operation (asked headers isKnown run)

/-- Whether a rule claims none of the headers that another one wants to change. -/
def LeavesAlone (ops later : List Operation) : Prop :=
  ∀ change ∈ asked later, claims ops change.name = false

/-- Whether every rule leaves the rules behind it what they want to change. -/
def KeepClear (rules : List (List Operation)) : Prop := rules.Pairwise LeavesAlone

/-- Whether no two operations of different rules name the same header, as a message compares
names. -/
def ShareNone (rules : List (List Operation)) : Prop :=
  rules.Pairwise fun ops later =>
    ∀ name ∈ headers ops, ∀ other ∈ headers later, sameName name other = false

instance (rules : List (List Operation)) : Decidable (ShareNone rules) :=
  inferInstanceAs (Decidable (rules.Pairwise fun ops later =>
    ∀ name ∈ headers ops, ∀ other ∈ headers later, sameName name other = false))

/-! ## Nothing is lost -/

theorem grantedBehind_sublist (before rules : List (List Operation)) :
    (grantedBehind before rules).Sublist (asked rules.flatten) := by
  induction rules generalizing before with
  | nil => exact List.Sublist.slnil
  | cons ops rest ih =>
    rw [grantedBehind, List.flatten_cons, Operation.asked_append]
    exact List.filter_sublist.append (ih (before ++ [ops]))

theorem filter_unclaimed_eq_self {before : List (List Operation)} {ops : List Operation} :
    (asked ops).filter (fun change => !before.any (claims · change.name)) = asked ops ↔
      ∀ earlier ∈ before, LeavesAlone earlier ops := by
  rw [List.filter_eq_self]
  simp only [LeavesAlone, Bool.not_eq_true', List.any_eq_false, Bool.not_eq_true]
  constructor
  · exact fun h earlier hearlier change hchange => h change hchange earlier hearlier
  · exact fun h change hchange earlier hearlier => h earlier hearlier change hchange

/-- Of a rule and the rules behind it neither can make up for what the other one loses. -/
theorem grantedBehind_cons_eq_iff {before rest : List (List Operation)} {ops : List Operation} :
    grantedBehind before (ops :: rest) = asked (ops :: rest).flatten ↔
      (∀ earlier ∈ before, LeavesAlone earlier ops) ∧
        grantedBehind (before ++ [ops]) rest = asked rest.flatten := by
  rw [← filter_unclaimed_eq_self, grantedBehind, List.flatten_cons, Operation.asked_append]
  constructor
  · intro h
    have hfirst := List.length_filter_le
      (fun change => !before.any (claims · change.name)) (asked ops)
    have hrest := (grantedBehind_sublist (before ++ [ops]) rest).length_le
    have htotal := congrArg List.length h
    rw [List.length_append, List.length_append] at htotal
    exact List.append_inj h (by omega)
  · rintro ⟨hfirst, hrest⟩
    rw [hfirst, hrest]

/-- Rules behind others lose nothing exactly if all of these leave them what they want to change,
and they do so among themselves. -/
theorem grantedBehind_eq_iff {before rules : List (List Operation)} :
    grantedBehind before rules = asked rules.flatten ↔
      (∀ ops ∈ before, ∀ later ∈ rules, LeavesAlone ops later) ∧ KeepClear rules := by
  -- with each step one more rule stands before the others
  induction rules generalizing before with
  | nil => simp [grantedBehind, asked, KeepClear]
  | cons ops rest ih =>
    rw [grantedBehind_cons_eq_iff, ih, KeepClear, KeepClear, List.pairwise_cons,
      List.forall_mem_append, List.forall_mem_singleton]
    constructor
    · rintro ⟨hfirst, ⟨hbefore, hops⟩, hrest⟩
      refine ⟨fun earlier hearlier => ?_, hops, hrest⟩
      exact List.forall_mem_cons.2 ⟨hfirst earlier hearlier, hbefore earlier hearlier⟩
    · rintro ⟨hbefore, hops, hrest⟩
      refine ⟨fun earlier hearlier => ?_, ⟨fun earlier hearlier => ?_, hops⟩, hrest⟩
      · exact (List.forall_mem_cons.1 (hbefore earlier hearlier)).1
      · exact (List.forall_mem_cons.1 (hbefore earlier hearlier)).2

theorem granted_eq_iff {rules : List (List Operation)} :
    granted rules = asked rules.flatten ↔ KeepClear rules := by
  rw [granted, grantedBehind_eq_iff]
  simp

/-! ## Plain names -/

theorem claimKey_eq_iff {a b : String} (ha : Text.Plain a.toList) (hb : Text.Plain b.toList) :
    claimKey a = claimKey b ↔ sameName a b = true := by
  rw [claimKey, claimKey, ha.lower_eq_iff hb, Fields.sameName_iff]
  rfl

theorem keepClear_of_plain {rules : List (List Operation)} (hshare : ShareNone rules)
    (hplain : ∀ ops ∈ rules, ∀ name ∈ headers ops, Text.Plain name.toList) : KeepClear rules := by
  refine List.Pairwise.imp_of_mem ?_ hshare
  intro ops later hops hlater happart change hchange
  rw [claims, List.any_eq_false]
  intro own hown hkey
  have hname := Operation.name_mem_headers hown
  have hother := Operation.name_mem_headers hchange
  have hsame : sameName own.name change.name = true := by
    rw [← claimKey_eq_iff (hplain ops hops _ hname) (hplain later hlater _ hother)]
    simpa using hkey
  rw [happart _ hname _ hother] at hsame
  cases hsame

/-! ## Carrying out everything -/

/-- As many operations count as have a known verb exactly if every rule leaves the rules behind it
what they want to change, and then the message is the one that all operations make in order. Rules
that share no header are of this kind if their names are plain. -/
theorem enforceOperations_all {rules : List (List Operation)}
    (hnamed : ∀ ops ∈ rules, ∀ op ∈ ops, op.header.isSome) (fields : Fields) (phase : String) :
    let done := enforceOperations (some fields) rules phase
    (done.count = rules.flatten.countP isKnown ↔ KeepClear rules) ∧
      (KeepClear rules →
        done.misuse = none ∧ done.fields = some (rules.flatten.foldl run fields)) ∧
      (ShareNone rules → (∀ ops ∈ rules, ∀ name ∈ headers ops, Text.Plain name.toList) →
        KeepClear rules) := by
  intro done
  have hdone : done = _ := enforceOperations_of_named hnamed fields phase
  have hall : ∀ op ∈ rules.flatten, op.header.isSome := by
    intro op hop
    obtain ⟨ops, hops, hmem⟩ := List.mem_flatten.1 hop
    exact hnamed ops hops op hmem
  have hsublist : (granted rules).Sublist (asked rules.flatten) := grantedBehind_sublist [] rules
  rw [hdone, ← Operation.length_asked hall, Operation.foldl_run]
  refine ⟨hsublist.length_eq.trans granted_eq_iff, fun hclear => ?_, keepClear_of_plain⟩
  rw [granted_eq_iff.2 hclear]
  exact ⟨rfl, rfl⟩

/-- Rules that share no header, with small letters outside ASCII in their names, and an operation
that none knows. -/
def ownHeaders : List (List Operation) :=
  [[⟨some "X-Größe", "3", .set⟩, ⟨some "x-größe", "4", .append⟩],
    [⟨some "X-GRöSSE", "5", .set⟩, ⟨some "X-Seen", "no", .unknown (some "merge")⟩],
    [⟨some "Cookie", "", .remove⟩]]

theorem enforceOperations_all_ownHeaders :
    let done := enforceOperations (some [("Host", "a"), ("cookie", "b")]) ownHeaders "request"
    done.count = 4 ∧ done.misuse = none ∧
      done.fields = some [("Host", "a"), ("X-Größe", "3, 4"), ("X-GRöSSE", "5")] := by
  intro done
  have hnamed : ∀ ops ∈ ownHeaders, ∀ op ∈ ops, op.header.isSome := by decide
  obtain ⟨hcount, hfields, hclear⟩ :=
    enforceOperations_all hnamed [("Host", "a"), ("cookie", "b")] "request"
  have hkeep : KeepClear ownHeaders := hclear (by decide +kernel) (by decide +kernel)
  obtain ⟨hmisuse, hafter⟩ := hfields hkeep
  refine ⟨(hcount.2 hkeep).trans (by decide +kernel), hmisuse, hafter.trans ?_⟩
  decide +kernel

/-- Two rules that set headers of one spelling, but for a Kelvin sign in the first one. -/
def kelvin : List (List Operation) :=
  [[⟨some "X-\u212aey", "1", .set⟩], [⟨some "X-Key", "2", .set⟩]]

/-- The rules share no header, and yet the second one does nothing. -/
theorem not_all_kelvin :
    ShareNone kelvin ∧ kelvin.flatten.countP isKnown = 2 ∧
      (enforceOperations (some []) kelvin "request").count = 1 ∧
      (enforceOperations (some []) kelvin "request").fields = some [("X-\u212aey", "1")] := by
  decide +kernel

/-- A rule that sets a header whose name is not plain keeps some later rule from its own header,
although the two share none. -/
theorem exists_kept_from {name : String} (h : ¬Text.Plain name.toList) :
    ∃ other, Text.Plain other.toList ∧ ∀ value otherValue fields phase,
      let rules := [[⟨some name, value, .set⟩], [⟨some other, otherValue, .set⟩]]
      ShareNone rules ∧
        (enforceOperations (some fields) rules phase).fields = some (fields.set name value) := by
  have hkey : claimKey (String.ofList (Text.lower name.toList)) = claimKey name := by
    rw [claimKey, String.toList_ofList, Text.lower_lower]
    rfl
  have hname : sameName name (String.ofList (Text.lower name.toList)) = false := by
    rw [Bool.eq_false_iff, Ne, Fields.sameName_iff, Fields.nameKey, Fields.nameKey,
      String.toList_ofList]
    exact Text.not_recased_lower h
  refine ⟨String.ofList (Text.lower name.toList), ?_, fun value otherValue fields phase => ⟨?_, ?_⟩⟩
  · rw [String.toList_ofList]
    exact Text.plain_lower name.toList
  · simpa [ShareNone, headers] using hname
  · rw [enforceOperations_of_named (by simp)]
    simp [granted, grantedBehind, asked, Operation.asked?, Operation.change?, claims, hkey,
      Change.perform]

end FirstRule

end HeaderRules
