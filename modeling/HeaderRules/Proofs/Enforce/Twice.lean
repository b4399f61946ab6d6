import HeaderRules.Proofs.Enforce.Exchange
import HeaderRules.Proofs.Enforce.FirstRule
/-!
# Operations carried out twice

Operations that set headers change a message once. The first time, the fields of a name may become
one field, or a new field may come at the end; after that every name that is set has one field,
which keeps its place, and the value that it gets in the end is the value that it has.
-/

namespace HeaderRules

namespace Fields

def names (fields : Fields) : List String := fields.map (·.1)

variable {fields : Fields} {name value : String}

theorem length_values (fields : Fields) (name : String) :
    (fields.values name).length = fields.names.countP (sameName · name) := by
  rw [values, names, List.length_map, List.countP_map, List.countP_eq_length_filter]
  rfl

theorem values_cons (field : String × String) (rest : Fields) (name : String) :
    values (field :: rest) name =
      if sameName field.1 name then field.2 :: values rest name else values rest name := by
  cases h : sameName field.1 name <;> simp [values, h]

/-- Fields are the same if they have the same names in the same places and every name has the same
values. -/
theorem eq_of_names_eq {a b : Fields} (hnames : a.names = b.names)
    (hvalues : ∀ name, a.values name = b.values name) : a = b := by
  induction a generalizing b with
  | nil => exact (List.map_eq_nil_iff.1 hnames.symm).symm
  | cons field rest ih =>
    obtain ⟨other, others, rfl, hname, hrest⟩ := List.map_eq_cons_iff.1 hnames.symm
    have hfirst : field.2 = other.2 := by
      have hown := hvalues field.1
      rw [values_cons, values_cons, hname, if_pos (sameName_refl _),
        if_pos (sameName_refl _)] at hown
      exact (List.cons.inj hown).1
    obtain rfl : field = other := Prod.ext hname.symm hfirst
    have htail : rest = others := by
      refine ih hrest.symm fun name => ?_
      have hboth := hvalues name
      rw [values_cons, values_cons] at hboth
      split at hboth
      · exact (List.cons.inj hboth).2
      · exact hboth
    rw [htail]

theorem erase_eq_self (h : fields.values name = []) : fields.erase name = fields := by
  rw [values, List.map_eq_nil_iff, List.filter_eq_nil_iff] at h
  exact List.filter_eq_self.2 fun field hfield => by simpa using h field hfield

theorem names_set (h : (fields.values name).length = 1) :
    (fields.set name value).names = fields.names := by
  induction fields with
  | nil => simp [values] at h
  | cons field rest ih =>
    rw [values_cons] at h
    by_cases hfield : sameName field.1 name = true
    · rw [if_pos hfield, List.length_cons] at h
      have hnone : values rest name = [] := List.length_eq_zero_iff.1 (by omega)
      rw [set, if_pos hfield, erase_eq_self hnone]
      rfl
    · rw [if_neg hfield] at h
      have hrest := ih h
      unfold names at hrest ⊢
      rw [set, if_neg hfield, List.map_cons, List.map_cons, hrest]

end Fields

namespace Change

open HeaderRules.Fields (sameName sameName_refl)

def IsSet (change : Change) : Prop := ∃ name value, change = .set name value

variable {changes : List Change}

/-- The last of some changes that set a header decides on its values. -/
theorem foldl_onValues_eq (hset : ∀ change ∈ changes, change.IsSet) (hne : changes ≠ []) :
    ∃ value, ∀ values, changes.foldl onValues values = [value] := by
  obtain ⟨earlier, last, rfl⟩ := List.eq_nil_or_concat changes |>.resolve_left hne
  obtain ⟨name, value, rfl⟩ := hset last (by simp)
  exact ⟨value, fun values => by simp [onValues]⟩

theorem foldl_onValues_again (hset : ∀ change ∈ changes, change.IsSet) (values : List String) :
    changes.foldl onValues (changes.foldl onValues values) = changes.foldl onValues values := by
  by_cases hne : changes = []
  · rw [hne]
    rfl
  · obtain ⟨value, hvalue⟩ := foldl_onValues_eq hset hne
    rw [hvalue, hvalue]

theorem length_values_foldl (hset : ∀ change ∈ changes, change.IsSet) {change : Change}
    (hmem : change ∈ changes) (fields : Fields) :
    ((changes.foldl perform fields).values change.name).length = 1 := by
  have hsome : changes.filter (sameName ·.name change.name) ≠ [] :=
    List.ne_nil_of_mem (List.mem_filter.2 ⟨hmem, sameName_refl change.name⟩)
  obtain ⟨value, hvalue⟩ :=
    foldl_onValues_eq (fun other hother => hset other (List.mem_filter.1 hother).1) hsome
  rw [values_foldl_perform, hvalue]
  rfl

theorem names_foldl_perform (hset : ∀ change ∈ changes, change.IsSet) {fields : Fields}
    (hone : ∀ change ∈ changes, (fields.values change.name).length = 1) :
    (changes.foldl perform fields).names = fields.names := by
  induction changes generalizing fields with
  | nil => rfl
  | cons change rest ih =>
    obtain ⟨name, value, rfl⟩ := hset change (by simp)
    have hkept : (fields.set name value).names = fields.names :=
      Fields.names_set (hone (.set name value) (by simp))
    rw [List.foldl_cons, perform, ih (fun other hother => hset other (by simp [hother])), hkept]
    -- the names decide how many fields each header has, and they are still the same
    intro other hother
    rw [Fields.length_values, hkept, ← Fields.length_values]
    exact hone other (by simp [hother])

/-- Changes that set headers do nothing when they are made again. -/
theorem foldl_perform_again (hset : ∀ change ∈ changes, change.IsSet) (fields : Fields) :
    changes.foldl perform (changes.foldl perform fields) = changes.foldl perform fields := by
  apply Fields.eq_of_names_eq
  · exact names_foldl_perform hset fun change hmem => length_values_foldl hset hmem fields
  · intro name
    have hnamed : ∀ change ∈ changes.filter (sameName ·.name name), change.IsSet :=
      fun change hmem => hset change (List.mem_filter.1 hmem).1
    rw [values_foldl_perform, values_foldl_perform, foldl_onValues_again hnamed]

end Change

/-! ## Operations -/

theorem isSet_of_mem_selectOfRule {ops : List Operation} (hset : ∀ op ∈ ops, op.verb = .set)
    (taken : List (List Char)) :
    ∀ change ∈ (selectOfRule taken ops).changes, change.IsSet := by
  induction ops with
  | nil => simp [selectOfRule]
  | cons op rest ih =>
    have hrest := ih fun other hother => hset other (by simp [hother])
    rw [selectOfRule]
    cases op.header with
    | none => simp
    | some name =>
      have hchange : op.change? name = some (.set name op.value) := by
        rw [Operation.change?, hset op (by simp)]
      dsimp only
      split
      · exact hrest
      · rw [hchange]
        exact List.forall_mem_cons.2 ⟨⟨name, op.value, rfl⟩, hrest⟩

theorem isSet_of_mem_select {rules : List (List Operation)}
    (hset : ∀ ops ∈ rules, ∀ op ∈ ops, op.verb = .set) (taken : List (List Char)) :
    ∀ change ∈ (select taken rules).changes, change.IsSet := by
  induction rules generalizing taken with
  | nil => simp [select]
  | cons ops rest ih =>
    have hfirst := isSet_of_mem_selectOfRule (hset ops (by simp)) taken
    rw [select]
    dsimp only
    split
    · exact hfirst
    · exact List.forall_mem_append.2
        ⟨hfirst, ih (fun other hother => hset other (by simp [hother])) _⟩

theorem fields_enforceOperations (fields : Fields) (rules : List (List Operation))
    (phase : String) :
    (enforceOperations (some fields) rules phase).fields =
      some ((select [] rules).changes.foldl Change.perform fields) := by
  rw [enforceOperations]
  split <;> rfl

/-- The operations of rules that only set headers come to the same when they are carried out on what
they have made of a message. -/
theorem enforceOperations_settled {rules : List (List Operation)}
    (hset : ∀ ops ∈ rules, ∀ op ∈ ops, op.verb = .set) (fields : Fields) (phase : String) :
    let after := (select [] rules).changes.foldl Change.perform fields
    enforceOperations (some after) rules phase = enforceOperations (some fields) rules phase := by
  intro after
  have hagain : (select [] rules).changes.foldl Change.perform after = after :=
    Change.foldl_perform_again (isSet_of_mem_select hset []) fields
  simp only [enforceOperations, hagain]
  rfl

/-- The rules of a profile only set headers, so they change a request or a response once, whichever
of them apply. -/
theorem Profile.enforceOperations_twice {p : Profile} {rules matched : List Rule}
    (hrules : p.rules = .ok rules) (hmatched : ∀ rule ∈ matched, rule ∈ rules) (side : Action → List Operation)
    (hside : ∀ action : Action, ∀ op ∈ side action, op ∈ action.operations) (fields : Fields)
    (phase : String) :
    let done := enforceOperations (some fields) (matched.map (side ·.action)) phase
    enforceOperations done.fields (matched.map (side ·.action)) phase = done := by
  intro done
  have hset : ∀ ops ∈ matched.map (side ·.action), ∀ op ∈ ops, op.verb = .set := by
    intro ops hops op hop
    obtain ⟨rule, hrule, rfl⟩ := List.mem_map.1 hops
    have hmem := hside rule.action op hop
    rw [Profile.action_of_mem_rules hrules (hmatched rule hrule), Action.operations, Profile.action,
      List.mem_append] at hmem
    obtain ⟨e, -, rfl⟩ | ⟨e, -, rfl⟩ := hmem.imp List.mem_map.1 List.mem_map.1
    · rfl
    · rfl
  rw [show done.fields = _ from fields_enforceOperations fields _ phase]
  exact enforceOperations_settled hset fields phase

/-- Carrying out operations that set headers once more leaves every field in its place, with its
name and its value, and as many operations count. If all of them name a header, they are carried out
to the end, and what they leave behind has what the first rule of each header sets. -/
theorem enforceOperations_again {rules : List (List Operation)}
    (hset : ∀ ops ∈ rules, ∀ op ∈ ops, op.verb = .set) (fields : Fields) (phase : String) :
    let done := enforceOperations (some fields) rules phase
    ∃ after, done.fields = some after ∧ enforceOperations (some after) rules phase = done ∧
      ((∀ ops ∈ rules, ∀ op ∈ ops, op.header.isSome) →
        done.misuse = none ∧ FirstRule.Wins rules fields after) := by
  intro done
  refine ⟨_, fields_enforceOperations fields rules phase,
    enforceOperations_settled hset fields phase, ?_⟩
  intro hnamed
  refine ⟨FirstRule.misuse_enforceOperations hnamed fields phase, ?_⟩
  rw [FirstRule.select_of_named hnamed]
  exact FirstRule.wins rules fields

def spellings : List (List Operation) :=
  [[⟨some "X-Env", "dev", .set⟩, ⟨some "x-env", "eu", .set⟩],
    [⟨some "X-ENV", "prod", .set⟩, ⟨some "X-Seen", "yes", .set⟩]]

/-- The first time a field is lost and one is added, the second time nothing happens. -/
theorem enforceOperations_again_spellings :
    let fields := [("Host", "a"), ("x-Env", "old"), ("Via", "b"), ("X-env", "older")]
    let after := [("Host", "a"), ("x-Env", "eu"), ("Via", "b"), ("X-Seen", "yes")]
    (enforceOperations (some fields) spellings "request").fields = some after ∧
      (enforceOperations (some after) spellings "request").fields = some after ∧
      (enforceOperations (some after) spellings "request").count = 3 := by
  intro fields after
  have hset : ∀ ops ∈ spellings, ∀ op ∈ ops, op.verb = .set := by decide
  obtain ⟨found, hfound, hagain, -⟩ := enforceOperations_again hset fields "request"
  have hfirst : (enforceOperations (some fields) spellings "request").fields = some after := by
    decide +kernel
  obtain rfl : found = after := Option.some.inj (hfound.symm.trans hfirst)
  refine ⟨hfirst, ?_, ?_⟩
  · rw [hagain, hfirst]
  · rw [hagain]
    decide +kernel

end HeaderRules
