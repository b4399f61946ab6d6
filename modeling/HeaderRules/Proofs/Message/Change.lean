import HeaderRules.Message.Change
import HeaderRules.Proofs.Message.Fields
/-!
# Changes on a message

Changes of different headers have nothing to do with each other: what a list of changes makes of one
header is what those of its changes make that name the header. The changes of a rule are those that
its operations ask for, apart from headers that are taken.
-/

namespace HeaderRules

namespace Change

open HeaderRules.Fields (sameName sameName_symm)

@[simp]
theorem name_set (name value : String) : (set name value).name = name := rfl

/-- What a change makes of the values of the header that it names. -/
def onValues (values : List String) : Change → List String
  | set _ value => [value]
  | append _ value => [Fields.joined values value]
  | remove _ => []

theorem values_perform_self {change : Change} {name : String}
    (h : sameName change.name name = true) (fields : Fields) :
    (perform fields change).values name = onValues (fields.values name) change := by
  cases change with
  | set own value => exact Fields.values_set_self h
  | append own value =>
    have hown : fields.values own = fields.values name := Fields.values_congr fields h
    rw [perform, Fields.append_eq_set, hown]
    exact Fields.values_set_self h
  | remove own => exact Fields.values_erase fields h

theorem values_perform_other {change : Change} {name : String}
    (h : sameName change.name name = false) (fields : Fields) :
    (perform fields change).values name = fields.values name := by
  cases change with
  | set own value => exact Fields.values_set_other h
  | append own value =>
    rw [perform, Fields.append_eq_set]
    exact Fields.values_set_other h
  | remove own => exact Fields.values_erase_other h

theorem values_foldl_perform (changes : List Change) (fields : Fields) (name : String) :
    (changes.foldl perform fields).values name =
      (changes.filter (sameName ·.name name)).foldl onValues (fields.values name) := by
  induction changes generalizing fields with
  | nil => rfl
  | cons change rest ih =>
    rw [List.foldl_cons, ih]
    cases hname : sameName change.name name with
    | true =>
      rw [values_perform_self hname, List.filter_cons, if_pos hname, List.foldl_cons]
    | false =>
      rw [values_perform_other hname, List.filter_cons, if_neg (by simp [hname])]

theorem filter_perform {change : Change} {p : String → Bool}
    (h : ∀ name, sameName change.name name = true → p name = false) (fields : Fields) :
    (perform fields change).filter (p ·.1) = fields.filter (p ·.1) := by
  have hother : ∀ name, sameName name change.name = true → p name = false :=
    fun name hname => h name (sameName_symm hname)
  cases change with
  | set own value => exact Fields.filter_set hother
  | append own value =>
    rw [perform, Fields.append_eq_set]
    exact Fields.filter_set hother
  | remove own => exact Fields.filter_erase hother

/-- Changes leave the fields of all headers that none of them names as they are, in order. -/
theorem filter_foldl_perform {changes : List Change} {p : String → Bool}
    (h : ∀ change ∈ changes, ∀ name, sameName change.name name = true → p name = false)
    (fields : Fields) : (changes.foldl perform fields).filter (p ·.1) = fields.filter (p ·.1) := by
  induction changes generalizing fields with
  | nil => rfl
  | cons change rest ih =>
    have hrest := ih (fun other hother => h other (by simp [hother])) (perform fields change)
    rw [List.foldl_cons, hrest, filter_perform (h change (by simp))]

end Change

/-! ## Which operations are carried out -/

namespace Operation

/-- The change that an operation asks for, if it has a known verb. -/
def asked? (op : Operation) : Option Change := op.header.bind op.change?

def asked (ops : List Operation) : List Change := ops.filterMap asked?

theorem change?_name {op : Operation} {name : String} {change : Change}
    (h : op.change? name = some change) : change.name = name := by
  unfold change? at h
  split at h <;> cases h <;> rfl

/-- Of the changes that one rule asks for, those of headers that are not taken are selected. -/
theorem selectOfRule_eq {ops : List Operation} (h : ∀ op ∈ ops, op.header.isSome)
    (taken : List (List Char)) :
    selectOfRule taken ops =
      ⟨(asked ops).filter fun change => !taken.contains (claimKey change.name), false⟩ := by
  induction ops with
  | nil => rfl
  | cons op rest ih =>
    have hrest := ih fun other hother => h other (by simp [hother])
    obtain ⟨name, hname⟩ := Option.isSome_iff_exists.1 (h op (by simp))
    have hasked : op.asked? = op.change? name := by simp [asked?, hname]
    cases hchange : op.change? name with
    | none => simp [selectOfRule, hname, hchange, hrest, asked, hasked]
    | some change =>
      have hkey : claimKey change.name = claimKey name := by rw [change?_name hchange]
      by_cases htaken : claimKey name ∈ taken
      · simp [selectOfRule, hname, hrest, asked, hasked, hchange, hkey, htaken]
      · simp [selectOfRule, hname, hchange, hrest, asked, hasked, hkey, htaken]

end Operation

end HeaderRules
