import HeaderRules.Message.Fields
/-!
# Setting fields

The header of a message as a map from names to lists of values: setting a name makes one value the
only one of it and leaves the fields of all other names in place.
-/

namespace HeaderRules.Fields

theorem sameName_iff {a b : String} : sameName a b = true ↔ nameKey a = nameKey b := by
  simp [sameName]

theorem sameName_refl (name : String) : sameName name name = true := sameName_iff.2 rfl

theorem sameName_symm {a b : String} (h : sameName a b = true) : sameName b a = true :=
  sameName_iff.2 (sameName_iff.1 h).symm

theorem sameName_trans {a b c : String} (hab : sameName a b = true) (hbc : sameName b c = true) :
    sameName a c = true :=
  sameName_iff.2 ((sameName_iff.1 hab).trans (sameName_iff.1 hbc))

theorem values_erase (fields : Fields) {name other : String} (h : sameName name other = true) :
    (fields.erase name).values other = [] := by
  unfold values erase
  rw [List.filter_filter, List.map_eq_nil_iff, List.filter_eq_nil_iff]
  intro field _
  by_cases hother : sameName field.1 other = true
  · simp [hother, sameName_trans hother (sameName_symm h)]
  · simp [hother]

/-- A name that has been set has one value. -/
theorem values_set_self {fields : Fields} {name other value : String}
    (h : sameName name other = true) : (fields.set name value).values other = [value] := by
  induction fields with
  | nil => simp [set, values, h]
  | cons field rest ih =>
    by_cases hfield : sameName field.1 name = true
    · have hrest := values_erase rest h
      rw [set, if_pos hfield]
      unfold values at hrest ⊢
      simp [sameName_trans hfield h, hrest]
    · have hother : sameName field.1 other = false := by
        rw [Bool.eq_false_iff]
        exact fun heq => hfield (sameName_trans heq (sameName_symm h))
      rw [set, if_neg hfield]
      unfold values at ih ⊢
      simpa [hother] using ih

/-- Dropping a name leaves the fields of all other names as they are, in order. -/
theorem filter_erase {fields : Fields} {name : String} {p : String → Bool}
    (h : ∀ other, sameName other name = true → p other = false) :
    (fields.erase name).filter (p ·.1) = fields.filter (p ·.1) := by
  unfold erase
  rw [List.filter_filter]
  apply List.filter_congr
  intro other _
  cases hname : sameName other.1 name with
  | true => simp [h other.1 hname]
  | false => simp

/-- Setting a name leaves the fields of all other names as they are, in order. -/
theorem filter_set {fields : Fields} {name value : String} {p : String → Bool}
    (h : ∀ other, sameName other name = true → p other = false) :
    (fields.set name value).filter (p ·.1) = fields.filter (p ·.1) := by
  induction fields with
  | nil => simp [set, h name (sameName_refl name)]
  | cons field rest ih =>
    by_cases hfield : sameName field.1 name = true
    · rw [set, if_pos hfield]
      simpa [h field.1 hfield] using filter_erase h
    · rw [set, if_neg hfield, List.filter_cons, List.filter_cons, ih]

theorem sameName_eq_false {name other : String} (h : sameName name other = false) (third : String)
    (hthird : sameName third name = true) : sameName third other = false := by
  rw [Bool.eq_false_iff] at h ⊢
  exact fun heq => h (sameName_trans (sameName_symm hthird) heq)

theorem values_set_other {fields : Fields} {name other value : String}
    (h : sameName name other = false) :
    (fields.set name value).values other = fields.values other := by
  unfold values
  rw [filter_set (p := (sameName · other)) (sameName_eq_false h)]

theorem values_erase_other {fields : Fields} {name other : String}
    (h : sameName name other = false) : (fields.erase name).values other = fields.values other := by
  unfold values
  rw [filter_erase (p := (sameName · other)) (sameName_eq_false h)]

theorem values_congr (fields : Fields) {name other : String} (h : sameName name other = true) :
    fields.values name = fields.values other := by
  have hkey : nameKey name = nameKey other := sameName_iff.1 h
  simp only [values, sameName, hkey]

theorem has_iff {fields : Fields} {name : String} :
    fields.has name = true ↔ fields.values name ≠ [] := by
  simp [has, values]

/-- The one value that is left of the values of a name when another is added to them. -/
def joined (values : List String) (value : String) : String :=
  if String.intercalate ", " values = "" then value
  else String.intercalate ", " values ++ ", " ++ value

theorem append_eq_set (fields : Fields) (name value : String) :
    fields.append name value = fields.set name (joined (fields.values name) value) := by
  unfold append joined
  by_cases hhas : fields.has name = true
  · have hget : fields.get? name = some (String.intercalate ", " (fields.values name)) :=
      if_pos hhas
    rw [hget]
    generalize String.intercalate ", " (fields.values name) = found
    by_cases hempty : found = ""
    · simp [hempty]
    · simp [hempty]
  · have hget : fields.get? name = none := if_neg hhas
    have hnone : fields.values name = [] := by simpa [has_iff] using hhas
    rw [hget, hnone]
    rfl

end HeaderRules.Fields
