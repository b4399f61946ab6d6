import HeaderRules.Profile.Document
import HeaderRules.Proofs.Text.Raw
/-!
# What is read of a document

For matchers, edits and profiles: what reading has to find among the entries of a mapping, all at
once and without the order in which it looks. The id of a profile that is read is never empty,
since a value that counts as present is never written as the empty text.
-/

namespace HeaderRules

/-! ## Texts of values -/

theorem Number.DecimalLayout.write_ne_nil (layout : DecimalLayout) (digits : List Char)
    (point : Int) : layout.write digits point ≠ [] := by
  unfold write
  split
  · split
    · simp
    · simp
  · simp

theorem Number.Binary64.text_ne_empty (x : Binary64) : x.text ≠ "" := by
  cases x with
  | nan => decide
  | infinite negative => cases negative <;> decide
  | finite negative mantissa exponent =>
    rw [text, Ne, String.ofList_eq_empty_iff, List.append_eq_nil_iff, not_and]
    intro _
    split
    · simp
    · exact DecimalLayout.write_ne_nil _ _ _

theorem Number.toString_ne_empty (n : Int) : toString n ≠ "" := by
  have hnat (m : Nat) : m.repr ≠ "" := by
    rw [Nat.repr, Ne, String.ofList_eq_empty_iff]
    exact Nat.toDigits_ne_nil
  cases n with
  | ofNat m => exact hnat m
  | negSucc m =>
    change "-" ++ m.succ.repr ≠ ""
    simp

theorem RawText.ofString_ne_nil {s : String} (h : s ≠ "") : ofString s ≠ [] := by
  simpa [ofString] using h

theorem Scalar.toRaw_ne_nil {s : Scalar} (h : s.isTruthy = true) : s.toRaw ≠ [] := by
  cases s with
  | null => cases h
  | bool b => cases b <;> decide
  | int n => exact RawText.ofString_ne_nil (Number.toString_ne_empty n)
  | float x => exact RawText.ofString_ne_nil x.text_ne_empty
  | text s => exact RawText.ofString_ne_nil (by simpa [isTruthy, toText] using h)
  | ragged t =>
    have hhalves := t.property
    rintro (hnil : t.val = [])
    rw [hnil] at hhalves
    cases hhalves
  | bytes bs => exact RawText.ofString_ne_nil (by simp [toText, nested])
  | date d => exact RawText.ofString_ne_nil (by simp [toText, Calendar.Date.text])
  | moment m => exact RawText.ofString_ne_nil (by simp [toText, Calendar.Moment.text])

theorem Value.toRaw_ne_nil {v : Value} (h : v.isTruthy = true) : v.toRaw ≠ [] := by
  cases v with
  | scalar s => exact Scalar.toRaw_ne_nil h
  | list items => exact RawText.ofString_ne_nil (by simp [nested])
  | map entries => exact RawText.ofString_ne_nil (by simp [nested])
  | set items => exact RawText.ofString_ne_nil (by cases items <;> simp [nested])
  | pair first second => exact RawText.ofString_ne_nil (by simp [nested])
  | again isMap => exact RawText.ofString_ne_nil (by cases isMap <;> simp [nested])

@[simp]
theorem Scalar.toRaw_ofRaw (t : RawText) : (Scalar.ofRaw t).toRaw = t := by
  unfold ofRaw
  split
  · rfl
  · rename_i hcharacters
    exact RawText.ofString_patched (by simpa using hcharacters)

theorem Scalar.isTruthy_ofRaw {t : RawText} (h : t ≠ []) : (Scalar.ofRaw t).isTruthy = true := by
  unfold ofRaw
  split
  · rfl
  · simpa [isTruthy, RawText.patched] using h

@[simp]
theorem Scalar.isWritable_ofRaw (t : RawText) : (Scalar.ofRaw t).isWritable = true := by
  unfold ofRaw
  split <;> rfl

theorem Value.asId_eq_ok {v : Value} {id : RawText} :
    v.asId = .ok id ↔ v.isWritable = true ∧ v.toRaw = id := by
  unfold asId
  by_cases hwritable : v.isWritable = true <;> simp [hwritable]

theorem Value.asId_raw (t : RawText) : (raw t).asId = .ok t :=
  asId_eq_ok.2 ⟨Scalar.isWritable_ofRaw t, Scalar.toRaw_ofRaw t⟩

/-! ## Matchers and edits -/

namespace Matcher

/-- A matcher is what is read of some entries. -/
structure ReadOf (entries : Entries) (m : Matcher) : Prop where
  id : Value.idAt entries = .ok m.id
  filter : ∃ text, Value.textAt entries "urlFilter" = .ok text ∧
    m.filter = if text = "" then matchAllFilter else text
  types : ∃ items, Value.listAt entries .matcher "resourceTypes" = .ok items ∧
    items.mapM Value.written = .ok m.types

theorem ofValue_eq_ok {v : Value} {m : Matcher} :
    ofValue v = .ok m ↔ ∃ entries, v.mapping .matcher = .ok entries ∧ m.ReadOf entries := by
  simp only [ofValue, Outcome.bind_eq_ok]
  constructor
  · rintro ⟨entries, hentries, id, hid, text, htext, items, hitems, types, htypes, h⟩
    obtain rfl := Except.ok.inj h
    exact ⟨entries, hentries, hid, ⟨text, htext, rfl⟩, items, hitems, htypes⟩
  · rintro ⟨entries, hentries, hid, ⟨text, htext, hfilter⟩, items, hitems, htypes⟩
    refine ⟨entries, hentries, m.id, hid, text, htext, items, hitems, m.types, htypes, ?_⟩
    rw [← hfilter]
    rfl

end Matcher

namespace Edit

structure ReadOf (entries : Entries) (e : Edit) : Prop where
  id : Value.idAt entries = .ok e.id
  header : ∃ name, Value.labelAt entries "header" = .ok name ∧ e.header = some name
  value : Value.textAt entries "value" = .ok e.value
  enabled : e.enabled = .bool (isOn ((Value.lookup entries "enabled").getD .null))

theorem ofValue_eq_ok {v : Value} {e : Edit} :
    ofValue v = .ok e ↔ ∃ entries, v.mapping .edit = .ok entries ∧ e.ReadOf entries := by
  simp only [ofValue, Outcome.bind_eq_ok]
  constructor
  · rintro ⟨entries, hentries, id, hid, name, hname, value, hvalue, h⟩
    obtain rfl := Except.ok.inj h
    exact ⟨entries, hentries, hid, ⟨name, hname, rfl⟩, hvalue, rfl⟩
  · rintro ⟨entries, hentries, hid, ⟨name, hname, hheader⟩, hvalue, henabled⟩
    refine ⟨entries, hentries, e.id, hid, name, hname, e.value, hvalue, ?_⟩
    rw [← hheader, ← henabled]
    rfl

end Edit

/-! ## Profiles -/

namespace Profile

structure ReadOf (entries : Entries) (p : Profile) : Prop where
  id : idIn entries = .ok p.id
  enabled : p.enabled = ((Value.lookup entries "enabled").map Value.isTruthy).getD false
  matchers : ∃ items, Value.listAt entries .profile "matchers" = .ok items ∧
    items.mapM Matcher.ofValue = .ok p.matchers
  requestEdits : ∃ items, Value.listAt entries .profile "requestHeaders" = .ok items ∧
    items.mapM Edit.ofValue = .ok p.requestEdits
  responseEdits : ∃ items, Value.listAt entries .profile "responseHeaders" = .ok items ∧
    items.mapM Edit.ofValue = .ok p.responseEdits
  name : Value.labelAt entries "name" = .ok p.name
  color : Value.labelAt entries "color" = .ok p.color
  notes : Value.labelAt entries "notes" = .ok p.notes

theorem ofValue_eq_ok {v : Value} {p : Profile} :
    ofValue v = .ok p ↔ ∃ entries, v.mapping .profile = .ok entries ∧ p.ReadOf entries := by
  simp only [ofValue, Outcome.bind_eq_ok]
  constructor
  · rintro ⟨entries, hentries, id, hid, ms, hms, matchers, hmatchers, qs, hqs, requests, hrequests,
      ss, hss, responses, hresponses, name, hname, color, hcolor, notes, hnotes, h⟩
    obtain rfl := Except.ok.inj h
    exact ⟨entries, hentries, hid, rfl, ⟨ms, hms, hmatchers⟩, ⟨qs, hqs, hrequests⟩,
      ⟨ss, hss, hresponses⟩, hname, hcolor, hnotes⟩
  · rintro ⟨entries, hentries, hid, henabled, ⟨ms, hms, hmatchers⟩, ⟨qs, hqs, hrequests⟩,
      ⟨ss, hss, hresponses⟩, hname, hcolor, hnotes⟩
    refine ⟨entries, hentries, p.id, hid, ms, hms, p.matchers, hmatchers, qs, hqs, p.requestEdits,
      hrequests, ss, hss, p.responseEdits, hresponses, p.name, hname, p.color, hcolor, p.notes,
      hnotes, ?_⟩
    rw [← henabled]
    rfl

theorem idIn_eq_ok {entries : Entries} {id : RawText} :
    idIn entries = .ok id ↔
      ∃ v, Value.lookup entries "id" = some v ∧ v.isTruthy = true ∧ v.asId = .ok id := by
  unfold idIn
  cases Value.lookup entries "id" with
  | none => simp
  | some v => by_cases htruthy : v.isTruthy = true <;> simp [htruthy]

theorem id_ne_nil_of_ofValue {v : Value} {p : Profile} (h : ofValue v = .ok p) : p.id ≠ [] := by
  obtain ⟨entries, -, hread⟩ := ofValue_eq_ok.1 h
  obtain ⟨id, -, htruthy, hid⟩ := idIn_eq_ok.1 hread.id
  obtain ⟨-, htext⟩ := Value.asId_eq_ok.1 hid
  rw [← htext]
  exact Value.toRaw_ne_nil htruthy

end Profile

end HeaderRules
