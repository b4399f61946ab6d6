import HeaderRules.Proofs.Profile.Document
/-!
# Profiles that are written and read again

A profile with an id that is written and read again comes back in plain form: a filter that was
empty is the filter of all URLs, an edit without a name has the empty one, and every switch is a
truth value. What is read of a document is in plain form already, so that writing it puts the
document into a form that stays.
-/

namespace HeaderRules

/-! ## Fields that are written as texts and lists -/

namespace Value

variable {entries : Entries} {key : String}

theorem written_text (s : String) : (text s).written = .ok s := rfl

theorem idAt_raw {id : RawText} (h : lookup entries "id" = some (.raw id)) :
    idAt entries = .ok id := by
  rw [idAt, h]
  exact asId_raw id

theorem textAt_text {s : String} (h : lookup entries key = some (.text s)) :
    textAt entries key = .ok s := by
  rw [textAt, h]
  rfl

/-- An empty text does not count as present, and what is missing is read as the empty text. -/
theorem labelAt_text {s : String} (h : lookup entries key = some (.text s)) :
    labelAt entries key = .ok s := by
  simp only [labelAt, h]
  by_cases hempty : s = ""
  · subst hempty
    rfl
  · have htruthy : (text s).isTruthy = true := by simpa [isTruthy, Scalar.isTruthy] using hempty
    rw [if_pos htruthy, written_text]

theorem labelAt_null (h : lookup entries key = some .null) : labelAt entries key = .ok "" := by
  rw [labelAt, h]
  rfl

theorem listAt_list {part : Part} {items : List Value}
    (h : lookup entries key = some (.list items)) : listAt entries part key = .ok items := by
  rw [listAt, h]

theorem listAt_missing {part : Part} (h : lookup entries key = none) :
    listAt entries part key = .ok [] := by
  rw [listAt, h]

end Value

/-! ## Matchers -/

namespace Matcher

/-- A matcher with a filter that is not empty. -/
def plain (m : Matcher) : Matcher :=
  { m with filter := if m.filter = "" then matchAllFilter else m.filter }

theorem plain_of_ofValue {v : Value} {m : Matcher} (h : ofValue v = .ok m) : m.plain = m := by
  obtain ⟨entries, -, hread⟩ := ofValue_eq_ok.1 h
  obtain ⟨text, -, hfilter⟩ := hread.filter
  have hne : m.filter ≠ "" := by
    by_cases hempty : text = ""
    · simp [hfilter, hempty, matchAllFilter]
    · simp [hfilter, hempty]
  simp [plain, hne]

theorem ofValue_toValue (m : Matcher) : ofValue m.toValue = .ok m.plain := by
  obtain ⟨id, filter, types⟩ := m
  refine ofValue_eq_ok.2 ⟨_, rfl, ?_⟩
  refine ⟨Value.idAt_raw rfl, ⟨filter, Value.textAt_text rfl, rfl⟩, ?_⟩
  cases types with
  | nil =>
    -- without types there is no entry of that name
    exact ⟨[], Value.listAt_missing rfl, rfl⟩
  | cons type rest =>
    refine ⟨_, Value.listAt_list rfl, ?_⟩
    rw [Outcome.mapM_map_eq_ok fun s _ => Value.written_text s, List.map_id']
    rfl

end Matcher

/-! ## Edits -/

namespace Edit

/-- An edit with a name and a truth value for a switch. -/
def plain (e : Edit) : Edit :=
  { e with header := some (e.header.getD ""), enabled := .bool (isOn e.enabled) }

theorem plain_of_ofValue {v : Value} {e : Edit} (h : ofValue v = .ok e) : e.plain = e := by
  obtain ⟨entries, -, hread⟩ := ofValue_eq_ok.1 h
  obtain ⟨name, -, hheader⟩ := hread.header
  have hswitch (b : Bool) : isOn (.bool b) = b := by cases b <;> rfl
  have hname : some (e.header.getD "") = e.header := by rw [hheader, Option.getD_some]
  have henabled : Value.bool (isOn e.enabled) = e.enabled := by rw [hread.enabled, hswitch]
  rw [plain, hname, henabled]

theorem ofValue_toValue (e : Edit) : ofValue e.toValue = .ok e.plain := by
  obtain ⟨id, header, value, enabled⟩ := e
  refine ofValue_eq_ok.2 ⟨_, rfl, ?_⟩
  refine ⟨Value.idAt_raw rfl, ⟨header.getD "", ?_, rfl⟩, Value.textAt_text rfl, rfl⟩
  cases header with
  | none => exact Value.labelAt_null rfl
  | some name => exact Value.labelAt_text rfl

end Edit

/-! ## Profiles -/

namespace Profile

def plain (p : Profile) : Profile :=
  { p with
    matchers := p.matchers.map Matcher.plain
    requestEdits := p.requestEdits.map Edit.plain
    responseEdits := p.responseEdits.map Edit.plain }

theorem plain_of_ofValue {v : Value} {p : Profile} (h : ofValue v = .ok p) : p.plain = p := by
  obtain ⟨entries, -, hread⟩ := ofValue_eq_ok.1 h
  obtain ⟨_, -, hms⟩ := hread.matchers
  obtain ⟨_, -, hqs⟩ := hread.requestEdits
  obtain ⟨_, -, hss⟩ := hread.responseEdits
  have hmatchers : p.matchers.map Matcher.plain = p.matchers :=
    Outcome.map_eq_self_of_mapM_eq_ok hms fun _ _ => Matcher.plain_of_ofValue
  have hedits {items : List Value} {es : List Edit} (hes : items.mapM Edit.ofValue = .ok es) :
      es.map Edit.plain = es :=
    Outcome.map_eq_self_of_mapM_eq_ok hes fun _ _ => Edit.plain_of_ofValue
  rw [plain, hmatchers, hedits hqs, hedits hss]

theorem idIn_raw {entries : Entries} {id : RawText}
    (h : Value.lookup entries "id" = some (.raw id)) (hid : id ≠ []) : idIn entries = .ok id :=
  idIn_eq_ok.2 ⟨_, h, Scalar.isTruthy_ofRaw hid, Value.asId_raw id⟩

theorem ofValue_toValue {p : Profile} (hid : p.id ≠ []) : ofValue p.toValue = .ok p.plain := by
  have hmatchers : (p.matchers.map Matcher.toValue).mapM Matcher.ofValue = .ok p.plain.matchers :=
    Outcome.mapM_map_eq_ok fun m _ => m.ofValue_toValue
  have hedits (es : List Edit) :
      (es.map Edit.toValue).mapM Edit.ofValue = .ok (es.map Edit.plain) :=
    Outcome.mapM_map_eq_ok fun e _ => e.ofValue_toValue
  refine ofValue_eq_ok.2 ⟨_, rfl, ?_⟩
  exact {
    id := idIn_raw rfl hid
    enabled := rfl
    matchers := ⟨_, Value.listAt_list rfl, hmatchers⟩
    requestEdits := ⟨_, Value.listAt_list rfl, hedits p.requestEdits⟩
    responseEdits := ⟨_, Value.listAt_list rfl, hedits p.responseEdits⟩
    name := Value.labelAt_text rfl
    color := Value.labelAt_text rfl
    notes := Value.labelAt_text rfl }

/-- Puts a document into the form in which the profile that is read of it is written. -/
def normalize (v : Value) : Except DocumentFault Value := (ofValue v).map toValue

/-- What is read of any value that can be read as a profile is read again, in every field, from what
is written of it. Writing what was read is therefore done once and for all: the second time it
changes nothing. -/
theorem ofValue_toValue_of_ofValue {v : Value} {p : Profile} (h : ofValue v = .ok p) :
    ofValue p.toValue = .ok p ∧ normalize v = .ok p.toValue ∧
      normalize p.toValue = .ok p.toValue := by
  have hid : p.id ≠ [] := id_ne_nil_of_ofValue h
  have hagain : ofValue p.toValue = .ok p := by rw [ofValue_toValue hid, plain_of_ofValue h]
  refine ⟨hagain, ?_, ?_⟩
  · rw [normalize, h, Outcome.map_ok]
  · rw [normalize, hagain, Outcome.map_ok]

/-- A document that says little in the way in which profiles are written: numbers and lists stand
for texts, and much is null, left out or beside the point. -/
def looseDocument : Value :=
  .map [(.text "id", .list [.int (-7), .null]), (.int 3, .text "beside the point"),
    (.text "enabled", .text "no"), (.text "name", .bool false), (.text "color", .map []),
    (.text "matchers",
      .list [.map [(.text "urlFilter", .int 3002), (.text "resourceTypes", .list [.bool true])],
        .map [(.text "id", .null), (.text "urlFilter", .text "")]]),
    (.text "requestHeaders",
      .list [.map [(.text "header", .int 0), (.text "enabled", .null)],
        .map [(.text "header", .text " "), (.text "value", .bool false),
          (.text "enabled", .bool false)]]),
    (.text "responseHeaders", .null)]

def looseProfile : Profile where
  id := "[-7, None]"
  enabled := true
  matchers := [⟨"", "3002", ["True"]⟩, ⟨"None", "*", []⟩]
  requestEdits := [⟨"", some "", "", .bool true⟩, ⟨"", some " ", "False", .bool false⟩]
  responseEdits := []
  name := ""
  color := ""
  notes := ""

theorem ofValue_toValue_of_ofValue_loose :
    ofValue looseDocument = .ok looseProfile ∧ ofValue looseProfile.toValue = .ok looseProfile ∧
      normalize looseDocument = .ok looseProfile.toValue := by
  have hread : ofValue looseDocument = .ok looseProfile := by with_unfolding_all rfl
  obtain ⟨hagain, hnormal, -⟩ := ofValue_toValue_of_ofValue hread
  exact ⟨hread, hagain, hnormal⟩

end Profile

end HeaderRules
