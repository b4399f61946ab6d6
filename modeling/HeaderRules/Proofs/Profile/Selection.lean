import HeaderRules.Proofs.Profile.Document
/-!
# The profile in use of a document

The ids of profiles are texts, whatever the document writes for them. The id that marks the profile
in use stays what it is in the document, so that only a text marks a profile.
-/

namespace HeaderRules

namespace Profile

/-- Whether an entry of a profile list is switched on and has an id that is written as a name. -/
def isNamed (name : RawText) : Value → Bool
  | .map fields =>
    ((Value.lookup fields "enabled").map Value.isTruthy).getD false &&
      (Value.lookup fields "id").any fun id => id.isWritable && id.toRaw == name
  | _ => false

theorem isNamed_of_ofValue {v : Value} {p : Profile} (h : ofValue v = .ok p) (name : RawText) :
    (p.id == name && p.enabled) = isNamed name v := by
  obtain ⟨fields, hfields, hread⟩ := ofValue_eq_ok.1 h
  obtain ⟨id, hlookup, -, hid⟩ := idIn_eq_ok.1 hread.id
  obtain ⟨hwritable, htext⟩ := Value.asId_eq_ok.1 hid
  cases v with
  | map entries =>
    obtain rfl := Except.ok.inj hfields
    simp [isNamed, hlookup, hwritable, htext, hread.enabled, Bool.and_comm]
  | again isMap =>
    -- a mapping inside itself is read as one without entries, so it has no id
    cases isMap with
    | true =>
      obtain rfl := Except.ok.inj hfields
      cases hlookup
    | false => cases hfields
  | scalar s => cases hfields
  | list items => cases hfields
  | set items => cases hfields
  | pair first second => cases hfields

end Profile

namespace ProfileSet

/-- The first entry of a profile list that is switched on and has a name as its id. -/
def named (items : List Value) (name : RawText) : Option Profile :=
  (items.find? (Profile.isNamed name)).bind fun item => (Profile.ofValue item).toOption

/-- The profile that a scalar would mark if it were written out as ids are. -/
def coerced (items : List Value) (mark : Scalar) : Option Profile :=
  (Value.asId (.scalar mark)).toOption.bind (named items)

theorem ofValue_map_eq_ok {entries : Entries} {set : ProfileSet}
    (h : ofValue (.map entries) = .ok set) :
    ∃ items, profilesIn entries = .ok items ∧ items.mapM Profile.ofValue = .ok set.profiles ∧
      set.activeId =
        let marked := (Value.lookup entries "activeProfileId").getD .null
        if marked.isTruthy then marked else .null := by
  obtain ⟨fields, hfields, h⟩ := Outcome.bind_eq_ok.1 h
  obtain rfl := Except.ok.inj hfields
  obtain ⟨items, hitems, h⟩ := Outcome.bind_eq_ok.1 h
  obtain ⟨profiles, hprofiles, h⟩ := Outcome.bind_eq_ok.1 h
  obtain rfl := Except.ok.inj h
  exact ⟨items, hitems, hprofiles, rfl⟩

theorem ofRaw_beq_ofRaw (s t : RawText) : (Scalar.ofRaw s == Scalar.ofRaw t) = (t == s) := by
  rw [Bool.eq_iff_iff, beq_iff_eq, beq_iff_eq]
  refine ⟨fun h => ?_, fun h => h ▸ rfl⟩
  rw [← Scalar.toRaw_ofRaw s, h, Scalar.toRaw_ofRaw]

theorem active_of_text {set : ProfileSet} {items : List Value} {name : RawText}
    (hprofiles : items.mapM Profile.ofValue = .ok set.profiles)
    (hmark : set.activeId = .raw name) : set.active = named items name := by
  simp only [active, hmark, marks, ofRaw_beq_ofRaw]
  exact Outcome.find?_of_mapM_eq_ok hprofiles fun v p hp => Profile.isNamed_of_ofValue hp name

theorem active_of_scalar {set : ProfileSet} {mark : Scalar}
    (hmark : set.activeId = .scalar mark) (htext : ∀ name, mark ≠ .ofRaw name) :
    set.active = none := by
  rw [active, List.find?_eq_none]
  intro p _
  simp [hmark, marks, htext p.id]

/-- A document with one profile, which is switched on and has the scalar as its id that marks the
profile in use. -/
def marking (mark : Scalar) : Entries :=
  [(.text "activeProfileId", .scalar mark),
    (.text "profiles", .list [.map [(.text "id", .scalar mark), (.text "enabled", .bool true)]])]

def marked (mark : Scalar) : Profile := ⟨mark.toRaw, true, [], [], [], "", "", ""⟩

section

variable {mark : Scalar} (htruthy : mark.isTruthy) (hwritable : mark.isWritable)

include htruthy hwritable

theorem ofValue_entry :
    Profile.ofValue (.map [(.text "id", .scalar mark), (.text "enabled", .bool true)]) =
      .ok (marked mark) := by
  have hid : Profile.idIn [(.text "id", .scalar mark), (.text "enabled", .bool true)] =
      .ok mark.toRaw := by
    have hlookup : Value.lookup [(.text "id", .scalar mark), (.text "enabled", .bool true)] "id" =
        some (.scalar mark) := rfl
    simp only [Profile.idIn, hlookup, Value.isTruthy, htruthy, Value.asId, Value.isWritable,
      hwritable, if_true, Value.toRaw]
  exact Outcome.bind_eq_ok.2 ⟨_, rfl, Outcome.bind_eq_ok.2 ⟨_, hid, rfl⟩⟩

theorem ofValue_marking :
    ofValue (.map (marking mark)) = .ok ⟨[marked mark], .scalar mark⟩ := by
  have hprofiles : [Value.map [(.text "id", .scalar mark), (.text "enabled", .bool true)]].mapM
      Profile.ofValue = .ok [marked mark] := by
    rw [List.mapM_cons, ofValue_entry htruthy hwritable]
    rfl
  have hmark : Value.lookup (marking mark) "activeProfileId" = some (.scalar mark) := rfl
  refine Outcome.bind_eq_ok.2 ⟨_, rfl, Outcome.bind_eq_ok.2 ⟨_, rfl, ?_⟩⟩
  refine Outcome.bind_eq_ok.2 ⟨_, hprofiles, ?_⟩
  simp only [hmark, Option.getD_some, Value.isTruthy, htruthy, if_true, Outcome.pure_eq]

/-- The profile of such a document has the id that its mark is written as, but it is in use only if
the mark is a text. -/
theorem active_marking :
    ∃ set items, ofValue (.map (marking mark)) = .ok set ∧
      profilesIn (marking mark) = .ok items ∧ coerced items mark = some (marked mark) ∧
      set.active = if mark = .ofRaw mark.toRaw then some (marked mark) else none := by
  refine ⟨_, _, ofValue_marking htruthy hwritable, rfl, ?_, ?_⟩
  · have hentry := ofValue_entry htruthy hwritable
    have hnamed := Profile.isNamed_of_ofValue hentry mark.toRaw
    simp only [marked, beq_self_eq_true, Bool.and_true] at hnamed
    have hid : Value.asId (.scalar mark) = .ok mark.toRaw := if_pos hwritable
    rw [coerced, hid]
    simp [named, Except.toOption, ← hnamed, hentry]
  · by_cases htext : mark = .ofRaw mark.toRaw
    · simp [active, marks, marked, ← htext]
    · simp [active, marks, marked, htext]

end

/-- A text marks the first profile that is switched on and has it as its id. Any other scalar marks
none, even where a profile has an id that is written the same. -/
theorem active_ofValue {entries : Entries} {items : List Value} {set : ProfileSet} {mark : Scalar}
    (hset : ofValue (.map entries) = .ok set) (hitems : profilesIn entries = .ok items)
    (hmark : Value.lookup entries "activeProfileId" = some (.scalar mark))
    (htruthy : mark.isTruthy) :
    (∀ name, mark = .ofRaw name → set.active = named items name) ∧
      ((∀ name, mark ≠ .ofRaw name) → set.active = none) ∧
      (set.active = coerced items mark ↔
        (∃ name, mark = .ofRaw name) ∨ coerced items mark = none) := by
  obtain ⟨found, hfound, hprofiles, hid⟩ := ofValue_map_eq_ok hset
  obtain rfl : items = found := Except.ok.inj (hitems.symm.trans hfound)
  have hactive : set.activeId = .scalar mark := by
    rw [hid, hmark]
    exact if_pos htruthy
  have htext : ∀ name, mark = .ofRaw name → set.active = named items name := by
    rintro name rfl
    exact active_of_text hprofiles hactive
  have hother : (∀ name, mark ≠ .ofRaw name) → set.active = none := active_of_scalar hactive
  refine ⟨htext, hother, ?_⟩
  by_cases h : ∃ name, mark = .ofRaw name
  · obtain ⟨name, rfl⟩ := h
    rw [htext name rfl, coerced, Value.asId_raw]
    exact ⟨fun _ => .inl ⟨name, rfl⟩, fun _ => rfl⟩
  · rw [hother fun name hname => h ⟨name, hname⟩, or_iff_right h]
    exact eq_comm

/-- A document that marks a profile by a text. -/
theorem active_ofValue_text :
    ∃ set items, ofValue (.map (marking (.text "p"))) = .ok set ∧
      profilesIn (marking (.text "p")) = .ok items ∧ set.active = named items "p" := by
  have hset : ofValue (.map (marking (.text "p"))) = .ok ⟨[marked (.text "p")], .text "p"⟩ :=
    ofValue_marking rfl rfl
  have hmark : Scalar.text "p" = .ofRaw "p" := by decide
  exact ⟨_, _, hset, rfl, (active_ofValue hset rfl rfl rfl).1 "p" hmark⟩

/-- The number 1 marks no profile, though the only profile is switched on and has the number 1 as
its id. -/
theorem active_marking_one :
    ∃ set items, ofValue (.map (marking (.int 1))) = .ok set ∧
      profilesIn (marking (.int 1)) = .ok items ∧ set.active = none ∧
      coerced items (.int 1) = some ⟨"1", true, [], [], [], "", "", ""⟩ := by
  obtain ⟨set, items, hset, hitems, hcoerced, hactive⟩ := @active_marking (.int 1) rfl rfl
  rw [if_neg (by decide)] at hactive
  exact ⟨set, items, hset, hitems, hactive, hcoerced⟩

end ProfileSet

end HeaderRules
