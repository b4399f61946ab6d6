import HeaderRules.Proofs.Profile.Document
import Mathlib.Tactic.MkIffOfInductiveProp
/-!
# Documents that are accepted

Which values can be read as matchers, edits, profiles and profile documents, said of the values
alone. The form of a value is wrong if something in it is no mapping, a list field is no list, or a
profile has no id. There is one more reason to refuse a value: a number that has to be written out
as a text and is too long for that.
-/

namespace HeaderRules

/-! ## Mappings and lists -/

namespace Value

/-- The entries of a mapping. A mapping inside itself is taken for one without entries. -/
inductive HasEntries : Value → Entries → Prop
  | map (entries : Entries) : HasEntries (.map entries) entries
  | again : HasEntries (.again true) []

/-- The items of a list field: it is a list, or there are none because it is missing or null. A list
inside itself is taken for an empty one. -/
inductive HasItems (entries : Entries) (key : String) : List Value → Prop
  | missing (h : lookup entries key = none) : HasItems entries key []
  | null (h : lookup entries key = some .null) : HasItems entries key []
  | list {items : List Value} (h : lookup entries key = some (.list items)) :
      HasItems entries key items
  | again (h : lookup entries key = some (.again false)) : HasItems entries key []

/-- A field has a number that is too long to write. -/
def TooLongAt (entries : Entries) (key : String) : Prop :=
  ∃ v, lookup entries key = some v ∧ v.isWritable = false

variable {v : Value} {entries : Entries} {part : Part} {key : String}
  {items : List Value}

theorem mapping_eq_ok : v.mapping part = .ok entries ↔ v.HasEntries entries := by
  constructor
  · intro h
    unfold mapping at h
    split at h
    · obtain rfl := Except.ok.inj h
      exact .map _
    · obtain rfl := Except.ok.inj h
      exact .again
    · cases h
  · rintro (_ | _) <;> rfl

theorem kind_of_mapping {fault : DocumentFault} (h : v.mapping part = .error fault) :
    fault ≠ .numberTooLong := by
  unfold mapping at h
  split at h <;> cases h
  nofun

theorem listAt_eq_ok : listAt entries part key = .ok items ↔ HasItems entries key items := by
  constructor
  · intro h
    unfold listAt at h
    split at h
    · rename_i hlookup
      obtain rfl := Except.ok.inj h
      exact .missing hlookup
    · rename_i hlookup
      obtain rfl := Except.ok.inj h
      exact .null hlookup
    · rename_i hlookup
      obtain rfl := Except.ok.inj h
      exact .list hlookup
    · rename_i hlookup
      obtain rfl := Except.ok.inj h
      exact .again hlookup
    · cases h
  · rintro (h | h | h | h) <;> rw [listAt, h]

theorem HasItems.unique {xs ys : List Value} (hx : HasItems entries key xs)
    (hy : HasItems entries key ys) : xs = ys := by
  rw [← @listAt_eq_ok entries .document] at hx hy
  exact Except.ok.inj (hx.symm.trans hy)

theorem kind_of_listAt {fault : DocumentFault} (h : listAt entries part key = .error fault) :
    fault ≠ .numberTooLong := by
  unfold listAt at h
  split at h <;> cases h
  nofun

end Value

/-! ## Outcomes of reading -/

namespace DocumentFault

/-- What reading a value comes to, by two conditions on the value: neither of them holds of a value
that is read, the first one of a value that is refused for its form, and the second one of a value
with a number that is too long. -/
inductive Judged {α : Type} (malformed tooLong : Prop) : Except DocumentFault α → Prop
  | read (a : α) (formed : ¬malformed) (short : ¬tooLong) : Judged malformed tooLong (.ok a)
  | malformed {fault : DocumentFault} (kind : fault ≠ .numberTooLong) (cause : malformed) :
      Judged malformed tooLong (.error fault)
  | tooLong (cause : tooLong) : Judged malformed tooLong (.error .numberTooLong)

namespace Judged

variable {α β : Type} {m m' t t' : Prop} {x : Except DocumentFault α}

theorem congr (h : Judged m t x) (hm : m ↔ m') (ht : t ↔ t') : Judged m' t' x := by
  rwa [← hm, ← ht]

theorem exists_eq_ok_iff (h : Judged m t x) : (∃ a, x = .ok a) ↔ ¬m ∧ ¬t := by
  cases h with
  | read a formed short => simp [formed, short]
  | malformed kind cause => simp [cause]
  | tooLong cause => simp [cause]

theorem cause_of_eq_error (h : Judged m t x) {fault : DocumentFault} (hx : x = .error fault) :
    fault ≠ .numberTooLong ∧ m ∨ fault = .numberTooLong ∧ t := by
  subst hx
  cases h with
  | malformed kind cause => exact .inl ⟨kind, cause⟩
  | tooLong cause => exact .inr ⟨rfl, cause⟩

theorem eq_numberTooLong (h : Judged m t x) (formed : ¬m) (long : t) :
    x = .error .numberTooLong := by
  cases h with
  | read a _ short => exact absurd long short
  | malformed kind cause => exact absurd cause formed
  | tooLong _ => rfl

theorem ok (a : α) : Judged False False (.ok a : Except DocumentFault α) := .read a id id

/-- Either of two steps may refuse, if the conditions on the second one do not depend on what the
first one gives. -/
theorem bind {f : α → Except DocumentFault β} (hx : Judged m t x)
    (hf : ∀ a, Judged m' t' (f a)) : Judged (m ∨ m') (t ∨ t') (x >>= f) := by
  cases hx with
  | read a formed short => exact (hf a).congr (by simp [formed]) (by simp [short])
  | malformed kind cause => exact .malformed kind (.inl cause)
  | tooLong cause => exact .tooLong (.inl cause)

theorem bindForm {f : α → Except DocumentFault β} {given p q : α → Prop}
    (hgiven : ∀ a, x = .ok a ↔ given a)
    (hkind : ∀ fault, x = .error fault → fault ≠ .numberTooLong)
    (hf : ∀ a, Judged (p a) (q a) (f a)) :
    Judged ((∀ a, ¬given a) ∨ ∃ a, given a ∧ p a) (∃ a, given a ∧ q a) (x >>= f) := by
  simp only [← hgiven]
  cases x with
  | error fault => exact .malformed (hkind fault rfl) (.inl nofun)
  | ok a => exact (hf a).congr (by simp) (by simp)

theorem mapM {f : β → Except DocumentFault α} {p q : β → Prop}
    (h : ∀ x, Judged (p x) (q x) (f x)) (xs : List β) :
    Judged (∃ x ∈ xs, p x) (∃ x ∈ xs, q x) (xs.mapM f) := by
  induction xs with
  | nil => exact (ok []).congr (by simp) (by simp)
  | cons first rest ih =>
    rw [List.mapM_cons]
    exact ((h first).bind fun _ => ih.bind fun _ => ok _).congr (by simp) (by simp)

end Judged

end DocumentFault

open DocumentFault (Judged)

/-! ## Fields -/

namespace Value

variable {entries : Entries} {key : String}

theorem isTruthy_of_not_writable {v : Value} (h : v.isWritable = false) : v.isTruthy = true := by
  cases v with
  | scalar s =>
    cases s with
    | int n =>
      have hzero : n ≠ 0 := by
        rintro rfl
        cases h
      simpa [isTruthy, Scalar.isTruthy] using hzero
    | _ => cases h
  | list items =>
    cases items with
    | nil => cases h
    | cons first rest => rfl
  | map entries =>
    cases entries with
    | nil => cases h
    | cons first rest => rfl
  | set items =>
    cases items with
    | nil => cases h
    | cons first rest => rfl
  | pair first second => rfl
  | again isMap => cases h

theorem judged_ite_isWritable {α : Type} (v : Value) (a : α) :
    Judged False (v.isWritable = false)
      (if v.isWritable then .ok a else .error .numberTooLong) := by
  split
  · rename_i h
    exact (Judged.ok _).congr Iff.rfl (by simp [h])
  · rename_i h
    exact .tooLong (by simpa using h)

theorem judged_written (v : Value) : Judged False (v.isWritable = false) v.written :=
  v.judged_ite_isWritable v.toText

theorem judged_asId (v : Value) : Judged False (v.isWritable = false) v.asId :=
  v.judged_ite_isWritable v.toRaw

theorem judged_idAt : Judged False (TooLongAt entries "id") (idAt entries) := by
  unfold idAt TooLongAt
  cases lookup entries "id" with
  | none => exact (Judged.ok _).congr Iff.rfl (by simp)
  | some v => exact v.judged_asId.congr Iff.rfl (by simp)

theorem judged_textAt : Judged False (TooLongAt entries key) (textAt entries key) := by
  unfold textAt TooLongAt
  split
  · rename_i h
    exact (Judged.ok _).congr Iff.rfl (by simp [h])
  · rename_i h
    exact (Judged.ok _).congr Iff.rfl (by simp [h, isWritable, Scalar.isWritable])
  · rename_i v _ h
    exact v.judged_written.congr Iff.rfl (by simp [h])

theorem judged_labelAt : Judged False (TooLongAt entries key) (labelAt entries key) := by
  unfold labelAt TooLongAt
  cases lookup entries key with
  | none => exact (Judged.ok _).congr Iff.rfl (by simp)
  | some v =>
    dsimp only
    split
    · exact v.judged_written.congr Iff.rfl (by simp)
    · rename_i h
      refine (Judged.ok _).congr Iff.rfl ?_
      simpa using fun hlong => h (isTruthy_of_not_writable hlong)

theorem judged_mapping {α : Type} {v : Value} {part : Part}
    {read : Entries → Except DocumentFault α} {p q : Entries → Prop}
    (h : ∀ entries, Judged (p entries) (q entries) (read entries)) :
    Judged ((∀ entries, ¬v.HasEntries entries) ∨ ∃ entries, v.HasEntries entries ∧ p entries)
      (∃ entries, v.HasEntries entries ∧ q entries) (v.mapping part >>= read) :=
  .bindForm (fun _ => mapping_eq_ok) (fun _ => kind_of_mapping) h

def SomeAt (entries : Entries) (key : String) (p : Value → Prop) : Prop :=
  ∃ items, HasItems entries key items ∧ ∃ v ∈ items, p v

def itemsAt {α : Type} (entries : Entries) (part : Part) (key : String)
    (read : Value → Except DocumentFault α) : Except DocumentFault (List α) :=
  listAt entries part key >>= List.mapM read

theorem judged_itemsAt {α : Type} {part : Part} {read : Value → Except DocumentFault α}
    {p q : Value → Prop} (h : ∀ v, Judged (p v) (q v) (read v)) :
    Judged ((∀ items, ¬HasItems entries key items) ∨ SomeAt entries key p) (SomeAt entries key q)
      (itemsAt entries part key read) :=
  .bindForm (fun _ => listAt_eq_ok) (fun _ => kind_of_listAt) (.mapM h)

end Value

/-! ## Matchers -/

namespace Matcher

/-- The form of a value is not that of a matcher. -/
@[mk_iff]
inductive Malformed (v : Value) : Prop
  | notMapping (h : ∀ entries, ¬v.HasEntries entries)
  | typesNotList {entries : Entries} (hv : v.HasEntries entries)
      (h : ∀ items, ¬Value.HasItems entries "resourceTypes" items)

@[mk_iff]
inductive TooLong (v : Value) : Prop
  | text {entries : Entries} {key : String} (hv : v.HasEntries entries)
      (hkey : key ∈ ["id", "urlFilter"]) (h : Value.TooLongAt entries key)
  | type {entries : Entries} (hv : v.HasEntries entries)
      (h : Value.SomeAt entries "resourceTypes" (·.isWritable = false))

theorem judged_ofValue (v : Value) : Judged (Malformed v) (TooLong v) (ofValue v) := by
  have heq : ofValue v = v.mapping .matcher >>= fun entries =>
      Value.idAt entries >>= fun id => Value.textAt entries "urlFilter" >>= fun filter =>
        Value.itemsAt entries .matcher "resourceTypes" Value.written >>= fun types =>
          .ok ⟨id, if filter = "" then matchAllFilter else filter, types⟩ := by
    simp only [ofValue, Value.itemsAt, bind_assoc, Outcome.pure_eq]
  rw [heq]
  refine (Value.judged_mapping fun entries =>
    Value.judged_idAt.bind fun _ => Value.judged_textAt.bind fun _ =>
    (Value.judged_itemsAt Value.judged_written).bind fun _ => .ok _).congr ?_ ?_
  · grind [malformed_iff, Value.SomeAt]
  · grind [tooLong_iff]

end Matcher

/-! ## Edits -/

namespace Edit

def Malformed (v : Value) : Prop := ∀ entries, ¬v.HasEntries entries

def TooLong (v : Value) : Prop :=
  ∃ entries, v.HasEntries entries ∧ ∃ key ∈ ["id", "header", "value"], Value.TooLongAt entries key

theorem judged_ofValue (v : Value) : Judged (Malformed v) (TooLong v) (ofValue v) := by
  refine (Value.judged_mapping fun entries =>
    Value.judged_idAt.bind fun _ => Value.judged_labelAt.bind fun _ =>
    Value.judged_textAt.bind fun _ => .ok _).congr ?_ ?_
  · grind [Malformed]
  · grind [TooLong]

end Edit

/-! ## Profiles -/

namespace Profile

def NoId (entries : Entries) : Prop :=
  ∀ id, Value.lookup entries "id" = some id → id.isTruthy = false

@[mk_iff]
inductive Malformed (v : Value) : Prop
  | notMapping (h : ∀ entries, ¬v.HasEntries entries)
  | noId {entries : Entries} (hv : v.HasEntries entries) (h : NoId entries)
  | notList {entries : Entries} {key : String} (hv : v.HasEntries entries)
      (hkey : key ∈ ["matchers", "requestHeaders", "responseHeaders"])
      (h : ∀ items, ¬Value.HasItems entries key items)
  | matcher {entries : Entries} (hv : v.HasEntries entries)
      (h : Value.SomeAt entries "matchers" Matcher.Malformed)
  | edit {entries : Entries} {key : String} (hv : v.HasEntries entries)
      (hkey : key ∈ ["requestHeaders", "responseHeaders"])
      (h : Value.SomeAt entries key Edit.Malformed)

@[mk_iff]
inductive TooLong (v : Value) : Prop
  | text {entries : Entries} {key : String} (hv : v.HasEntries entries)
      (hkey : key ∈ ["id", "name", "color", "notes"]) (h : Value.TooLongAt entries key)
  | matcher {entries : Entries} (hv : v.HasEntries entries)
      (h : Value.SomeAt entries "matchers" Matcher.TooLong)
  | edit {entries : Entries} {key : String} (hv : v.HasEntries entries)
      (hkey : key ∈ ["requestHeaders", "responseHeaders"])
      (h : Value.SomeAt entries key Edit.TooLong)

theorem judged_missingId {entries : Entries} (h : NoId entries) :
    Judged (NoId entries) (NoId entries ∧ Value.TooLongAt entries "name")
      (.error (missingId entries) : Except DocumentFault RawText) := by
  unfold missingId
  cases hname : Value.lookup entries "name" with
  | none => exact .malformed nofun h
  | some name =>
    cases hwritten : name.written with
    | ok s => simpa [hwritten] using .malformed nofun h
    | error fault =>
      have hjudged := name.judged_written
      rw [hwritten] at hjudged
      cases hjudged with
      | malformed kind cause => exact cause.elim
      | tooLong cause => simpa [hwritten] using .tooLong ⟨h, name, hname, cause⟩

theorem judged_idIn {entries : Entries} :
    Judged (NoId entries)
      (NoId entries ∧ Value.TooLongAt entries "name" ∨ Value.TooLongAt entries "id")
      (idIn entries) := by
  unfold idIn
  cases hid : Value.lookup entries "id" with
  | none =>
    have hnone : NoId entries := by simp [NoId, hid]
    exact (judged_missingId hnone).congr Iff.rfl (by simp [Value.TooLongAt, hid])
  | some id =>
    dsimp only
    split
    · rename_i htruthy
      have hsome : ¬NoId entries := by simp [NoId, hid, htruthy]
      exact id.judged_asId.congr (by simp [hsome]) (by simp [hsome, Value.TooLongAt, hid])
    · rename_i hfalsy
      -- an id that does not count as present is not written, so it is not too long either
      have hnone : NoId entries := by simpa [NoId, hid] using hfalsy
      have hshort : ¬id.isWritable = false := fun h => hfalsy (Value.isTruthy_of_not_writable h)
      exact (judged_missingId hnone).congr Iff.rfl (by simp [Value.TooLongAt, hid, hshort])

theorem judged_ofValue (v : Value) : Judged (Malformed v) (TooLong v) (ofValue v) := by
  have heq : ofValue v = v.mapping .profile >>= fun entries => idIn entries >>= fun id =>
      Value.itemsAt entries .profile "matchers" Matcher.ofValue >>= fun matchers =>
      Value.itemsAt entries .profile "requestHeaders" Edit.ofValue >>= fun requestEdits =>
      Value.itemsAt entries .profile "responseHeaders" Edit.ofValue >>= fun responseEdits =>
      Value.labelAt entries "name" >>= fun name => Value.labelAt entries "color" >>= fun color =>
      Value.labelAt entries "notes" >>= fun notes =>
      let enabled := ((Value.lookup entries "enabled").map Value.isTruthy).getD false
      .ok ⟨id, enabled, matchers, requestEdits, responseEdits, name, color, notes⟩ := by
    simp only [ofValue, Value.itemsAt, bind_assoc, Outcome.pure_eq]
  rw [heq]
  -- the id is asked for first, but which step refuses is of no account for the two conditions
  refine (Value.judged_mapping fun entries => judged_idIn.bind fun _ =>
    (Value.judged_itemsAt Matcher.judged_ofValue).bind fun _ =>
    (Value.judged_itemsAt Edit.judged_ofValue).bind fun _ =>
    (Value.judged_itemsAt Edit.judged_ofValue).bind fun _ =>
    Value.judged_labelAt.bind fun _ => Value.judged_labelAt.bind fun _ =>
    Value.judged_labelAt.bind fun _ => .ok _).congr ?_ ?_
  · simp only [malformed_iff, List.mem_cons, List.not_mem_nil, or_false, or_and_right, exists_or,
      and_or_left]
    grind
  · simp only [tooLong_iff, List.mem_cons, List.not_mem_nil, or_false]
    grind

end Profile

/-! ## Profile documents -/

namespace ProfileSet

/-- The profile list of a document: it is a list, or it is empty because it is missing or does not
count as present. -/
inductive HasProfiles (entries : Entries) : List Value → Prop
  | missing (h : Value.lookup entries "profiles" = none) : HasProfiles entries []
  | absent {v : Value} (h : Value.lookup entries "profiles" = some v) (hv : v.isTruthy = false) :
      HasProfiles entries []
  | list {items : List Value} (h : Value.lookup entries "profiles" = some (.list items)) :
      HasProfiles entries items

@[mk_iff]
inductive Malformed (v : Value) : Prop
  | notMapping (h : ∀ entries, ¬v.HasEntries entries)
  | notList {entries : Entries} (hv : v.HasEntries entries)
      (h : ∀ items, ¬HasProfiles entries items)
  | profile {entries : Entries} {items : List Value} (hv : v.HasEntries entries)
      (hitems : HasProfiles entries items) (h : ∃ item ∈ items, Profile.Malformed item)

def TooLong (v : Value) : Prop :=
  ∃ entries, v.HasEntries entries ∧
    ∃ items, HasProfiles entries items ∧ ∃ item ∈ items, Profile.TooLong item

theorem profilesIn_eq_ok {entries : Entries} {items : List Value} :
    profilesIn entries = .ok items ↔ HasProfiles entries items := by
  constructor
  · intro h
    unfold profilesIn at h
    split at h
    · rename_i hlookup
      obtain rfl := Except.ok.inj h
      exact .missing hlookup
    · rename_i hlookup
      obtain rfl := Except.ok.inj h
      exact .list hlookup
    · rename_i v _ hlookup
      cases htruthy : v.isTruthy with
      | true =>
        rw [htruthy] at h
        cases h
      | false =>
        rw [htruthy] at h
        obtain rfl := Except.ok.inj h
        exact .absent hlookup htruthy
  · rintro (h | ⟨h, hv⟩ | h)
    · rw [profilesIn, h]
    · rw [profilesIn, h]
      split
      · contradiction
      · rename_i heq
        obtain rfl := Option.some.inj heq
        simpa [Value.isTruthy] using hv.symm
      · rename_i heq
        obtain rfl := Option.some.inj heq
        simp [hv]
    · rw [profilesIn, h]

theorem HasProfiles.unique {entries : Entries} {xs ys : List Value} (hx : HasProfiles entries xs)
    (hy : HasProfiles entries ys) : xs = ys := by
  rw [← profilesIn_eq_ok] at hx hy
  exact Except.ok.inj (hx.symm.trans hy)

theorem kind_of_profilesIn {entries : Entries} {fault : DocumentFault}
    (h : profilesIn entries = .error fault) : fault ≠ .numberTooLong := by
  unfold profilesIn at h
  split at h
  · cases h
  · cases h
  · split at h <;> cases h
    nofun

theorem judged_ofValue (v : Value) : Judged (Malformed v) (TooLong v) (ofValue v) := by
  have heq : ofValue v = v.mapping .document >>= fun entries =>
      (profilesIn entries >>= List.mapM Profile.ofValue) >>= fun profiles =>
      let marked := (Value.lookup entries "activeProfileId").getD .null
      .ok ⟨profiles, if marked.isTruthy then marked else .null⟩ := by
    simp only [ofValue, bind_assoc, Outcome.pure_eq]
  rw [heq]
  refine (Value.judged_mapping fun entries =>
    (Judged.bindForm (fun _ => profilesIn_eq_ok) (fun _ => kind_of_profilesIn)
      (.mapM Profile.judged_ofValue)).bind fun _ => .ok _).congr ?_ ?_
  · grind [malformed_iff]
  · grind [TooLong]

end ProfileSet

/-! ## What is accepted -/

/-- A profile has what is read of each item of the lists of a value, in their order. -/
inductive Profile.ItemwiseOf (v : Value) (p : Profile) : Prop
  | of {entries : Entries} {matchers requestEdits responseEdits : List Value}
      (hv : v.HasEntries entries)
      (hmatchers : Value.HasItems entries "matchers" matchers)
      (hrequest : Value.HasItems entries "requestHeaders" requestEdits)
      (hresponse : Value.HasItems entries "responseHeaders" responseEdits)
      (matchers : List.Forall₂ (fun item m => Matcher.ofValue item = .ok m) matchers p.matchers)
      (requestEdits :
        List.Forall₂ (fun item e => Edit.ofValue item = .ok e) requestEdits p.requestEdits)
      (responseEdits :
        List.Forall₂ (fun item e => Edit.ofValue item = .ok e) responseEdits p.responseEdits)

inductive ProfileSet.ItemwiseOf (v : Value) (set : ProfileSet) : Prop
  | of {entries : Entries} {profiles : List Value} (hv : v.HasEntries entries)
      (hprofiles : HasProfiles entries profiles)
      (profiles : List.Forall₂ (fun item p => Profile.ofValue item = .ok p ∧ p.ItemwiseOf item)
        profiles set.profiles)

theorem Profile.itemwiseOf_of_ofValue {v : Value} {p : Profile} (h : ofValue v = .ok p) :
    p.ItemwiseOf v := by
  obtain ⟨entries, hentries, hread⟩ := ofValue_eq_ok.1 h
  obtain ⟨matchers, hmatchers, hms⟩ := hread.matchers
  obtain ⟨requestEdits, hrequest, hqs⟩ := hread.requestEdits
  obtain ⟨responseEdits, hresponse, hss⟩ := hread.responseEdits
  exact .of (Value.mapping_eq_ok.1 hentries) (Value.listAt_eq_ok.1 hmatchers)
    (Value.listAt_eq_ok.1 hrequest) (Value.listAt_eq_ok.1 hresponse)
    (Outcome.mapM_eq_ok_iff.1 hms) (Outcome.mapM_eq_ok_iff.1 hqs)
    (Outcome.mapM_eq_ok_iff.1 hss)

namespace ProfileSet

theorem itemwiseOf_of_ofValue {v : Value} {set : ProfileSet} (h : ofValue v = .ok set) :
    set.ItemwiseOf v := by
  simp only [ofValue, Outcome.bind_eq_ok] at h
  obtain ⟨entries, hentries, items, hitems, profiles, hprofiles, h⟩ := h
  obtain rfl := Except.ok.inj h
  have hread : List.Forall₂ (fun item p => Profile.ofValue item = .ok p) items profiles :=
    Outcome.mapM_eq_ok_iff.1 hprofiles
  exact .of (Value.mapping_eq_ok.1 hentries) (profilesIn_eq_ok.1 hitems)
    (hread.imp fun _ _ hp => ⟨hp, Profile.itemwiseOf_of_ofValue hp⟩)

/-- A value is accepted exactly if its form is that of a profile document and no number in it is too
long. What is accepted is read item by item, and what is refused is refused for one of the two
reasons. -/
theorem ofValue_accepts_iff (v : Value) :
    ((∃ set, ofValue v = .ok set) ↔ ¬Malformed v ∧ ¬TooLong v) ∧
      (∀ set, ofValue v = .ok set → set.ItemwiseOf v) ∧
      ∀ fault, ofValue v = .error fault →
        fault ≠ .numberTooLong ∧ Malformed v ∨ fault = .numberTooLong ∧ TooLong v := by
  refine ⟨(judged_ofValue v).exists_eq_ok_iff, fun set => itemwiseOf_of_ofValue, ?_⟩
  intro fault h
  exact (judged_ofValue v).cause_of_eq_error h

/-- A profile whose id is a number and whose matchers are null is accepted; one whose id is zero is
refused for its form. -/
theorem ofValue_accepts_iff_null_lists :
    let document (id : Int) : Value := .map [(.text "profiles",
      .list [.map [(.text "id", .int id), (.text "matchers", .null)]])]
    (∃ set, ofValue (document 7) = .ok set ∧ set.ItemwiseOf (document 7)) ∧
      Malformed (document 0) := by
  intro document
  refine ⟨⟨_, rfl, (ofValue_accepts_iff _).2.1 _ rfl⟩, ?_⟩
  have hrefused : ofValue (document 0) = .error (.missingId "<unnamed>") := rfl
  obtain ⟨-, hform⟩ | ⟨hlong, -⟩ := (ofValue_accepts_iff _).2.2 _ hrefused
  · exact hform
  · cases hlong

def documentOfId (id : Value) : Value :=
  .map [(.text "profiles", .list [.map [(.text "id", id)]])]

theorem not_malformed_documentOfId {id : Value} (h : id.isTruthy = true) :
    ¬Malformed (documentOfId id) := by
  have hnone : ∀ key ∈ ["matchers", "requestHeaders", "responseHeaders"],
      Value.HasItems [(.text "id", id)] key [] := by
    simp only [List.forall_mem_cons]
    exact ⟨.missing rfl, .missing rfl, .missing rfl, nofun⟩
  rintro (hroot | ⟨⟨⟩, hlist⟩ | ⟨⟨⟩, hitems, item, hitem, hprofile⟩)
  · exact hroot _ (.map _)
  · exact hlist _ (.list rfl)
  · obtain rfl := hitems.unique (.list rfl)
    obtain rfl := List.mem_singleton.1 hitem
    obtain hroot | ⟨⟨⟩, hid⟩ | ⟨⟨⟩, hkey, hlist⟩ | ⟨⟨⟩, items, hitems, item, hitem, -⟩ |
      ⟨⟨⟩, hkey, items, hitems, item, hitem, -⟩ := hprofile
    · exact hroot _ (.map _)
    · simp [hid id rfl] at h
    · exact hlist _ (hnone _ hkey)
    · obtain rfl := hitems.unique (hnone _ (by simp))
      cases hitem
    · obtain rfl := hitems.unique (hnone _ (List.mem_cons_of_mem _ hkey))
      cases hitem

def longNumber : Int := .ofNat (Nat.pow 16 3572)

/-- A document of the right form that is refused: its only id is a number of more digits than are
written. -/
theorem documentOfId_refused :
    ¬Malformed (documentOfId (.int longNumber)) ∧
      ofValue (documentOfId (.int longNumber)) = .error .numberTooLong := by
  have hlong : (Value.int longNumber).isWritable = false := by
    rw [Value.isWritable, Scalar.isWritable, decide_eq_false_iff_not,
      Nat.length_toDigits_le_iff (by decide) (by decide)]
    decide +kernel
  have hform := not_malformed_documentOfId (Value.isTruthy_of_not_writable hlong)
  have hid : Profile.TooLong (.map [(.text "id", .int longNumber)]) :=
    .text (.map _) List.mem_cons_self ⟨_, rfl, hlong⟩
  exact ⟨hform, (judged_ofValue _).eq_numberTooLong hform
    ⟨_, .map _, _, .list rfl, _, List.mem_singleton_self _, hid⟩⟩

end ProfileSet

end HeaderRules
