import HeaderRules.Proofs.Message.Change
import HeaderRules.Rule.OfProfile
/-!
# Edits on a message

What the active edits of a profile make of the header of a message. Every rule of a profile carries
the same operations, so once the first one has been carried out all headers of the others are taken.
-/

namespace HeaderRules

namespace Edit

def names (e : Edit) (name : String) : Bool :=
  e.isActive && e.header.any (Fields.sameName · name)

/-- The fields after an edit, if it takes part. -/
def upsert (fields : Fields) (e : Edit) : Fields :=
  if e.isActive then e.header.elim fields (fields.set · e.value) else fields

/-- The fields after the edits that take part, one after the other. -/
def upsertAll (edits : List Edit) (fields : Fields) : Fields := edits.foldl upsert fields

/-- Fields before and after edits: a name that an active edit names has one field, with the value of
the last such edit, and the fields of all other names are the same, in the same order. -/
structure Upserted (edits : List Edit) (before after : Fields) : Prop where
  named : ∀ name e, (edits.filter (·.names name)).getLast? = some e →
    after.values name = [e.value]
  others : (after.filter fun field => !edits.any (·.names field.1)) =
    before.filter fun field => !edits.any (·.names field.1)

/-! ## The changes of edits -/

def changes (edits : List Edit) : List Change :=
  (edits.filter isActive).filterMap fun e => e.header.map (Change.set · e.value)

theorem isActive_header {e : Edit} (h : e.isActive = true) : ∃ header, e.header = some header := by
  rw [isActive, Bool.and_eq_true] at h
  exact Option.isSome_iff_exists.1 (Option.isSome_of_any h.2)

theorem changes_cons_active {e : Edit} {header : String} (hactive : e.isActive = true)
    (hheader : e.header = some header) (rest : List Edit) :
    changes (e :: rest) = .set header e.value :: changes rest := by
  simp [changes, hactive, hheader]

theorem changes_cons_inactive {e : Edit} (h : e.isActive = false) (rest : List Edit) :
    changes (e :: rest) = changes rest := by
  simp [changes, h]

theorem mem_changes {edits : List Edit} {change : Change} :
    change ∈ changes edits ↔
      ∃ e ∈ edits, e.isActive = true ∧
        ∃ header, e.header = some header ∧ change = .set header e.value := by
  simp only [changes, List.mem_filterMap, List.mem_filter, Option.map_eq_some_iff, and_assoc,
    @eq_comm _ change]

theorem foldl_perform_changes (edits : List Edit) (fields : Fields) :
    (changes edits).foldl Change.perform fields = upsertAll edits fields := by
  induction edits generalizing fields with
  | nil => rfl
  | cons e rest ih =>
    rw [upsertAll, List.foldl_cons, ← upsertAll, ← ih]
    cases hactive : e.isActive with
    | false => simp [changes_cons_inactive hactive, upsert, hactive]
    | true =>
      obtain ⟨header, hheader⟩ := isActive_header hactive
      simp [changes_cons_active hactive hheader, upsert, hactive, hheader, Change.perform]

/-- The changes of a header are those that the edits which name it ask for. -/
theorem filter_changes (edits : List Edit) (name : String) :
    (changes edits).filter (Fields.sameName ·.name name) =
      changes (edits.filter (·.names name)) := by
  induction edits with
  | nil => rfl
  | cons e rest ih =>
    cases hactive : e.isActive with
    | false =>
      have hnames : e.names name = false := by simp [names, hactive]
      simp [changes_cons_inactive hactive, hnames, ih]
    | true =>
      obtain ⟨header, hheader⟩ := isActive_header hactive
      have hnames : e.names name = Fields.sameName header name := by simp [names, hactive, hheader]
      rw [changes_cons_active hactive hheader, List.filter_cons, List.filter_cons, hnames, ih,
        Change.name_set]
      cases Fields.sameName header name with
      | false => rfl
      | true => exact (changes_cons_active hactive hheader _).symm

theorem values_upsertAll {edits : List Edit} {name : String} {e : Edit}
    (h : (edits.filter (·.names name)).getLast? = some e) (fields : Fields) :
    (upsertAll edits fields).values name = [e.value] := by
  obtain ⟨earlier, hsplit⟩ := List.getLast?_eq_some_iff.1 h
  have hnames : e.names name = true := by
    have hmem : e ∈ edits.filter (·.names name) := by simp [hsplit]
    exact (List.mem_filter.1 hmem).2
  have hactive : e.isActive = true := by
    rw [names, Bool.and_eq_true] at hnames
    exact hnames.1
  obtain ⟨header, hheader⟩ := isActive_header hactive
  have hlast : changes (earlier ++ [e]) = changes earlier ++ [.set header e.value] := by
    simp [changes, hactive, hheader]
  rw [← foldl_perform_changes, Change.values_foldl_perform, filter_changes, hsplit, hlast,
    List.foldl_append]
  rfl

theorem upserted (edits : List Edit) (fields : Fields) :
    Upserted edits fields (upsertAll edits fields) where
  named _ _ hlast := values_upsertAll hlast fields
  others := by
    rw [← foldl_perform_changes]
    apply Change.filter_foldl_perform (p := fun name => !edits.any (·.names name))
    intro change hchange name hname
    obtain ⟨e, he, hactive, header, hheader, rfl⟩ := mem_changes.1 hchange
    have hnames : e.names name = true := by
      simpa [names, hactive, hheader] using hname
    simpa using ⟨e, he, hnames⟩

/-! ## The operations of edits -/

theorem asked_operations (edits : List Edit) :
    Operation.asked (operations edits) = changes edits := by
  have hasked : Operation.asked? ∘ toOperation = fun e => e.header.map (Change.set · e.value) := by
    funext e
    cases hheader : e.header <;> simp [Operation.asked?, toOperation, hheader, Operation.change?]
  rw [Operation.asked, operations, List.filterMap_map, hasked, changes]

theorem isSome_header_of_mem_operations {edits : List Edit} {op : Operation}
    (h : op ∈ operations edits) : op.header.isSome := by
  obtain ⟨e, he, rfl⟩ := List.mem_map.1 h
  exact Option.isSome_iff_exists.2 (isActive_header (List.mem_filter.1 he).2)

theorem selectOfRule_operations (edits : List Edit) (taken : List (List Char)) :
    selectOfRule taken (operations edits) =
      ⟨(changes edits).filter fun change => !taken.contains (claimKey change.name), false⟩ := by
  rw [Operation.selectOfRule_eq fun _ => isSome_header_of_mem_operations, asked_operations]

/-- Rules of a profile have nothing left to do once all headers of the profile are taken. -/
theorem select_operations_taken {edits : List Edit} {rules : List (List Operation)}
    (h : ∀ ops ∈ rules, ops = operations edits) :
    select ((changes edits).map (claimKey ·.name)) rules = ⟨[], false⟩ := by
  induction rules with
  | nil => rfl
  | cons ops rest ih =>
    have hnone : ((changes edits).filter fun change =>
        !((changes edits).map (claimKey ·.name)).contains (claimKey change.name)) = [] := by
      rw [List.filter_eq_nil_iff]
      intro change hchange
      simpa using ⟨change, hchange, rfl⟩
    have hrest := ih fun other hother => h other (by simp [hother])
    rw [h ops (by simp)]
    simp only [select, selectOfRule_operations, hnone]
    simp [hrest]

/-- However many rules of a profile there are, they make the changes of one. -/
theorem select_operations {edits : List Edit} {rules : List (List Operation)} (hne : rules ≠ [])
    (h : ∀ ops ∈ rules, ops = operations edits) :
    select [] rules = ⟨changes edits, false⟩ := by
  cases rules with
  | nil => exact absurd rfl hne
  | cons ops rest =>
    -- the first rule takes every header that the others name
    have hrest : select ((changes edits).map (claimKey ·.name)) rest = ⟨[], false⟩ :=
      select_operations_taken fun other hother => h other (by simp [hother])
    have hfirst : selectOfRule [] (operations edits) = ⟨changes edits, false⟩ := by
      rw [selectOfRule_operations]
      simp
    rw [h ops (by simp)]
    simp [select, hfirst, hrest]

/-- Rules that all ask for the operations of the same edits make these edits once. -/
theorem enforceOperations_map_operations {α : Type} (asked : α → List Operation)
    {edits : List Edit} {rules : List α} (hne : rules ≠ [])
    (h : ∀ rule ∈ rules, asked rule = operations edits) (fields : Fields) (phase : String) :
    let done := enforceOperations (some fields) (rules.map asked) phase
    done.fields = some (upsertAll edits fields) ∧ done.misuse = none := by
  intro done
  have hasked : ∀ ops ∈ rules.map asked, ops = operations edits := by
    intro ops hops
    obtain ⟨rule, hrule, rfl⟩ := List.mem_map.1 hops
    exact h rule hrule
  simp [done, enforceOperations, select_operations (by simpa using hne) hasked,
    foldl_perform_changes]

end Edit

end HeaderRules
