import HeaderRules.Proofs.Outcome
import HeaderRules.Rule.Distinct
import Mathlib.Data.List.Nodup
/-!
# First occurrences

Sifting a list of rules keeps each rule that is the first with its id. Ids are compared as keys are,
and of two keys that are the same as a third, the first two need not be the same unless the kept
ones are whole numbers; that is all that an installation can keep.
-/

namespace HeaderRules

open HeaderRules.Number (Binary64 twoTo)

theorem Number.Binary64.equalsInt_unique {x : Binary64} {m n : Int}
    (hm : x.equalsInt m = true) (hn : x.equalsInt n = true) : m = n := by
  cases x with
  | nan => simp [Binary64.equalsInt] at hm
  | infinite negative => simp [Binary64.equalsInt] at hm
  | finite negative mantissa exponent =>
    have hpos : (twoTo (-exponent) : Int) ≠ 0 := by
      have : 0 < twoTo (-exponent) := Nat.pow_pos (by decide)
      omega
    simp only [Binary64.equalsInt] at hm hn
    split at hm
    · rename_i hexponent
      rw [if_pos hexponent] at hn
      rw [← eq_of_beq hm, ← eq_of_beq hn]
    · rename_i hexponent
      rw [if_neg hexponent] at hn
      have heq := (eq_of_beq hm).symm.trans (eq_of_beq hn)
      exact Int.eq_of_mul_eq_mul_right hpos heq

namespace Scalar

@[simp] theorem sameKey_int (m n : Int) : (Scalar.int m).sameKey (.int n) = (m == n) := rfl

/-- A key that is the same as two whole numbers makes them one number. -/
theorem int_eq_of_sameKey {key : Scalar} {m n : Int} (hm : (Scalar.int m).sameKey key = true)
    (hn : key.sameKey (.int n) = true) : m = n := by
  cases key with
  | bool b => simp_all [sameKey, asInt?]
  | int k => simp_all
  | float x => exact Binary64.equalsInt_unique hm hn
  | null => simp [sameKey, asInt?] at hm
  | text s => simp [sameKey, asInt?] at hm
  | ragged t => simp [sameKey, asInt?] at hm
  | bytes bs => simp [sameKey, asInt?] at hm
  | date d => simp [sameKey, asInt?] at hm
  | moment t => simp [sameKey, asInt?] at hm

end Scalar

@[simp] theorem Value.same_scalar (a b : Scalar) :
    (Value.scalar a).same (.scalar b) = a.sameKey b := by
  simp [Value.same]

namespace Rule

/-- Whether the rule at a position has the id of an earlier rule. -/
def repeatsAt (rules : List Rule) (entry : Rule × Nat) : Bool :=
  (rules.take entry.2).any fun earlier => entry.1.id.same earlier.id

/-- The rules that are the first with their id, in order. -/
def firsts (rules : List Rule) : List Rule :=
  (rules.zipIdx.filter fun entry => !repeatsAt rules entry).map (·.1)

def repeats (rules : List Rule) : List Rule :=
  (rules.zipIdx.filter (repeatsAt rules)).map (·.1)

def HasNumber (rule : Rule) : Prop := ∃ n, rule.id = .int n

theorem same_id_iff {a b : Rule} (ha : a.HasNumber) (hb : b.HasNumber) :
    a.id.same b.id = true ↔ a.id = b.id := by
  obtain ⟨m, hm⟩ := ha
  obtain ⟨n, hn⟩ := hb
  rw [hm, hn, Value.same_scalar, Scalar.sameKey_int]
  simp

theorem repeatsAt_length (earlier rest : List Rule) (rule : Rule) :
    repeatsAt (earlier ++ rest) (rule, earlier.length) =
      earlier.any fun other => rule.id.same other.id := by
  simp [repeatsAt]

theorem firsts_concat (rules : List Rule) (rule : Rule) :
    firsts (rules ++ [rule]) =
      if rules.any (rule.id.same ·.id) then firsts rules else firsts rules ++ [rule] := by
  have hearlier : rules.zipIdx.filter (fun entry => !repeatsAt (rules ++ [rule]) entry) =
      rules.zipIdx.filter fun entry => !repeatsAt rules entry := by
    refine List.filter_congr fun entry hentry => ?_
    have hlt : entry.2 < rules.length := List.snd_lt_of_mem_zipIdx hentry
    rw [repeatsAt, repeatsAt, List.take_append_of_le_length (by omega)]
  have hlast := repeatsAt_length rules [rule] rule
  rw [firsts, List.zipIdx_append, List.filter_append, hearlier, List.map_append, firsts]
  simp only [List.zipIdx_singleton, List.filter_singleton, Nat.zero_add, hlast]
  cases rules.any (rule.id.same ·.id) <;> simp

theorem siftAfter_cons_eq_ok {seen : List Scalar} {rule : Rule} {rest : List Rule}
    {sifted : Sifted} (h : siftAfter seen (rule :: rest) = .ok sifted) :
    ∃ key later, rule.id = .scalar key ∧
      ((seen.any key.sameKey = true ∧ siftAfter seen rest = .ok later ∧
          sifted = ⟨later.kept, rule.id :: later.skipped⟩) ∨
        (seen.any key.sameKey = false ∧ siftAfter (key :: seen) rest = .ok later ∧
          sifted = ⟨rule :: later.kept, later.skipped⟩)) := by
  rw [siftAfter, Outcome.bind_eq_ok] at h
  obtain ⟨key, hkey, h⟩ := h
  have hid : rule.id = .scalar key := by
    cases hr : rule.id <;> simp_all [Value.idKey]
  by_cases hseen : seen.any key.sameKey = true
  · rw [if_pos hseen, Outcome.bind_eq_ok] at h
    obtain ⟨later, hlater, h⟩ := h
    exact ⟨key, later, hid, .inl ⟨hseen, hlater, (Except.ok.inj h).symm⟩⟩
  · rw [if_neg hseen, Outcome.bind_eq_ok] at h
    obtain ⟨later, hlater, h⟩ := h
    exact ⟨key, later, hid, .inr ⟨by simpa using hseen, hlater, (Except.ok.inj h).symm⟩⟩

theorem kept_sublist {seen : List Scalar} {rules : List Rule} {sifted : Sifted}
    (h : siftAfter seen rules = .ok sifted) : sifted.kept.Sublist rules := by
  induction rules generalizing seen sifted with
  | nil =>
    cases h
    exact .slnil
  | cons rule rest ih =>
    obtain ⟨key, later, -, ⟨-, hlater, rfl⟩ | ⟨-, hlater, rfl⟩⟩ := siftAfter_cons_eq_ok h
    · exact (ih hlater).cons rule
    · exact (ih hlater).cons_cons rule

/-- The keys seen so far stand for the rules that came earlier: each of them is a whole number and
the id of one of these rules, and the id of each of these rules is one of them. -/
structure Stands (seen : List Scalar) (earlier : List Rule) : Prop where
  number : ∀ key ∈ seen, ∃ n, key = .int n
  origin : ∀ key ∈ seen, ∃ rule ∈ earlier, rule.id = .scalar key
  cover : ∀ rule ∈ earlier, ∃ id, rule.id = .scalar id ∧ ∃ key ∈ seen, id.sameKey key = true

theorem Stands.nil : Stands [] [] := ⟨by simp, by simp, by simp⟩

theorem Stands.skip {seen : List Scalar} {earlier : List Rule} {rule : Rule} {key : Scalar}
    (h : Stands seen earlier) (hid : rule.id = .scalar key)
    (hseen : seen.any key.sameKey = true) : Stands seen (earlier ++ [rule]) where
  number := h.number
  origin other hother := by
    obtain ⟨r, hr, heq⟩ := h.origin other hother
    exact ⟨r, by simp [hr], heq⟩
  cover r hr := by
    rcases List.mem_append.1 hr with hr | hr
    · exact h.cover r hr
    · obtain rfl := List.mem_singleton.1 hr
      exact ⟨key, hid, List.any_eq_true.1 hseen⟩

theorem Stands.keep {seen : List Scalar} {earlier : List Rule} {rule : Rule} {n : Int}
    (h : Stands seen earlier) (hid : rule.id = .int n) :
    Stands (.int n :: seen) (earlier ++ [rule]) where
  number key hkey := by
    rcases List.mem_cons.1 hkey with rfl | hkey
    · exact ⟨n, rfl⟩
    · exact h.number key hkey
  origin key hkey := by
    rcases List.mem_cons.1 hkey with rfl | hkey
    · exact ⟨rule, by simp, hid⟩
    · obtain ⟨r, hr, heq⟩ := h.origin key hkey
      exact ⟨r, by simp [hr], heq⟩
  cover r hr := by
    rcases List.mem_append.1 hr with hr | hr
    · obtain ⟨id, heq, key, hkey, hsame⟩ := h.cover r hr
      exact ⟨id, heq, key, by simp [hkey], hsame⟩
    · obtain rfl := List.mem_singleton.1 hr
      exact ⟨.int n, hid, .int n, by simp, by simp⟩

theorem Stands.any_of_seen {seen : List Scalar} {earlier : List Rule} {rule : Rule} {key : Scalar}
    (h : Stands seen earlier) (hid : rule.id = .scalar key)
    (hseen : seen.any key.sameKey = true) :
    (earlier.any fun other => rule.id.same other.id) = true := by
  obtain ⟨other, hother, hsame⟩ := List.any_eq_true.1 hseen
  obtain ⟨r, hr, heq⟩ := h.origin other hother
  exact List.any_eq_true.2 ⟨r, hr, by rw [hid, heq, Value.same_scalar, hsame]⟩

theorem Stands.any_of_not_seen {seen : List Scalar} {earlier : List Rule} {rule : Rule} {n : Int}
    (h : Stands seen earlier) (hid : rule.id = .int n)
    (hseen : seen.any (Scalar.int n).sameKey = false) :
    (earlier.any fun other => rule.id.same other.id) = false := by
  rw [Bool.eq_false_iff]
  intro hany
  obtain ⟨r, hr, hsame⟩ := List.any_eq_true.1 hany
  obtain ⟨id, heq, key, hkey, hcover⟩ := h.cover r hr
  obtain ⟨m, rfl⟩ := h.number key hkey
  rw [hid, heq, Value.same_scalar] at hsame
  have hnm : n = m := Scalar.int_eq_of_sameKey hsame hcover
  subst hnm
  have := List.any_eq_false.1 hseen _ hkey
  simp at this

theorem siftAfter_eq_firsts {rest earlier : List Rule} {seen : List Scalar} {sifted : Sifted}
    (hstands : Stands seen earlier) (h : siftAfter seen rest = .ok sifted)
    (hkept : ∀ rule ∈ sifted.kept, rule.HasNumber) :
    sifted.kept = ((rest.zipIdx earlier.length).filter
        fun entry => !repeatsAt (earlier ++ rest) entry).map (·.1) ∧
      sifted.skipped = (((rest.zipIdx earlier.length).filter
        (repeatsAt (earlier ++ rest))).map (·.1)).map (·.id) := by
  -- rules move from the rest to the earlier ones, and the keys seen stand for the latter
  induction rest generalizing earlier seen sifted with
  | nil =>
    cases h
    simp
  | cons rule rest ih =>
    have hlist : earlier ++ rule :: rest = (earlier ++ [rule]) ++ rest := by simp
    have hlength : earlier.length + 1 = (earlier ++ [rule]).length := by simp
    have hhere := repeatsAt_length earlier (rule :: rest) rule
    obtain ⟨key, later, hid, ⟨hseen, hlater, rfl⟩ | ⟨hseen, hlater, rfl⟩⟩ :=
      siftAfter_cons_eq_ok h
    · rw [hstands.any_of_seen hid hseen] at hhere
      obtain ⟨ihKept, ihSkipped⟩ := ih (hstands.skip hid hseen) hlater hkept
      rw [← hlist, ← hlength] at ihKept ihSkipped
      simp [List.zipIdx_cons, hhere, ihKept, ihSkipped]
    · obtain ⟨n, hn⟩ := hkept rule (by simp)
      obtain rfl : key = .int n := by
        rw [hn] at hid
        exact (Value.scalar.inj hid).symm
      rw [hstands.any_of_not_seen hn hseen] at hhere
      obtain ⟨ihKept, ihSkipped⟩ := ih (hstands.keep hn) hlater
        fun other hother => hkept other (by simp [hother])
      rw [← hlist, ← hlength] at ihKept ihSkipped
      simp [List.zipIdx_cons, hhere, ihKept, ihSkipped]

theorem sift_eq_firsts {rules : List Rule} {sifted : Sifted} (h : sift rules = .ok sifted)
    (hkept : ∀ rule ∈ sifted.kept, rule.HasNumber) :
    sifted.kept = firsts rules ∧ sifted.skipped = (repeats rules).map (·.id) := by
  simpa [firsts, repeats] using siftAfter_eq_firsts .nil h hkept

/-! ## Rules with numbers

A compiled rule has a whole number as its id. Of such rules there is always a sifted list, and no id
is in it twice.
-/

theorem exists_siftAfter (seen : List Scalar) {rules : List Rule}
    (hnumbers : ∀ rule ∈ rules, rule.HasNumber) : ∃ sifted, siftAfter seen rules = .ok sifted := by
  induction rules generalizing seen with
  | nil => exact ⟨⟨[], []⟩, rfl⟩
  | cons rule rest ih =>
    obtain ⟨n, hn⟩ := hnumbers rule (by simp)
    have hrest : ∀ other ∈ rest, other.HasNumber := fun other hother =>
      hnumbers other (by simp [hother])
    rw [siftAfter, hn]
    simp only [Value.idKey, Outcome.ok_bind]
    split
    · obtain ⟨later, hlater⟩ := ih _ hrest
      exact ⟨_, by rw [hlater, Outcome.ok_bind]; rfl⟩
    · obtain ⟨later, hlater⟩ := ih _ hrest
      exact ⟨_, by rw [hlater, Outcome.ok_bind]; rfl⟩

theorem kept_distinct {seen : List Scalar} {rules : List Rule} {sifted : Sifted}
    (hnumbers : ∀ rule ∈ rules, rule.HasNumber) (h : siftAfter seen rules = .ok sifted) :
    (∀ rule ∈ sifted.kept, ∀ n, .int n ∈ seen → rule.id ≠ .int n) ∧
      (sifted.kept.map (·.id)).Nodup := by
  induction rules generalizing seen sifted with
  | nil =>
    cases h
    simp
  | cons rule rest ih =>
    have hrest : ∀ other ∈ rest, other.HasNumber := fun other hother =>
      hnumbers other (by simp [hother])
    obtain ⟨key, later, hid, ⟨-, hlater, rfl⟩ | ⟨hseen, hlater, rfl⟩⟩ := siftAfter_cons_eq_ok h
    · obtain ⟨hnew, hdistinct⟩ := ih hrest hlater
      exact ⟨hnew, hdistinct⟩
    · obtain ⟨hnew, hdistinct⟩ := ih hrest hlater
      obtain ⟨n, hn⟩ := hnumbers rule (by simp)
      obtain rfl : key = .int n := by
        rw [hn] at hid
        exact (Value.scalar.inj hid).symm
      constructor
      · intro other hother m hm
        rcases List.mem_cons.1 hother with rfl | hother
        · intro heq
          obtain rfl : n = m := by simpa [hn] using heq
          have := List.any_eq_false.1 hseen _ hm
          simp at this
        · exact hnew other hother m (by simp [hm])
      · rw [List.map_cons, List.nodup_cons]
        refine ⟨?_, hdistinct⟩
        intro hmem
        obtain ⟨other, hother, heq⟩ := List.mem_map.1 hmem
        exact hnew other hother n (by simp) (heq.trans hn)

theorem sift_of_hasNumber {rules : List Rule} (hnumbers : ∀ rule ∈ rules, rule.HasNumber) :
    sift rules = .ok ⟨firsts rules, (repeats rules).map (·.id)⟩ := by
  obtain ⟨sifted, hsifted⟩ := exists_siftAfter [] hnumbers
  have hkept : ∀ rule ∈ sifted.kept, rule.HasNumber := fun rule hrule =>
    hnumbers rule ((kept_sublist hsifted).subset hrule)
  obtain ⟨hfirsts, hrepeats⟩ := sift_eq_firsts hsifted hkept
  rw [← hfirsts, ← hrepeats]
  exact hsifted

theorem firsts_sublist {rules : List Rule} (hnumbers : ∀ rule ∈ rules, rule.HasNumber) :
    (firsts rules).Sublist rules := kept_sublist (sift_of_hasNumber hnumbers)

theorem hasNumber_of_mem_firsts {rules : List Rule} (hnumbers : ∀ rule ∈ rules, rule.HasNumber) :
    ∀ rule ∈ firsts rules, rule.HasNumber :=
  fun rule hrule => hnumbers rule ((firsts_sublist hnumbers).subset hrule)

theorem firsts_distinct {rules : List Rule} (hnumbers : ∀ rule ∈ rules, rule.HasNumber) :
    ((firsts rules).map (·.id)).Nodup := (kept_distinct hnumbers (sift_of_hasNumber hnumbers)).2

/-! ## Nothing is lost -/

theorem firsts_append_repeats_perm (rules : List Rule) :
    (firsts rules ++ repeats rules).Perm rules := by
  have hparts := (List.filter_append_perm (repeatsAt rules) rules.zipIdx).map Prod.fst
  rw [List.map_append, List.zipIdx_map_fst] at hparts
  exact List.perm_append_comm.trans hparts

theorem mem_of_mem_repeats {rules : List Rule} {rule : Rule} (h : rule ∈ repeats rules) :
    rule ∈ rules :=
  (firsts_append_repeats_perm rules).subset (List.mem_append_right _ h)

theorem exists_kept_of_mem {seen : List Scalar} {rules : List Rule} {sifted : Sifted}
    (hnumbers : ∀ rule ∈ rules, rule.HasNumber) (h : siftAfter seen rules = .ok sifted)
    {rule : Rule} (hmem : rule ∈ rules) {n : Int} (hid : rule.id = .int n) :
    seen.any (Scalar.int n).sameKey = true ∨ ∃ kept ∈ sifted.kept, kept.id = .int n := by
  induction rules generalizing seen sifted with
  | nil => cases hmem
  | cons other rest ih =>
    have hrest : ∀ later ∈ rest, later.HasNumber := fun later hlater =>
      hnumbers later (by simp [hlater])
    obtain ⟨key, later, hkey, ⟨hseen, hlater, rfl⟩ | ⟨-, hlater, rfl⟩⟩ := siftAfter_cons_eq_ok h
    · rcases List.mem_cons.1 hmem with rfl | hmem
      · obtain rfl : key = .int n := Value.scalar.inj (hkey.symm.trans hid)
        exact .inl hseen
      · have hlast := ih hrest hlater hmem
        exact hlast
    · rcases List.mem_cons.1 hmem with rfl | hmem
      · exact .inr ⟨rule, by simp, hid⟩
      · rcases ih hrest hlater hmem with hseen | ⟨kept, hkept, hsame⟩
        · rw [List.any_cons, Bool.or_eq_true] at hseen
          refine hseen.symm.imp_right fun hown => ⟨other, by simp, ?_⟩
          obtain ⟨m, hm⟩ := hnumbers other (by simp)
          obtain rfl : key = .int m := Value.scalar.inj (hkey.symm.trans hm)
          rw [hm, eq_of_beq hown]
        · exact .inr ⟨kept, by simp [hkept], hsame⟩

theorem exists_first_of_mem {rules : List Rule} (hnumbers : ∀ rule ∈ rules, rule.HasNumber)
    {rule : Rule} (hmem : rule ∈ rules) : ∃ first ∈ firsts rules, first.id = rule.id := by
  obtain ⟨n, hn⟩ := hnumbers rule hmem
  rw [hn]
  exact (exists_kept_of_mem hnumbers (sift_of_hasNumber hnumbers) hmem hn).resolve_left (by simp)

end Rule

end HeaderRules
