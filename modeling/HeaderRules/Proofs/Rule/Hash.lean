import HeaderRules.Proofs.Text.Raw
import HeaderRules.Rule.Id
import Mathlib.Data.Nat.ModEq
/-!
# Collisions of the hash

Two texts have one rule id exactly if their hashes leave the same remainder. Every step of the hash
can be undone when the byte is known, so what stands behind two texts neither brings their hashes
together nor keeps them apart, and texts that differ in one byte never have the same hash. What
stands before them does count: it is hashed first.
-/

namespace HeaderRules.RuleId

/-- One byte more, on numbers of any size of which the low 32 bits are kept. -/
def mixNat (hash : Nat) (byte : UInt8) : Nat := ((hash ^^^ byte.toNat) * 0x01000193) &&& 0xFFFFFFFF

variable {hash other : UInt32} {byte : UInt8}

/-! ## Numbers -/

theorem mixNat_lt (hash : Nat) (byte : UInt8) : mixNat hash byte < 2 ^ 32 :=
  Nat.and_lt_two_pow _ (by decide)

theorem toNat_mix (hash : UInt32) (byte : UInt8) :
    (mix hash byte).toNat = mixNat hash.toNat byte := by
  have hmask : (0xFFFFFFFF : Nat) = 2 ^ 32 - 1 := rfl
  rw [mix, UInt32.toNat_mul, UInt32.toNat_xor, UInt8.toNat_toUInt32, mixNat, hmask,
    Nat.and_two_pow_sub_one_eq_mod]
  rfl

theorem toNat_foldl_mix (hash : UInt32) (bytes : List UInt8) :
    (bytes.foldl mix hash).toNat = bytes.foldl mixNat hash.toNat := by
  induction bytes generalizing hash with
  | nil => rfl
  | cons byte rest ih => rw [List.foldl_cons, List.foldl_cons, ih, toNat_mix]

theorem foldl_mixNat_lt {hash : Nat} (h : hash < 2 ^ 32) (bytes : List UInt8) :
    bytes.foldl mixNat hash < 2 ^ 32 := by
  induction bytes generalizing hash with
  | nil => exact h
  | cons byte rest ih => exact ih (mixNat_lt hash byte)

/-! ## Steps that can be undone -/

/-- The factor is odd, so it has an inverse among the words. -/
theorem prime_mul_inverse : prime * 0x359C449B = 1 := by decide

theorem mul_prime_inj : hash * prime = other * prime ↔ hash = other := by
  refine ⟨fun h => ?_, congrArg (· * prime)⟩
  have hback := congrArg (· * (0x359C449B : UInt32)) h
  simpa only [UInt32.mul_assoc, prime_mul_inverse, UInt32.mul_one] using hback

theorem mix_inj : mix hash byte = mix other byte ↔ hash = other := by
  rw [mix, mix, mul_prime_inj, UInt32.xor_left_inj]

theorem mix_byte_inj {a b : UInt8} : mix hash a = mix hash b ↔ a = b := by
  rw [mix, mix, mul_prime_inj, UInt32.xor_right_inj, UInt8.toUInt32_inj]

theorem foldl_mix_inj (bytes : List UInt8) :
    bytes.foldl mix hash = bytes.foldl mix other ↔ hash = other := by
  induction bytes generalizing hash other with
  | nil => exact Iff.rfl
  | cons byte rest ih => rw [List.foldl_cons, List.foldl_cons, ih, mix_inj]

theorem fnv1a_append (s t : List UInt8) : fnv1a (s ++ t) = t.foldl mix (fnv1a s) :=
  List.foldl_append

/-- What stands behind two texts has no part in whether they collide. -/
theorem fnv1a_append_inj (s t behind : List UInt8) :
    fnv1a (s ++ behind) = fnv1a (t ++ behind) ↔ fnv1a s = fnv1a t := by
  rw [fnv1a_append, fnv1a_append, foldl_mix_inj]

theorem fnv1a_middle_inj (before behind : List UInt8) {a b : UInt8} :
    fnv1a (before ++ a :: behind) = fnv1a (before ++ b :: behind) ↔ a = b := by
  rw [fnv1a_append, fnv1a_append, List.foldl_cons, List.foldl_cons, foldl_mix_inj, mix_byte_inj]

/-! ## Ids -/

theorem ofBytes_eq (bytes : List UInt8) :
    ofBytes bytes = ((fnv1a bytes).toNat % 2147483646 + 1 : Nat) := rfl

theorem ofBytes_bounds (bytes : List UInt8) : 1 ≤ ofBytes bytes ∧ ofBytes bytes ≤ 2147483646 := by
  have hlt := Nat.mod_lt (fnv1a bytes).toNat (show 0 < 2147483646 by decide)
  rw [ofBytes_eq]
  omega

theorem ofBytes_inj (s t : List UInt8) :
    ofBytes s = ofBytes t ↔ (fnv1a s).toNat ≡ (fnv1a t).toNat [MOD 2147483646] := by
  rw [ofBytes_eq, ofBytes_eq, Nat.ModEq]
  omega

theorem ofText_eq_ok {s : RawText} {id : Int} :
    ofText s = .ok id ↔ ∃ bytes, s.encode = .ok bytes ∧ ofBytes bytes = id := by
  unfold ofText
  cases s.encode <;> simp

theorem ofText_ofString (s : String) : ofText s = .ok (ofBytes s.toUTF8.toList) := by
  rw [ofText, RawText.encode_ofString, Outcome.map_ok]

@[simp]
theorem isRagged_key (profile matcher : RawText) :
    (key profile matcher).isRagged = (profile.isRagged || matcher.isRagged) := by
  have hcolon := RawText.isRagged_ofString ":"
  have hend := RawText.isRagged_ofString ":reqres"
  simp only [RawText.isRagged] at hcolon hend ⊢
  simp only [key, List.any_append, hcolon, hend, Bool.or_false]

/-- The hash is that of numbers of any size, which stay below `2 ^ 32` with every byte. Whatever
stands before two texts, what stands behind them neither makes them collide nor keeps them from it,
and one byte in the place of another always changes the hash. The ids of texts of characters are in
range, and they are the same exactly if the hashes leave the same remainder. -/
theorem fnv1a_collisions :
    (∀ bytes, (fnv1a bytes).toNat = bytes.foldl mixNat 0x811C9DC5 ∧
      bytes.foldl mixNat 0x811C9DC5 < 2 ^ 32) ∧
    (∀ before s t behind, fnv1a (before ++ s ++ behind) = fnv1a (before ++ t ++ behind) ↔
      fnv1a (before ++ s) = fnv1a (before ++ t)) ∧
    (∀ before behind a b, fnv1a (before ++ a :: behind) = fnv1a (before ++ b :: behind) ↔ a = b) ∧
    (∀ s : String, ∃ id, ofText s = .ok id ∧ 1 ≤ id ∧ id ≤ 2147483646) ∧
    (∀ s t : String, ofText s = ofText t ↔
      (fnv1a s.toUTF8.toList).toNat ≡ (fnv1a t.toUTF8.toList).toNat [MOD 2147483646]) := by
  refine ⟨fun bytes => ?_, ?_, ?_, fun s => ?_, fun s t => ?_⟩
  · exact ⟨toNat_foldl_mix offsetBasis bytes, foldl_mixNat_lt (by decide) bytes⟩
  · intro before s t behind
    exact fnv1a_append_inj (before ++ s) (before ++ t) behind
  · intro before behind a b
    exact fnv1a_middle_inj before behind
  · exact ⟨_, ofText_ofString s, ofBytes_bounds _⟩
  · rw [ofText_ofString, ofText_ofString, Except.ok.injEq, ofBytes_inj]

/-- Two texts that collide by themselves and no longer do so behind the id of a profile. -/
theorem fnv1a_prefix_separates :
    fnv1a "liquid".toUTF8.toList = fnv1a "costarring".toUTF8.toList ∧
      ofText "liquid" = ofText "costarring" ∧
      fnv1a ("dev:".toUTF8.toList ++ "liquid".toUTF8.toList) ≠
        fnv1a ("dev:".toUTF8.toList ++ "costarring".toUTF8.toList) ∧
      ofPair "dev" "liquid" ≠ ofPair "dev" "costarring" := by
  decide +kernel

end HeaderRules.RuleId
