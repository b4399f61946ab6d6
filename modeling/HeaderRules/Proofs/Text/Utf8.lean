import HeaderRules.Text.Utf8
/-!
# Decoding in parts

Bytes may be decoded in parts, as long as the bytes of a character that is not complete are kept and
put in front of the next part.
-/

namespace HeaderRules.Text.Utf8

/-- The number of bytes that have been read of a character. -/
def readOf : Option Opened → Nat
  | none => 0
  | some o => o.read

/-- What one byte does, whatever follows it: it ends a character, becomes part of one, or is
refused. -/
inductive ByteStep (state : Option Opened) (byte : UInt8) : Prop
  | ends (c : Char) (eq : ∀ position rest, decodeFrom position state (byte :: rest) =
      (decodeFrom (position + 1) none rest).cons c)
  | continues (o : Opened) (read : o.read = readOf state + 1)
      (eq : ∀ position rest, decodeFrom position state (byte :: rest) =
        decodeFrom (position + 1) (some o) rest)
  | refused (eq : ∀ position rest, ∃ start length reason,
      decodeFrom position state (byte :: rest) = ⟨[], .refused start length reason⟩)

theorem opened?_read {byte : Nat} {o : Opened} (h : opened? byte = some o) : o.read = 1 := by
  unfold opened? at h
  grind

theorem byteStep (state : Option Opened) (byte : UInt8) : ByteStep state byte := by
  cases state with
  | none =>
    by_cases hascii : byte.toNat < 0x80
    · exact .ends (Char.ofNat byte.toNat) fun position rest => by simp [decodeFrom, hascii]
    · cases hopened : opened? byte.toNat with
      | none =>
        exact .refused fun position rest =>
          ⟨position, 1, .start, by simp [decodeFrom, hascii, hopened]⟩
      | some o =>
        exact .continues o (by simp [readOf, opened?_read hopened]) fun position rest => by
          simp [decodeFrom, hascii, hopened]
  | some o =>
    by_cases hrange : byte.toNat < o.low ∨ o.high < byte.toNat
    · exact .refused fun position rest => ⟨position - o.read, o.read, .continuation, by
        simp [decodeFrom, hrange]⟩
    · by_cases howed : o.owed ≤ 1
      · exact .ends (Char.ofNat (o.bits * 0x40 + (byte.toNat - 0x80))) fun position rest => by
          simp [decodeFrom, hrange, howed]
      · refine .continues
          ⟨o.bits * 0x40 + (byte.toNat - 0x80), o.read + 1, o.owed - 1, 0x80, 0xBF⟩ rfl ?_
        exact fun position rest => by simp [decodeFrom, hrange, howed]

/-- Bytes make characters and nothing else, when reading them begins in some state. -/
def Completes (state : Option Opened) (bytes : List UInt8) : Prop :=
  ∀ position, (decodeFrom position state bytes).ending = .complete

theorem completes_nil : Completes none [] := fun _ => rfl

/-- The state in which reading some bytes ends that are part of one character. -/
structure Holds (held : List UInt8) (state : Option Opened) : Prop where
  read : readOf state = held.length
  eq : ∀ position rest,
    decodeFrom position none (held ++ rest) = decodeFrom (position + held.length) state rest

theorem Holds.nil : Holds [] none := ⟨rfl, fun _ _ => rfl⟩

variable {state : Option Opened} {position : Nat}

theorem Holds.extend {held : List UInt8} {byte : UInt8} {o : Opened} (h : Holds held state)
    (hread : o.read = readOf state + 1)
    (heq : ∀ position rest, decodeFrom position state (byte :: rest) =
      decodeFrom (position + 1) (some o) rest) : Holds (held ++ [byte]) (some o) where
  read := by
    rw [List.length_append, ← h.read]
    exact hread
  eq position rest := by
    rw [List.append_assoc, h.eq, List.singleton_append, heq]
    simp [Nat.add_assoc]

theorem chars_length_le (state : Option Opened) (position : Nat) (bytes : List UInt8) :
    (decodeFrom position state bytes).chars.length ≤ bytes.length := by
  induction bytes generalizing state position with
  | nil => cases state <;> simp [decodeFrom]
  | cons byte rest ih =>
    cases byteStep state byte with
    | ends c eq =>
      rw [eq]
      simpa [Decoded.cons] using ih none (position + 1)
    | continues o read eq =>
      rw [eq]
      exact Nat.le_trans (ih (some o) (position + 1)) (by simp)
    | refused eq =>
      obtain ⟨start, length, reason, heq⟩ := eq position rest
      simp [heq]

/-- When reading ends between characters, what follows can be read on its own. -/
theorem completes_append {before after : List UInt8}
    (h : (decodeFrom position state before).ending = .complete) (hafter : Completes none after) :
    Completes state (before ++ after) := by
  induction before generalizing state position with
  | nil =>
    cases state with
    | none => exact hafter
    | some o => cases h
  | cons byte rest ih =>
    intro start
    rw [List.cons_append]
    cases byteStep state byte with
    | ends c eq =>
      rw [eq] at h ⊢
      exact ih h (start + 1)
    | continues o read eq =>
      rw [eq] at h ⊢
      exact ih h (start + 1)
    | refused eq =>
      obtain ⟨first, length, reason, heq⟩ := eq position rest
      rw [heq] at h
      cases h

theorem completes_of_ending {bytes : List UInt8}
    (h : (decodeFrom position state bytes).ending = .complete) : Completes state bytes := by
  simpa using completes_append h completes_nil

/-- When reading ends within a character, what follows can be read behind the bytes of it. -/
theorem exists_held {held bytes : List UInt8} {read : Nat} (hheld : Holds held state)
    (h : (decodeFrom position state bytes).ending = .within read) :
    ∃ before kept, held ++ bytes = before ++ kept ∧ kept.length = read ∧
      (decodeFrom position state bytes).chars.length ≤ before.length ∧
      ∀ after, Completes none (kept ++ after) → Completes state (bytes ++ after) := by
  induction bytes generalizing state position held with
  | nil =>
    cases state with
    | none => cases h
    | some o =>
      refine ⟨[], held, by simp, ?_, by simp [decodeFrom], ?_⟩
      · rw [← hheld.read]
        exact Ending.within.inj h
      · intro after hafter
        have hcomplete := hafter 0
        rw [hheld.eq] at hcomplete
        exact completes_of_ending hcomplete
  | cons byte rest ih =>
    cases byteStep state byte with
    | ends c eq =>
      rw [eq] at h ⊢
      obtain ⟨before, kept, hsplit, hlength, hchars, hafter⟩ := ih .nil h
      refine ⟨held ++ byte :: before, kept, ?_, hlength, ?_, ?_⟩
      · rw [List.nil_append] at hsplit
        simp [hsplit]
      · simp [Decoded.cons]
        omega
      · intro after hkept start
        rw [List.cons_append, eq]
        exact hafter after hkept (start + 1)
    | continues o read eq =>
      rw [eq] at h ⊢
      obtain ⟨before, kept, hsplit, hlength, hchars, hafter⟩ := ih (hheld.extend read eq) h
      refine ⟨before, kept, by simpa using hsplit, hlength, hchars, ?_⟩
      intro after hkept start
      rw [List.cons_append, eq]
      exact hafter after hkept (start + 1)
    | refused eq =>
      obtain ⟨start, length, reason, heq⟩ := eq position rest
      rw [heq] at h
      cases h

theorem decode?_isSome {bytes : List UInt8} (h : Completes none bytes) :
    (decode? bytes).isSome := by
  have hending : (decode bytes).ending = .complete := h 0
  cases hdecode : decode bytes with
  | mk chars ending =>
    obtain rfl : ending = .complete := by rw [← hending, hdecode]
    simp [decode?, hdecode]

end HeaderRules.Text.Utf8
