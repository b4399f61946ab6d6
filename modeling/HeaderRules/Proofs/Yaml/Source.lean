import HeaderRules.Yaml.Source
import HeaderRules.Proofs.Outcome
import HeaderRules.Proofs.Text.Utf8
/-!
# Reading in chunks and blocks

Bytes that are no text are never read to their end without a fault, however the chunks and blocks
fall.
-/

namespace HeaderRules.Yaml.Source

open Text.Utf8 (Completes)

theorem unifyLineEnds_length_le (waiting : Bool) (text : List Char) :
    (unifyLineEnds waiting text).length ≤ text.length := by
  induction text generalizing waiting with
  | nil => exact Nat.le_refl 0
  | cons c rest ih =>
    unfold unifyLineEnds
    split
    · simpa using ih true
    · split
      · exact Nat.le_trans (ih false) (by simp)
      · simpa using ih false

namespace Reading

def rest (r : Reading) : List UInt8 := r.held ++ r.bytes

def size (r : Reading) : Nat := r.rest.length + r.waiting.toNat + r.ready.length

def Sound (r : Reading) : Prop := r.ended = true → r.rest = []

structure Follows (r r' : Reading) : Prop where
  sound : r'.Sound
  size : r'.size ≤ r.size
  completes : Completes none r'.rest → Completes none r.rest

variable {r r' : Reading} {fuel : Nat}

theorem Follows.refl (h : r.Sound) : r.Follows r := ⟨h, Nat.le_refl _, id⟩

theorem Follows.trans {r'' : Reading} (h : r.Follows r') (h' : r'.Follows r'') : r.Follows r'' :=
  ⟨h'.sound, Nat.le_trans h'.size h.size, h.completes ∘ h'.completes⟩

/-- The characters of a chunk, behind a carriage return that has waited for them. -/
def text (r : Reading) (chars : List Char) : List Char :=
  if r.waiting && ((r.bytes.take chunkSize).isEmpty || !chars.isEmpty) then '\r' :: chars else chars

def waits (r : Reading) (text : List Char) : Bool :=
  !(r.bytes.take chunkSize).isEmpty && text.getLast? == some '\r'

/-- The state after the characters of a chunk, with the bytes of one that is not complete. -/
def next (r : Reading) (chars : List Char) (held : List UInt8) : Reading :=
  let text := r.text chars
  { bytes := r.bytes.drop chunkSize
    held := held
    waiting := r.waits text || (r.waiting && text.isEmpty)
    ready := r.ready ++ unifyLineEnds false (if r.waits text then text.dropLast else text)
    ended := (r.bytes.take chunkSize).isEmpty }

@[simp] theorem rest_next (r : Reading) (chars : List Char) (held : List UInt8) :
    (r.next chars held).rest = held ++ r.bytes.drop chunkSize := rfl

/-- A chunk makes characters of some bytes and keeps those behind them. -/
theorem decodeChunk_eq_ok (h : r.decodeChunk = .ok r') :
    ∃ before held chars, r.held ++ r.bytes.take chunkSize = before ++ held ∧
      r' = r.next chars held ∧ chars.length ≤ before.length ∧
      (r.bytes.take chunkSize = [] → held = []) ∧
      ∀ after, Completes none (held ++ after) →
        Completes none (r.held ++ r.bytes.take chunkSize ++ after) := by
  unfold decodeChunk at h
  simp only [Text.Utf8.decode] at h
  split at h
  · rename_i hending
    refine ⟨r.held ++ r.bytes.take chunkSize, [], _, by simp, (Except.ok.inj h).symm, ?_, ?_, ?_⟩
    · exact Text.Utf8.chars_length_le none 0 _
    · exact fun _ => rfl
    · exact fun after => Text.Utf8.completes_append hending
  · rename_i read hending
    split at h
    · cases h
    · rename_i hfinal
      obtain ⟨before, kept, hsplit, hlength, hchars, hafter⟩ := Text.Utf8.exists_held .nil hending
      rw [List.nil_append] at hsplit
      have hkept : (r.held ++ r.bytes.take chunkSize).drop
          ((r.held ++ r.bytes.take chunkSize).length - read) = kept := by
        rw [hsplit, ← hlength]
        simp
      rw [hkept] at h
      refine ⟨before, kept, _, hsplit, (Except.ok.inj h).symm, hchars, ?_, hafter⟩
      intro hempty
      exact absurd (List.isEmpty_iff.2 hempty) hfinal
  · cases h

theorem text_length_le (r : Reading) (chars : List Char) :
    (r.text chars).length + (r.waiting && (r.text chars).isEmpty).toNat ≤
      chars.length + r.waiting.toNat := by
  unfold text
  cases r.waiting with
  | false => simp
  | true =>
    split
    · simp
    · cases chars <;> simp

theorem next_length_le (r : Reading) (chars : List Char) (held : List UInt8) :
    (r.next chars held).waiting.toNat + (r.next chars held).ready.length ≤
      r.waiting.toNat + r.ready.length + chars.length := by
  have htext := r.text_length_le chars
  simp only [next, List.length_append]
  cases hwaits : r.waits (r.text chars) with
  | false =>
    have hunify := unifyLineEnds_length_le false (r.text chars)
    simp only [Bool.false_or, Bool.false_eq_true, if_false]
    omega
  | true =>
    -- the carriage return that waits is taken from the text
    have hne : r.text chars ≠ [] := by
      intro hnil
      simp [waits, hnil] at hwaits
    have hpos := List.length_pos_iff.2 hne
    have hunify := unifyLineEnds_length_le false (r.text chars).dropLast
    rw [List.length_dropLast] at hunify
    simp only [Bool.true_or, Bool.toNat_true, if_true]
    omega

theorem bytes_eq_nil (h : r.bytes.take chunkSize = []) : r.bytes = [] := by
  rw [List.take_eq_nil_iff] at h
  exact h.resolve_left (by decide)

/-- The bytes behind a chunk make characters only if all bytes do. -/
theorem decodeChunk_follows (h : r.decodeChunk = .ok r') : r.Follows r' := by
  obtain ⟨before, held, chars, hsplit, rfl, hchars, hfinal, hafter⟩ := decodeChunk_eq_ok h
  have hbytes : r.rest = r.held ++ r.bytes.take chunkSize ++ r.bytes.drop chunkSize := by
    rw [List.append_assoc, List.take_append_drop]
    rfl
  refine ⟨?_, ?_, ?_⟩
  · intro hended
    have hempty := List.isEmpty_iff.1 hended
    rw [rest_next, hfinal hempty, bytes_eq_nil hempty]
    rfl
  · have hlength := r.next_length_le chars held
    rw [size, size, rest_next, hbytes, hsplit]
    simp only [List.length_append]
    omega
  · intro hcompletes
    rw [hbytes]
    exact hafter _ hcompletes

def steps (r : Reading) : Nat := if r.ended then 1 else r.bytes.length + 2

theorem steps_next_lt (hended : r.ended = false) (chars : List Char) (held : List UInt8) :
    (r.next chars held).steps < r.steps := by
  simp only [steps, next, hended, List.length_drop, Bool.false_eq_true, if_false]
  split
  · omega
  · rename_i hgoes
    have hbytes : r.bytes ≠ [] := by
      intro hnil
      simp [hnil] at hgoes
    have hpos := List.length_pos_iff.2 hbytes
    have hchunk : 0 < chunkSize := by decide
    omega

/-- Enough chunks make a block ready, or reach the end. -/
theorem fill_follows (hsound : r.Sound) (hfuel : r.steps ≤ fuel) (h : r.fill fuel = .ok r') :
    r.Follows r' ∧ (r'.ended = true ∨ blockSize ≤ r'.ready.length) := by
  induction fuel generalizing r with
  | zero =>
    unfold steps at hfuel
    split at hfuel <;> omega
  | succ fuel ih =>
    rw [fill] at h
    split at h
    · rename_i hdone
      obtain rfl := Except.ok.inj h
      exact ⟨.refl hsound, by simpa using hdone⟩
    · rename_i hgoes
      obtain ⟨next, hnext, h⟩ := Outcome.bind_eq_ok.1 h
      have hfollows := decodeChunk_follows hnext
      obtain ⟨-, held, chars, -, rfl, -⟩ := decodeChunk_eq_ok hnext
      have hended : r.ended = false := by
        cases hended : r.ended with
        | false => rfl
        | true => simp [hended] at hgoes
      have hsteps := steps_next_lt hended chars held
      obtain ⟨hrest, hend⟩ := ih hfollows.sound (by omega) h
      exact ⟨hfollows.trans hrest, hend⟩

/-- A block takes its characters from what is to come. When there are none left, all bytes make
characters. -/
theorem block_spec {block : List Char} (hsound : r.Sound) (h : r.block = .ok (block, r')) :
    r'.Sound ∧ r'.size + block.length ≤ r.size ∧
      (Completes none r'.rest → Completes none r.rest) ∧ (block = [] → Completes none r.rest) := by
  obtain ⟨filled, hfill, h⟩ := Outcome.bind_eq_ok.1 h
  obtain ⟨rfl, rfl⟩ := Prod.mk.inj (Except.ok.inj h)
  have hfuel : r.steps ≤ r.bytes.length + 2 := by
    unfold steps
    split <;> omega
  obtain ⟨hfollows, hend⟩ := fill_follows hsound hfuel hfill
  refine ⟨hfollows.sound, ?_, hfollows.completes, ?_⟩
  · have hready := congrArg List.length (List.take_append_drop blockSize filled.ready)
    rw [List.length_append] at hready
    have hsize := hfollows.size
    simp only [size, rest] at hsize ⊢
    omega
  · intro hempty
    have hended : filled.ended = true := by
      refine hend.resolve_right fun hlong => ?_
      have hpos : 0 < blockSize := by decide
      have hlength := congrArg List.length hempty
      rw [List.length_take] at hlength
      simp only [List.length_nil] at hlength
      omega
    apply hfollows.completes
    rw [hfollows.sound hended]
    exact Text.Utf8.completes_nil

end Reading

/-- Blocks are read until nothing is left, unless there is a fault. -/
theorem completes_of_readBlocks {fuel : Nat} {r : Reading} (hsound : r.Sound)
    (hfuel : r.size < fuel) (h : (readBlocks fuel r).fault = none) : Completes none r.rest := by
  induction fuel generalizing r with
  | zero => omega
  | succ fuel ih =>
    rw [readBlocks] at h
    split at h
    · cases h
    · rename_i hblock
      exact (Reading.block_spec hsound hblock).2.2.2 rfl
    · rename_i block next hne hblock
      obtain ⟨hnext, hsize, hcompletes, -⟩ := Reading.block_spec hsound hblock
      split at h
      · cases h
      · have hpos := List.length_pos_iff.2 hne
        exact hcompletes (ih hnext (by omega) h)

theorem completes_of_ofBytes {bytes : List UInt8} (h : (ofBytes bytes).fault = none) :
    Completes none bytes := by
  simp only [ofBytes] at h
  split at h
  · cases h
  · rename_i text r hfirst
    obtain ⟨⟨a, first⟩, ha, hfirst⟩ := Outcome.bind_eq_ok.1 hfirst
    obtain ⟨⟨b, second⟩, hb, hfirst⟩ := Outcome.bind_eq_ok.1 hfirst
    obtain ⟨checked, -, hfirst⟩ := Outcome.bind_eq_ok.1 hfirst
    obtain ⟨-, rfl⟩ := Prod.mk.inj (Except.ok.inj hfirst)
    have hstart : Reading.Sound ⟨bytes, [], false, [], false⟩ := fun hended => by cases hended
    obtain ⟨hsoundA, hsizeA, hcompletesA, -⟩ := Reading.block_spec hstart ha
    obtain ⟨hsoundB, hsizeB, hcompletesB, -⟩ := Reading.block_spec hsoundA hb
    have hsize : second.size < bytes.length + 1 := by
      simp only [Reading.size, Reading.rest, List.nil_append, Bool.toNat_false,
        List.length_nil] at hsizeA hsizeB ⊢
      omega
    exact hcompletesA (hcompletesB (completes_of_readBlocks hsoundB hsize h))

end HeaderRules.Yaml.Source
