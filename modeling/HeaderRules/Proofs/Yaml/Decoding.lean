import HeaderRules.Proofs.Yaml.Composer
import HeaderRules.Proofs.Yaml.Source
import HeaderRules.Proofs.Yaml.Tokens
/-!
# Bytes that are no text

A document is read only from bytes that are text to their end, though they are decoded no further
than reading goes. Where the first chunk is no text, nothing comes before the fault of the bytes.
-/

namespace HeaderRules.Yaml

theorem decode?_isSome_of_read {bytes : List UInt8} {value : Value} (h : read bytes = .ok value) :
    (Text.Utf8.decode? bytes).isSome := by
  obtain ⟨root, hroot, -⟩ := Outcome.bind_eq_ok.1 h
  have hend := streamEnd_mem_of_ofTokens hroot
  have hsource : (Source.ofBytes bytes).fault = none := by
    cases hfault : (Source.ofBytes bytes).fault with
    | none => rfl
    | some fault =>
      exact absurd hend (TokenStream.streamEnd_not_mem_of_fault (by rw [hfault]; rfl))
  exact Text.Utf8.decode?_isSome (Source.completes_of_ofBytes hsource)

section

variable {bytes : List UInt8} {start length : Nat} {reason : Text.Utf8.Reason}
  (h : (Text.Utf8.decode (bytes.take Source.chunkSize)).ending = .refused start length reason)

include h

theorem Source.ofBytes_of_refused :
    Source.ofBytes bytes = ⟨[], some (.undecodable
      (((bytes.take Source.chunkSize).drop start).headD 0) start length reason)⟩ := by
  have hchunk : Reading.decodeChunk ⟨bytes, [], false, [], false⟩ = .error (.undecodable
      (((bytes.take Source.chunkSize).drop start).headD 0) start length reason) := by
    simp [Reading.decodeChunk, h]
  have hblock : Reading.block ⟨bytes, [], false, [], false⟩ = .error (.undecodable
      (((bytes.take Source.chunkSize).drop start).headD 0) start length reason) := by
    unfold Reading.block Reading.fill
    simp only [List.length_nil, Bool.false_or, decide_eq_true_eq]
    rw [if_neg (by decide), hchunk]
    rfl
  simp [Source.ofBytes, hblock]

theorem read_of_refused :
    read bytes = .error (.undecodable
      (((bytes.take Source.chunkSize).drop start).headD 0) start length reason) := by
  rw [read, Source.ofBytes_of_refused h]
  rfl

end

end HeaderRules.Yaml
