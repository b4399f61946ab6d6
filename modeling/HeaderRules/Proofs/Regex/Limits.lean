import HeaderRules.Proofs.Outcome
import HeaderRules.Regex.Compile
/-!
# Limits of patterns

Most refusals of a pattern are faults of the pattern. The others have a cause that can be seen in
its text: a count with too many digits or with too great a value, an escape of a code beyond all
code points, or options that ask for both alphabets.
-/

namespace HeaderRules.Regex

open HeaderRules.Text (ofDigits)
open HeaderRules.Number (maxDigits)

/-- Whether a text has a count of the given digits, alone between braces or as one of two. -/
inductive Counts (digits text : List Char) : Prop
  | only (piece : '\x7b' :: digits ++ ['\x7d'] <:+: text)
  | least (greatest : List Char) (piece : '\x7b' :: digits ++ ',' :: greatest ++ ['\x7d'] <:+: text)
  | greatest (least : List Char) (piece : '\x7b' :: least ++ ',' :: digits ++ ['\x7d'] <:+: text)

/-- Whether a text sets an option for the whole pattern. -/
def Asks (letter : Char) (text : List Char) : Prop :=
  ∃ letters, letter ∈ letters ∧ (∀ c ∈ letters, isFlagLetter c = true) ∧
    '(' :: '?' :: letters ++ [')'] <:+: text

inductive Alphabet
  | ascii
  | unicode

namespace Alphabet

def letter : Alphabet → Char
  | ascii => 'a'
  | unicode => 'u'

def isSet (flags : Flags) : Alphabet → Bool
  | ascii => flags.ascii
  | unicode => flags.unicode

theorem isSet_union (a b : Flags) (alphabet : Alphabet) :
    alphabet.isSet (a.union b) = (alphabet.isSet a || alphabet.isSet b) := by
  cases alphabet <;> rfl

theorem isSet_none (alphabet : Alphabet) : alphabet.isSet {} = false := by
  cases alphabet <;> rfl

theorem eq_letter_of_isSet {alphabet : Alphabet} {c : Char} {flag : Flags}
    (hflag : flagOf? c = some flag) (hset : alphabet.isSet flag = true) : c = alphabet.letter := by
  unfold flagOf? at hflag
  split at hflag
  case h_8 => cases hflag
  all_goals
    obtain rfl := Option.some.inj hflag
    cases alphabet <;> first | rfl | cases hset

end Alphabet

/-- What a text has in it that exceeds a limit. -/
inductive Exceeds (text : List Char) : Error → Prop
  | hugeRepeat {digits : List Char} (counted : Counts digits text)
      (decimal : ∀ c ∈ digits, isDecimal c = true) (huge : repeatLimit ≤ ofDigits 10 digits) :
      Exceeds text .hugeRepeat
  | longNumber {digits : List Char} (counted : Counts digits text)
      (decimal : ∀ c ∈ digits, isDecimal c = true) (long : maxDigits < digits.length) :
      Exceeds text (.longNumber digits.length)
  | hugeCode {digits : List Char} (escaped : '\\' :: 'U' :: digits <:+: text)
      (length : digits.length = 8) (hex : ∀ c ∈ digits, isHex c = true)
      (huge : 0x80000000 ≤ ofDigits 16 digits) : Exceeds text .hugeCode
  | alphabetConflict (asked : ∀ alphabet : Alphabet, Asks alphabet.letter text) :
      Exceeds text .alphabetConflict

/-- What a step of reading comes to: a result as it should be, or a refusal that is a fault of the
pattern or has its cause in a text. -/
def Limited {α : Type} (text : List Char) (good : α → Prop) : Except Error α → Prop
  | .ok a => good a
  | .error e => e.isInvalidPattern = true ∨ Exceeds text e

variable {α β : Type} {text whole : List Char}

theorem Counts.mono {digits : List Char} (h : Counts digits text) (hpart : text <:+: whole) :
    Counts digits whole := by
  cases h with
  | only piece => exact .only (piece.trans hpart)
  | least other piece => exact .least other (piece.trans hpart)
  | greatest other piece => exact .greatest other (piece.trans hpart)

theorem Asks.mono {letter : Char} (h : Asks letter text) (hpart : text <:+: whole) :
    Asks letter whole := by
  obtain ⟨letters, hmem, hletters, hpiece⟩ := h
  exact ⟨letters, hmem, hletters, hpiece.trans hpart⟩

theorem Exceeds.mono {e : Error} (h : Exceeds text e) (hpart : text <:+: whole) :
    Exceeds whole e := by
  cases h with
  | hugeRepeat counted decimal huge => exact .hugeRepeat (counted.mono hpart) decimal huge
  | longNumber counted decimal long => exact .longNumber (counted.mono hpart) decimal long
  | hugeCode escaped length hex huge => exact .hugeCode (escaped.trans hpart) length hex huge
  | alphabetConflict asked => exact .alphabetConflict fun alphabet => (asked alphabet).mono hpart

namespace Limited

variable {p q : α → Prop} {x y : Except Error α}

theorem pure {a : α} (h : p a) : Limited text p (Pure.pure a) := h

theorem fault (f : Fault) (pos : Nat) : Limited text p (.error (.fault f pos)) := .inl rfl

theorem fail (s : Source) (f : Fault) (back : Nat) : Limited text p (s.fail f back) := .inl rfl

theorem bind {f : α → Except Error β} {good : β → Prop} (hx : Limited text p x)
    (hf : ∀ a, p a → Limited text good (f a)) : Limited text good (x >>= f) := by
  cases x with
  | error e => exact hx
  | ok a => exact hf a hx

theorem imp (hx : Limited text p x) (himp : ∀ a, p a → q a) : Limited text q x := by
  cases x with
  | error e => exact hx
  | ok a => exact himp a hx

theorem mono (hx : Limited text p x) (hpart : text <:+: whole) : Limited whole p x := by
  cases x with
  | error e => exact hx.imp_right fun h => h.mono hpart
  | ok a => exact hx

theorem ite {c : Prop} [Decidable c] (hx : c → Limited text p x) (hy : ¬c → Limited text p y) :
    Limited text p (if c then x else y) := by
  by_cases hc : c
  · rw [if_pos hc]
    exact hx hc
  · rw [if_neg hc]
    exact hy hc

end Limited

/-! ## Tokens -/

namespace Source

def tokenText : Option Token → List Char
  | none => []
  | some token => token.text

variable {s : Source}

theorem limited_at? (pos : Nat) (rest : List Char) :
    Limited text (fun t => t.rest = rest) (at? pos rest) := by
  unfold at?
  exact .ite (fun _ => .fault _ _) fun _ => rfl

theorem limited_skip (s : Source) :
    Limited text (fun t => s.rest = tokenText s.peek ++ t.rest) s.skip := by
  unfold skip
  split
  · rename_i hrest
    have hpeek : s.peek = none := by
      unfold peek
      rw [hrest]
    rw [hpeek]
    exact rfl
  · rename_i c rest hrest
    have hpeek : s.peek = some (.escaped c) := by simp [peek, hrest]
    rw [hpeek, hrest]
    exact (limited_at? _ rest).imp fun t ht => by rw [ht]; rfl
  · rename_i c rest hnot hrest
    have hpeek : s.peek = some (.plain c) := by
      unfold peek
      rw [hrest]
      split
      · rename_i h
        cases h
      · rename_i d after h
        obtain ⟨rfl, rfl⟩ := List.cons.inj h
        exact (hnot d after rfl rfl).elim
      · rename_i h
        rw [(List.cons.inj h).1]
    rw [hpeek, hrest]
    exact (limited_at? _ rest).imp fun t ht => by rw [ht]; rfl

theorem limited_next (s : Source) :
    Limited text (fun r => s.rest = tokenText r.1 ++ r.2.rest) s.next :=
  (limited_skip s).bind fun _ ht => .pure ht

theorem limited_accept (s : Source) (c : Char) :
    Limited text (fun r => s.rest = (if r.1 then [c] else []) ++ r.2.rest) (s.accept c) := by
  unfold accept
  refine .ite (fun hstarts => (limited_skip s).bind fun t ht => .pure ?_) fun _ => .pure rfl
  rw [ht, eq_of_beq hstarts]
  rfl

theorem limited_takeWhile (p : Char → Bool) (count : Nat) (s : Source) :
    Limited text (fun r => s.rest = r.1 ++ r.2.rest ∧ ∀ c ∈ r.1, p c = true)
      (takeWhile p count s) := by
  induction count generalizing s with
  | zero => exact .pure ⟨rfl, nofun⟩
  | succ count ih =>
    unfold takeWhile
    split
    · rename_i c hpeek
      refine .ite (fun hc => (limited_skip s).bind fun t ht => (ih t).bind fun r hr => ?_)
        fun _ => .pure ⟨rfl, nofun⟩
      rw [hpeek, hr.1] at ht
      exact .pure ⟨ht, List.forall_mem_cons.2 ⟨hc, hr.2⟩⟩
    · exact .pure ⟨rfl, nofun⟩

theorem suffix_of_eq {front : List Char} {t : Source} (h : s.rest = front ++ t.rest) :
    t.rest <:+ s.rest :=
  ⟨front, h.symm⟩

theorem limited_nameLoop (close : Char) (what : String) (fuel : Nat) (name : List Char)
    (s : Source) :
    Limited text (fun r => r.2.rest <:+ s.rest) (nameLoop close what fuel name s) := by
  induction fuel generalizing name s with
  | zero => exact .fail _ _ _
  | succ fuel ih =>
    refine (limited_next s).bind ?_
    rintro ⟨token, t⟩ ht
    have hsuffix := suffix_of_eq ht
    cases token with
    | none => exact .ite (fun _ => .fail _ _ _) fun _ => .fail _ _ _
    | some token =>
      refine .ite (fun _ => .ite (fun _ => .fail _ _ _) fun _ => .pure hsuffix) fun _ => ?_
      exact (ih _ t).imp fun r hr => hr.trans hsuffix

theorem limited_name (close : Char) (what : String) (s : Source) :
    Limited text (fun r => r.2.rest <:+ s.rest) (s.name close what) :=
  limited_nameLoop close what _ [] s

theorem limited_lineLoop (fuel : Nat) (s : Source) :
    Limited text (fun t => t.rest <:+ s.rest) (lineLoop fuel s) := by
  induction fuel generalizing s with
  | zero => exact .pure List.suffix_rfl
  | succ fuel ih =>
    refine (limited_next s).bind ?_
    rintro ⟨token, t⟩ ht
    have hsuffix := suffix_of_eq ht
    exact .ite (fun _ => .pure hsuffix) fun _ => (ih t).imp fun r hr => hr.trans hsuffix

theorem limited_skipLine (s : Source) : Limited text (fun t => t.rest <:+ s.rest) s.skipLine :=
  limited_lineLoop _ s

theorem limited_commentLoop (start fuel : Nat) (s : Source) :
    Limited text (fun t => t.rest <:+ s.rest) (commentLoop start fuel s) := by
  induction fuel generalizing s with
  | zero => exact .fault _ _
  | succ fuel ih =>
    unfold commentLoop
    split
    · exact .fault _ _
    · refine (limited_skip s).bind fun t ht => ?_
      have hsuffix := suffix_of_eq ht
      exact .ite (fun _ => .pure hsuffix) fun _ => (ih t).imp fun r hr => hr.trans hsuffix

theorem limited_skipComment (start : Nat) (s : Source) :
    Limited text (fun t => t.rest <:+ s.rest) (s.skipComment start) :=
  limited_commentLoop start _ s

end Source

end HeaderRules.Regex
