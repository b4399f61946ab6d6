import HeaderRules.Proofs.Regex.Limits
import Mathlib.Algebra.Group.Nat.Defs
/-!
# Limits of the parts of a pattern

Each part of a pattern, read from what is left of the text, is refused for a fault or for a limit
that it exceeds itself.
-/

namespace HeaderRules.Regex

open HeaderRules.Text (ofDigits digitIn?)
open HeaderRules.Number (maxDigits)

variable {text : List Char} {s : Source} {r : Reader}

/-! ## Escapes -/

theorem lt_of_digitIn? {base d : Nat} {c : Char} (h : digitIn? base c = some d) : d < base := by
  simp only [digitIn?, Option.ite_none_right_eq_some, Option.some.injEq] at h
  obtain ⟨hlt, rfl⟩ := h
  exact hlt

theorem foldl_lt_pow {base : Nat} {step : Nat → Char → Nat}
    (hstep : ∀ n c, step n c < (n + 1) * base) (digits : List Char) (n : Nat) :
    digits.foldl step n < (n + 1) * base ^ digits.length := by
  induction digits generalizing n with
  | nil => simp
  | cons c rest ih =>
    rw [List.foldl_cons, List.length_cons, Nat.pow_succ', ← Nat.mul_assoc]
    exact Nat.lt_of_lt_of_le (ih _) (Nat.mul_le_mul_right _ (hstep n c))

theorem ofDigits_lt {base : Nat} (hbase : 0 < base) (digits : List Char) :
    ofDigits base digits < base ^ digits.length := by
  unfold ofDigits
  have hpower : base ^ digits.length = (0 + 1) * base ^ digits.length := by simp
  rw [hpower]
  refine foldl_lt_pow (fun n c => ?_) digits 0
  cases hdigit : digitIn? base c with
  | none => exact Nat.lt_of_lt_of_le (Nat.lt_succ_self n) (Nat.le_mul_of_pos_right _ hbase)
  | some d =>
    have hd : d < base := lt_of_digitIn? hdigit
    calc n * base + d < n * base + base := by omega
      _ = (n + 1) * base := (Nat.succ_mul n base).symm

/-- Only eight digits are enough for a code beyond all limits. -/
theorem limited_hexEscape {c : Char} {count : Nat} (hcount : count ≤ 7 ∨ c = 'U' ∧ count = 8)
    (s : Source) :
    Limited ('\\' :: c :: s.rest) (fun t => t.2.rest <:+ s.rest) (hexEscape c count s) := by
  unfold hexEscape
  refine (Source.limited_takeWhile isHex count s).bind ?_
  rintro ⟨digits, t⟩ ⟨hrest, hhex⟩
  refine .ite (fun _ => .fail _ _ _) fun hlength => .ite (fun hhuge => .inr ?_) fun _ =>
    .ite (fun _ => .fail _ _ _) fun _ => .pure (Source.suffix_of_eq hrest)
  rw [ne_eq, Decidable.not_not] at hlength
  have hbound := ofDigits_lt (by decide : 0 < 16) digits
  rcases hcount with hfew | ⟨rfl, rfl⟩
  · have hpower : 16 ^ digits.length ≤ 16 ^ 7 := Nat.pow_le_pow_right (by decide) (by omega)
    omega
  · have hpiece : '\\' :: 'U' :: digits <:+: '\\' :: 'U' :: s.rest := ⟨[], t.rest, by simp [hrest]⟩
    exact .hugeCode hpiece hlength hhex hhuge

theorem limited_codeEscape (c : Char) (s : Source) :
    Limited ('\\' :: c :: s.rest) (fun t => t.2.rest <:+ s.rest) (codeEscape c s) := by
  unfold codeEscape
  split
  · exact limited_hexEscape (.inl (by decide)) s
  · exact limited_hexEscape (.inl (by decide)) s
  · exact limited_hexEscape (.inr ⟨rfl, rfl⟩) s
  · refine (Source.limited_accept s _).bind ?_
    rintro ⟨brace, t⟩ ht
    refine .ite (fun _ => .fail _ _ _) fun _ => (Source.limited_name _ _ t).bind ?_
    rintro ⟨cs, u⟩ hu
    have hsuffix : u.rest <:+ s.rest := hu.trans (Source.suffix_of_eq ht)
    dsimp only
    split
    · exact .pure hsuffix
    · exact .fail _ _ _
  · exact .ite (fun _ => .fail _ _ _) fun _ => .pure List.suffix_rfl

theorem limited_octalEscape (c : Char) (s : Source) :
    Limited text (fun t => t.2.rest <:+ s.rest) (octalEscape c s) := by
  unfold octalEscape
  refine (Source.limited_takeWhile isOctal 2 s).bind ?_
  rintro ⟨digits, t⟩ ⟨hrest, -⟩
  exact .ite (fun _ => .fail _ _ _) fun _ => .pure (Source.suffix_of_eq hrest)

theorem limited_setEscape (c : Char) (s : Source) :
    Limited ('\\' :: c :: s.rest) (fun t => t.2.rest <:+ s.rest) (setEscape c s) := by
  unfold setEscape
  split
  · exact .pure List.suffix_rfl
  · split
    · exact .pure List.suffix_rfl
    · extract_lets finish
      exact .ite (fun _ => (limited_octalEscape c s).bind fun t ht => .pure ht)
        fun _ => (limited_codeEscape c s).bind fun t ht => .pure ht

/-- What a step leaves of the text, and that it sets no options. -/
def Keeps (r after : Reader) : Prop := after.source.rest <:+ r.source.rest ∧ after.flags = r.flags

theorem limited_checkLookbehind (r : Reader) (index : Nat) :
    Limited text (fun _ => True) (r.checkLookbehind index) := by
  unfold Reader.checkLookbehind
  split
  · exact .pure trivial
  · exact .ite (fun _ => .fail _ _ _) fun _ => .ite (fun _ => .fail _ _ _) fun _ => .pure trivial

theorem limited_groupReference (index length : Nat) (r : Reader) :
    Limited text (fun t => Keeps r t.2) (groupReference index length r) := by
  unfold groupReference
  refine .ite (fun _ => .fail _ _ _) fun _ => ?_
  split
  · exact .fail _ _ _
  · exact (limited_checkLookbehind r index).bind fun _ _ => .pure ⟨List.suffix_rfl, rfl⟩

theorem limited_digitEscape (c : Char) (r : Reader) :
    Limited text (fun t => Keeps r t.2) (digitEscape c r) := by
  unfold digitEscape
  split
  · refine .ite (fun _ => (Source.limited_skip _).bind fun s hs => ?_)
      fun _ => limited_groupReference _ _ r
    have hsuffix := Source.suffix_of_eq hs
    have hreference (index : Nat) : Limited text (fun t => Keeps r t.2)
        (groupReference index 3 { r with source := s }) :=
      (limited_groupReference index 3 _).imp fun t ht => ⟨ht.1.trans hsuffix, ht.2⟩
    split
    · refine .ite (fun _ => (Source.limited_skip _).bind fun t ht => ?_) fun _ => hreference _
      exact .ite (fun _ => .fail _ _ _) fun _ =>
        .pure ⟨(Source.suffix_of_eq ht).trans hsuffix, rfl⟩
    · exact hreference _
  · exact limited_groupReference _ _ r

theorem limited_itemEscape (c : Char) (r : Reader) :
    Limited ('\\' :: c :: r.source.rest) (fun t => Keeps r t.2) (itemEscape c r) := by
  have hsame : Keeps r r := ⟨List.suffix_rfl, rfl⟩
  unfold itemEscape
  split
  · exact .pure hsame
  · exact .pure hsame
  · exact .pure hsame
  · refine .ite (fun _ => (Source.limited_takeWhile _ _ _).bind ?_) fun _ =>
      .ite (fun _ => limited_digitEscape c r) fun _ => (limited_codeEscape c r.source).bind ?_
    · rintro ⟨digits, t⟩ ⟨hrest, -⟩
      exact .pure ⟨Source.suffix_of_eq hrest, rfl⟩
    · rintro ⟨code, t⟩ ht
      exact .pure ⟨ht, rfl⟩

/-! ## Sets -/

theorem limited_setMember (token : Token) (s : Source) :
    Limited (token.text ++ s.rest) (fun t => t.2.rest <:+ s.rest) (setMember token s) := by
  cases token with
  | plain c => exact .pure List.suffix_rfl
  | escaped c => exact limited_setEscape c s

theorem limited_setLoop (start fuel : Nat) (items : List SetItem) (s : Source) :
    Limited s.rest (fun t => t.2.rest <:+ s.rest) (setLoop start fuel items s) := by
  induction fuel generalizing items s with
  | zero => exact .fault _ _
  | succ fuel ih =>
    -- the loop goes on with less of the same text
    have hloop (items : List SetItem) {t : Source} (ht : t.rest <:+ s.rest) :
        Limited s.rest (fun u => u.2.rest <:+ s.rest) (setLoop start fuel items t) :=
      ((ih items t).mono ht.isInfix).imp fun u hu => hu.trans ht
    refine (Source.limited_next s).bind ?_
    rintro ⟨this, t⟩ ht
    have hsuffix : t.rest <:+ s.rest := Source.suffix_of_eq ht
    cases this with
    | none => exact .fault _ _
    | some this =>
      refine .ite (fun _ => .pure hsuffix) fun _ => ?_
      have hmember : Limited s.rest (fun u => u.2.rest <:+ t.rest) (setMember this t) := by
        rw [ht]
        exact limited_setMember this t
      refine hmember.bind ?_
      rintro ⟨item, u⟩ hu
      refine (Source.limited_accept u '-').bind ?_
      rintro ⟨dash, v⟩ hv
      have hv : v.rest <:+ s.rest := ((Source.suffix_of_eq hv).trans hu).trans hsuffix
      refine .ite (fun _ => hloop _ hv) fun _ => (Source.limited_next v).bind ?_
      rintro ⟨that, w⟩ hw
      have hrest : w.rest <:+ s.rest := (Source.suffix_of_eq hw).trans hv
      cases that with
      | none => exact .fault _ _
      | some that =>
        refine .ite (fun _ => .pure hrest) fun _ => ?_
        have hlast : Limited s.rest (fun x => x.2.rest <:+ w.rest) (setMember that w) :=
          (limited_setMember that w).mono ((show _ = _ from hw) ▸ hv).isInfix
        refine hlast.bind ?_
        rintro ⟨last, x⟩ hx
        have hdone : x.rest <:+ s.rest := hx.trans hrest
        dsimp only
        split
        · exact .ite (fun _ => .fail _ _ _) fun _ => hloop _ hdone
        · exact .fail _ _ _

theorem limited_parseSet (s : Source) :
    Limited s.rest (fun t => t.2.rest <:+ s.rest) (parseSet s) := by
  unfold parseSet
  refine (Source.limited_accept s '^').bind ?_
  rintro ⟨negated, t⟩ ht
  have hsuffix : t.rest <:+ s.rest := Source.suffix_of_eq ht
  refine ((limited_setLoop _ _ [] t).mono hsuffix.isInfix).bind ?_
  rintro ⟨items, u⟩ hu
  exact .pure (hu.trans hsuffix)

/-! ## Repetitions -/

theorem limited_readCount {digits : List Char} (hcounts : Counts digits text)
    (hdecimal : ∀ c ∈ digits, isDecimal c = true) :
    Limited text (fun _ => True) (readCount digits) := by
  unfold readCount
  exact .ite (fun _ => .pure trivial) fun _ =>
    .ite (fun hlong => .inr (.longNumber hcounts hdecimal hlong)) fun _ =>
      .ite (fun hhuge => .inr (.hugeRepeat hcounts hdecimal hhuge)) fun _ => .pure trivial

/-- What stands between the braces of a repetition, when the closing one has been read, are its
counts. -/
theorem limited_parseBounds (s : Source) :
    Limited ('\x7b' :: s.rest) (fun found => ∀ b ∈ found, b.2.rest <:+ s.rest)
      (parseBounds s) := by
  unfold parseBounds
  extract_lets fuel
  refine .ite (fun _ => .pure nofun) fun _ => ?_
  refine (Source.limited_takeWhile isDecimal fuel s).bind ?_
  rintro ⟨lo, t⟩ ⟨ht, hlo⟩
  refine (Source.limited_accept t ',').bind ?_
  rintro ⟨comma, u⟩ hu
  dsimp -zeta only
  extract_lets finish
  have hfinish (hi : List Char) (v : Source) (hv : v.rest <:+ s.rest)
      (hhi : ∀ c ∈ hi, isDecimal c = true)
      (hcounts : ∀ rest, v.rest = '\x7d' :: rest →
        Counts lo ('\x7b' :: s.rest) ∧ Counts hi ('\x7b' :: s.rest)) :
      Limited ('\x7b' :: s.rest) (fun found => ∀ b ∈ found, b.2.rest <:+ s.rest)
        (finish (hi, v)) := by
    refine (Source.limited_accept v '\x7d').bind ?_
    rintro ⟨closed, w⟩ hw
    refine .ite (fun _ => .pure nofun) fun hclosed => ?_
    obtain rfl : closed = true := by simpa using hclosed
    obtain ⟨hcountslo, hcountshi⟩ := hcounts w.rest hw
    have hdone (bounds : Bounds) : ∀ b ∈ some (bounds, w), b.2.rest <:+ s.rest := by
      intro b hb
      rw [← Option.mem_some.1 hb]
      exact (Source.suffix_of_eq hw).trans hv
    refine (limited_readCount hcountslo hlo).bind fun least _ => ?_
    refine (limited_readCount hcountshi hhi).bind fun greatest _ => ?_
    dsimp only
    split
    · exact .ite (fun _ => .fault _ _) fun _ => .pure (hdone _)
    · exact .pure (hdone _)
  have hrest : u.rest <:+ s.rest := (Source.suffix_of_eq hu).trans (Source.suffix_of_eq ht)
  refine .ite (fun hcomma => ?_) fun hcomma => ?_
  · refine (Source.limited_takeWhile isDecimal fuel u).bind ?_
    rintro ⟨hi, v⟩ ⟨hv, hhi⟩
    refine hfinish hi v ((Source.suffix_of_eq hv).trans hrest) hhi fun rest hclose => ?_
    have htext : '\x7b' :: s.rest = '\x7b' :: lo ++ ',' :: hi ++ ['\x7d'] ++ rest := by
      simp_all
    exact ⟨.least hi ⟨[], rest, htext.symm⟩, .greatest lo ⟨[], rest, htext.symm⟩⟩
  · refine hfinish lo u hrest hlo fun rest hclose => ?_
    have htext : '\x7b' :: s.rest = '\x7b' :: lo ++ ['\x7d'] ++ rest := by
      simp_all
    exact ⟨.only ⟨[], rest, htext.symm⟩, .only ⟨[], rest, htext.symm⟩⟩

theorem limited_repeatLast (start : Nat) (bounds : Bounds) (items : List Node) (s : Source) :
    Limited text (fun r => r.2.rest <:+ s.rest) (repeatLast start bounds items s) := by
  unfold repeatLast
  split
  · exact .fault _ _
  · exact .fault _ _
  · exact .fault _ _
  · refine (Source.limited_accept s '?').bind ?_
    rintro ⟨few, t⟩ ht
    have hsuffix : t.rest <:+ s.rest := Source.suffix_of_eq ht
    dsimp -zeta only
    extract_lets finish
    have hfinish (keep : Bool) {u : Source} (hu : u.rest <:+ s.rest) :
        Limited text (fun r => r.2.rest <:+ s.rest) (finish (keep, u)) := .pure hu
    refine .ite (fun _ => hfinish false hsuffix) fun _ => (Source.limited_accept t '+').bind ?_
    rintro ⟨keep, u⟩ hu
    exact hfinish keep ((Source.suffix_of_eq hu).trans hsuffix)

end HeaderRules.Regex
