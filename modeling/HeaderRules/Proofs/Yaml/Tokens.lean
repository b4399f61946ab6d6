import HeaderRules.Yaml.Token.Lexer
import HeaderRules.Proofs.Outcome
/-!
# The end among the tokens

The token that ends a text is made when the text is used up, and a source with a fault has none.
-/

namespace HeaderRules.Yaml

namespace Lexer

/-- The end of the text has not been made a token. -/
def IsOpen (l : Lexer) : Prop := .streamEnd ∉ l.tokens

variable {l l' : Lexer}

theorem isOpen_start (text : List Char) : (start text).IsOpen := List.not_mem_nil

theorem IsOpen.push {t : Token} (h : l.IsOpen) (ht : t ≠ .streamEnd) : (l.push t).IsOpen := by
  intro hmem
  obtain heq | hmem := List.mem_cons.1 hmem
  · exact ht heq.symm
  · exact h hmem

theorem IsOpen.take {t : Token} (h : l.IsOpen) (ht : t ≠ .streamEnd) (length : Nat) :
    (l.take t length).IsOpen := h.push ht

theorem IsOpen.insertAt {tokens : List Token} (h : l.IsOpen) (ht : .streamEnd ∉ tokens)
    (number : Nat) : (l.insertAt number tokens).IsOpen := by
  intro hmem
  simp only [Lexer.insertAt, List.mem_append, List.mem_reverse] at hmem
  obtain (hmem | hmem) | hmem := hmem
  · exact h (List.mem_of_mem_take hmem)
  · exact ht hmem
  · exact h (List.mem_of_mem_drop hmem)

theorem IsOpen.unwindTo (h : l.IsOpen) (column : Int) (fuel : Nat) :
    (unwindTo column fuel l).IsOpen := by
  induction fuel generalizing l with
  | zero => exact h
  | succ fuel ih =>
    rw [Lexer.unwindTo]
    split
    · exact ih (IsOpen.push h (by simp))
    · exact h

theorem IsOpen.unwind (h : l.IsOpen) (column : Int) : (l.unwind column).IsOpen := by
  unfold Lexer.unwind
  split
  · exact h.unwindTo column _
  · exact h

theorem IsOpen.openHere {t : Token} (h : l.IsOpen) (ht : t ≠ .streamEnd) :
    (l.openHere t).IsOpen := by
  unfold Lexer.openHere
  split
  · exact IsOpen.push h ht
  · exact h

theorem IsOpen.confirmKey (h : l.IsOpen) (k : KeyCandidate) : (l.confirmKey k).IsOpen := by
  simp only [Lexer.confirmKey]
  split
  · exact IsOpen.insertAt h (by simp) _
  · exact IsOpen.insertAt h (by simp) _

/-! ## Gaps and candidates -/

theorem dropStale_tokens (h : l.dropStale = .ok l') : l'.tokens = l.tokens := by
  unfold dropStale at h
  simp only at h
  split at h
  · cases h
  · obtain rfl := Except.ok.inj h
    rfl

theorem dropCandidate_eq_ok (h : l.dropCandidate = .ok l') :
    l'.tokens = l.tokens ∧ l'.cursor = l.cursor := by
  unfold dropCandidate at h
  split at h
  · cases h
  · obtain rfl := Except.ok.inj h
    exact ⟨rfl, rfl⟩

theorem IsOpen.dropCandidate (h : l.IsOpen) (hl' : l.dropCandidate = .ok l') : l'.IsOpen := by
  rw [IsOpen, (dropCandidate_eq_ok hl').1]
  exact h

theorem IsOpen.noteCandidate (h : l.IsOpen) (hl' : l.noteCandidate = .ok l') : l'.IsOpen := by
  unfold Lexer.noteCandidate at hl'
  split at hl'
  · obtain rfl := Except.ok.inj hl'
    exact h
  · obtain ⟨dropped, hdropped, hl'⟩ := Outcome.bind_eq_ok.1 hl'
    obtain rfl := Except.ok.inj hl'
    have hopen := h.dropCandidate hdropped
    exact hopen

theorem skipGap_tokens (fuel : Nat) (l : Lexer) : (skipGap fuel l).tokens = l.tokens := by
  induction fuel generalizing l with
  | zero => rfl
  | succ fuel ih =>
    simp only [skipGap]
    split
    · rfl
    · exact ih _

theorem skipByteOrderMark_tokens (l : Lexer) : l.skipByteOrderMark.tokens = l.tokens := by
  unfold skipByteOrderMark
  split <;> rfl

/-! ## Tokens -/

/-- A token whose characters are read on their own. -/
theorem IsOpen.read {α : Type} (token : α → Token) {before : Except Fault Lexer}
    {reader : Lexer → Except Fault (α × Cursor)} {allowed : Bool}
    (hbefore : ∀ l, before = .ok l → l.IsOpen) (ht : ∀ a, token a ≠ .streamEnd)
    (h : (do
      let l ← before
      let found ← reader l
      return { l.push (token found.1) with cursor := found.2, keyAllowed := allowed }) = .ok l') :
    l'.IsOpen := by
  obtain ⟨l, hl, h⟩ := Outcome.bind_eq_ok.1 h
  obtain ⟨found, -, h⟩ := Outcome.bind_eq_ok.1 h
  obtain rfl := Except.ok.inj h
  exact IsOpen.push (hbefore l hl) (ht found.1)

theorem IsOpen.lexDirective (h : l.IsOpen) (hl' : l.lexDirective = .ok l') : l'.IsOpen :=
  IsOpen.read .directive (fun _ => (h.unwind (-1)).dropCandidate) (by simp) hl'

theorem IsOpen.lexName {token : String → Token} (h : l.IsOpen)
    (ht : ∀ name, token name ≠ .streamEnd) (hl' : l.lexName token = .ok l') : l'.IsOpen :=
  IsOpen.read token (fun _ => h.noteCandidate) ht hl'

theorem IsOpen.lexTag (h : l.IsOpen) (hl' : l.lexTag = .ok l') : l'.IsOpen :=
  IsOpen.read .tag (fun _ => h.noteCandidate) (by simp) hl'

theorem IsOpen.lexBlockScalar {folded : Bool} (h : l.IsOpen)
    (hl' : l.lexBlockScalar folded = .ok l') : l'.IsOpen :=
  IsOpen.read (fun text => .scalar false (List.map .char text)) (fun _ => h.dropCandidate)
    (by simp) hl'

theorem IsOpen.lexQuoted {double : Bool} (h : l.IsOpen) (hl' : l.lexQuoted double = .ok l') :
    l'.IsOpen :=
  IsOpen.read (.scalar false) (fun _ => h.noteCandidate) (by simp) hl'

theorem IsOpen.lexPlain (h : l.IsOpen) (hl' : l.lexPlain = .ok l') : l'.IsOpen := by
  obtain ⟨noted, hnoted, hl'⟩ := Outcome.bind_eq_ok.1 hl'
  obtain rfl := Except.ok.inj hl'
  have hopen := h.noteCandidate hnoted
  exact IsOpen.push hopen (by simp)

/-- A token of so many characters. -/
theorem IsOpen.mark (change : Lexer → Lexer) {before : Except Fault Lexer} {t : Token}
    {length : Nat} (hbefore : ∀ l, before = .ok l → l.IsOpen)
    (hchange : ∀ l, (change l).tokens = l.tokens)
    (ht : t ≠ .streamEnd) (h : (do return (change (← before)).take t length) = .ok l') :
    l'.IsOpen := by
  obtain ⟨l, hl, h⟩ := Outcome.bind_eq_ok.1 h
  obtain rfl := Except.ok.inj h
  refine IsOpen.take ?_ ht length
  rw [IsOpen, hchange]
  exact hbefore l hl

theorem IsOpen.lexDocumentMark {t : Token} (h : l.IsOpen) (ht : t ≠ .streamEnd)
    (hl' : l.lexDocumentMark t = .ok l') : l'.IsOpen :=
  IsOpen.mark (·.allowKey false) (fun _ => (h.unwind (-1)).dropCandidate) (fun _ => rfl) ht hl'

theorem IsOpen.lexOpening {t : Token} (h : l.IsOpen) (ht : t ≠ .streamEnd)
    (hl' : l.lexOpening t = .ok l') : l'.IsOpen :=
  IsOpen.mark (fun l => Lexer.allowKey { l with depth := l.depth + 1 } true)
    (fun _ => h.noteCandidate) (fun _ => rfl) ht hl'

theorem IsOpen.lexClosing {t : Token} (h : l.IsOpen) (ht : t ≠ .streamEnd)
    (hl' : l.lexClosing t = .ok l') : l'.IsOpen :=
  IsOpen.mark (fun l => Lexer.allowKey { l with depth := l.depth - 1 } false)
    (fun _ => h.dropCandidate) (fun _ => rfl) ht hl'

theorem IsOpen.lexComma (h : l.IsOpen) (hl' : l.lexComma = .ok l') : l'.IsOpen :=
  IsOpen.mark (·.allowKey true) (fun _ => h.dropCandidate) (fun _ => rfl) (by simp) hl'

theorem IsOpen.lexHyphen (h : l.IsOpen) (hl' : l.lexHyphen = .ok l') : l'.IsOpen := by
  unfold Lexer.lexHyphen at hl'
  split at hl'
  · cases hl'
  · have hopen : (l.openHere .blockSequenceStart).IsOpen := h.openHere (by simp)
    exact IsOpen.mark (·.allowKey true) (fun _ => hopen.dropCandidate) (fun _ => rfl) (by simp) hl'

theorem IsOpen.lexQuestion (h : l.IsOpen) (hl' : l.lexQuestion = .ok l') : l'.IsOpen := by
  unfold Lexer.lexQuestion at hl'
  split at hl'
  · cases hl'
  · have hopen : (l.openHere .blockMappingStart).IsOpen := h.openHere (by simp)
    exact IsOpen.mark (fun l => l.allowKey (l.depth == 0)) (fun _ => hopen.dropCandidate)
      (fun _ => rfl) (by simp) hl'

theorem IsOpen.lexColon (h : l.IsOpen) (hl' : l.lexColon = .ok l') : l'.IsOpen := by
  unfold Lexer.lexColon at hl'
  split at hl'
  · rename_i k _
    obtain rfl := Except.ok.inj hl'
    have hopen := h.confirmKey k
    exact IsOpen.take hopen (by simp) 1
  · split at hl'
    · cases hl'
    · have hopen : (l.openHere .blockMappingStart).IsOpen := h.openHere (by simp)
      exact IsOpen.mark (fun l => l.allowKey (l.depth == 0)) (fun _ => hopen.dropCandidate)
        (fun _ => rfl) (by simp) hl'

/-- No character makes the token that ends the text. -/
theorem IsOpen.lexToken {ch : Char} (h : l.IsOpen) (hl' : l.lexToken ch = .ok l') : l'.IsOpen := by
  refine Outcome.of_ite_eq_ok hl' h.lexDirective fun hl' => ?_
  refine Outcome.of_ite_eq_ok hl' (h.lexDocumentMark (by simp)) fun hl' => ?_
  refine Outcome.of_ite_eq_ok hl' (h.lexDocumentMark (by simp)) fun hl' => ?_
  refine Outcome.of_ite_eq_ok hl' (h.lexOpening (by simp)) fun hl' => ?_
  refine Outcome.of_ite_eq_ok hl' (h.lexOpening (by simp)) fun hl' => ?_
  refine Outcome.of_ite_eq_ok hl' (h.lexClosing (by simp)) fun hl' => ?_
  refine Outcome.of_ite_eq_ok hl' (h.lexClosing (by simp)) fun hl' => ?_
  refine Outcome.of_ite_eq_ok hl' h.lexComma fun hl' => ?_
  refine Outcome.of_ite_eq_ok hl' h.lexHyphen fun hl' => ?_
  refine Outcome.of_ite_eq_ok hl' h.lexQuestion fun hl' => ?_
  refine Outcome.of_ite_eq_ok hl' h.lexColon fun hl' => ?_
  refine Outcome.of_ite_eq_ok hl' (h.lexName (by simp)) fun hl' => ?_
  refine Outcome.of_ite_eq_ok hl' (h.lexName (by simp)) fun hl' => ?_
  refine Outcome.of_ite_eq_ok hl' h.lexTag fun hl' => ?_
  refine Outcome.of_ite_eq_ok hl' h.lexBlockScalar fun hl' => ?_
  refine Outcome.of_ite_eq_ok hl' h.lexBlockScalar fun hl' => ?_
  refine Outcome.of_ite_eq_ok hl' h.lexQuoted fun hl' => ?_
  refine Outcome.of_ite_eq_ok hl' h.lexQuoted fun hl' => ?_
  refine Outcome.of_ite_eq_ok hl' h.lexPlain fun hl' => ?_
  cases hl'

theorem unwindTo_cursor (column : Int) (fuel : Nat) (l : Lexer) :
    (unwindTo column fuel l).cursor = l.cursor := by
  induction fuel generalizing l with
  | zero => rfl
  | succ fuel ih =>
    rw [unwindTo]
    split
    · exact ih _
    · rfl

theorem unwind_cursor (l : Lexer) (column : Int) : (l.unwind column).cursor = l.cursor := by
  unfold unwind
  split
  · exact unwindTo_cursor column _ l
  · rfl

theorem lexEnd_cursor (h : l.lexEnd = .ok l') : l'.cursor = l.cursor := by
  obtain ⟨dropped, hdropped, h⟩ := Outcome.bind_eq_ok.1 h
  obtain rfl := Except.ok.inj h
  have hcursor := (dropCandidate_eq_ok hdropped).2
  rw [unwind_cursor] at hcursor
  exact hcursor

/-- The end is made a token only where the text is used up. -/
theorem IsOpen.step (h : l.IsOpen) (hl' : l.step = .ok l') :
    l'.IsOpen ∨ l'.cursor.rest = [] := by
  obtain ⟨dropped, hdropped, hl'⟩ := Outcome.bind_eq_ok.1 hl'
  have hopen : dropped.IsOpen := by
    rw [IsOpen, dropStale_tokens hdropped, skipGap_tokens, skipByteOrderMark_tokens]
    exact h
  simp only at hl'
  split at hl'
  · rename_i hpeek
    right
    rw [lexEnd_cursor hl']
    exact List.head?_eq_none_iff.1 hpeek
  · exact .inl ((hopen.unwind _).lexToken hl')

theorem IsOpen.settled (h : l.IsOpen) : .streamEnd ∉ l.settled := by
  intro hmem
  exact h (List.mem_reverse.1 (List.mem_of_mem_take hmem))

end Lexer

namespace TokenStream

/-- A text with a fault behind it has no end among its tokens. -/
theorem streamEnd_not_mem_lexFrom (fault : Fault) (fuel : Nat) {l : Lexer} (h : l.IsOpen) :
    .streamEnd ∉ (lexFrom (some fault) fuel l).tokens := by
  induction fuel generalizing l with
  | zero => exact h.settled
  | succ fuel ih =>
    unfold lexFrom
    split
    · exact h.settled
    · rename_i hnone
      cases hnone
    · rename_i next other hstep heq
      split
      · exact h.settled
      · rename_i hrest
        refine ih ((h.step hstep).resolve_right fun hempty => hrest ?_)
        simp [hempty]

theorem streamEnd_not_mem_of_fault {source : Source} (h : source.fault.isSome) :
    .streamEnd ∉ (ofSource source).tokens := by
  obtain ⟨fault, hfault⟩ := Option.isSome_iff_exists.1 h
  rw [ofSource, hfault]
  exact streamEnd_not_mem_lexFrom fault _ (Lexer.isOpen_start source.text)

end TokenStream

end HeaderRules.Yaml
