import HeaderRules.Proofs.Outcome
import HeaderRules.Regex.Compile
import HeaderRules.Regex.Escape
/-!
# Reading the parts of a pattern

What the reader makes of the single parts of a pattern, whatever stands behind them. All that is
asked of the text behind a part is that it is no lone backslash, and that it does not begin with a
character that would belong to the part.
-/

namespace HeaderRules.Regex

namespace Source

variable {pos : Nat} {rest : List Char} {c d : Char}

theorem peek_plain (hc : c ≠ '\\') : peek ⟨pos, c :: rest⟩ = some (.plain c) := by
  unfold peek
  split <;> simp_all

theorem skip_plain (hc : c ≠ '\\') (hrest : rest ≠ ['\\']) :
    skip ⟨pos, c :: rest⟩ = .ok ⟨pos + 1, rest⟩ := by
  unfold skip
  split <;> simp_all [at?]

theorem skip_escaped (hrest : rest ≠ ['\\']) :
    skip ⟨pos, '\\' :: c :: rest⟩ = .ok ⟨pos + 2, rest⟩ := by
  simp [skip, at?, hrest]

theorem next_plain (hc : c ≠ '\\') (hrest : rest ≠ ['\\']) :
    next ⟨pos, c :: rest⟩ = .ok (some (.plain c), ⟨pos + 1, rest⟩) := by
  simp [next, skip_plain hc hrest, peek_plain hc]

theorem next_escaped (hrest : rest ≠ ['\\']) :
    next ⟨pos, '\\' :: c :: rest⟩ = .ok (some (.escaped c), ⟨pos + 2, rest⟩) := by
  simp [next, skip_escaped hrest, peek]

theorem accept_plain (hc : c ≠ '\\') (hrest : rest ≠ ['\\']) :
    accept ⟨pos, c :: rest⟩ c = .ok (true, ⟨pos + 1, rest⟩) := by
  simp [accept, starts, peek_plain hc, skip_plain hc hrest]

theorem accept_of_starts {s : Source} (h : s.starts c = false) : s.accept c = .ok (false, s) := by
  simp [accept, h]

theorem starts_of_ne (h : d ≠ c) : starts ⟨pos, d :: rest⟩ c = false := by
  unfold starts peek
  split <;> simp_all

end Source

/-! ## Bracketed sets -/

section Sets

variable {start fuel pos : Nat} {items : List SetItem} {rest : List Char} {c lo hi : Char}

/-- A character that has no meaning of its own in a set. -/
def isMember (c : Char) : Bool := c != '\\' && c != ']' && c != '-'

theorem isMember_iff : isMember c = true ↔ c ≠ '\\' ∧ c ≠ ']' ∧ c ≠ '-' := by
  simp [isMember, and_assoc]

theorem setLoop_close (hitems : items ≠ []) (hrest : rest ≠ ['\\']) :
    setLoop start (fuel + 1) items ⟨pos, ']' :: rest⟩ = .ok (items, ⟨pos + 1, rest⟩) := by
  simp [setLoop, Source.next_plain (by decide : ']' ≠ '\\') hrest, hitems]

theorem setLoop_one (hc : isMember c = true) (hdash : Source.starts ⟨pos + 1, rest⟩ '-' = false)
    (hrest : rest ≠ ['\\']) :
    setLoop start (fuel + 1) items ⟨pos, c :: rest⟩ =
      setLoop start fuel (addItem items (.one c.toNat)) ⟨pos + 1, rest⟩ := by
  rw [isMember_iff] at hc
  simp [setLoop, Source.next_plain hc.1 hrest, hc.2.1, setMember, Source.accept_of_starts hdash]

theorem setLoop_dash (hdash : Source.starts ⟨pos + 2, rest⟩ '-' = false) (hrest : rest ≠ ['\\']) :
    setLoop start (fuel + 1) items ⟨pos, '\\' :: '-' :: rest⟩ =
      setLoop start fuel (addItem items (.one '-'.toNat)) ⟨pos + 2, rest⟩ := by
  have hmember : setMember (.escaped '-') ⟨pos + 2, rest⟩ =
      .ok (.one '-'.toNat, ⟨pos + 2, rest⟩) := rfl
  simp [setLoop, Source.next_escaped hrest, hmember, Source.accept_of_starts hdash]

theorem setLoop_range (hlo : isMember lo = true) (hhi : isMember hi = true)
    (hle : lo.toNat ≤ hi.toNat) (hrest : rest ≠ ['\\']) :
    setLoop start (fuel + 1) items ⟨pos, lo :: '-' :: hi :: rest⟩ =
      setLoop start fuel (addItem items (.range lo.toNat hi.toNat)) ⟨pos + 3, rest⟩ := by
  rw [isMember_iff] at hlo hhi
  have hnext : Source.next ⟨pos, lo :: '-' :: hi :: rest⟩ =
      .ok (some (.plain lo), ⟨pos + 1, '-' :: hi :: rest⟩) :=
    Source.next_plain hlo.1 (by simp)
  have hdash : Source.accept ⟨pos + 1, '-' :: hi :: rest⟩ '-' =
      .ok (true, ⟨pos + 2, hi :: rest⟩) :=
    Source.accept_plain (by decide) (by simp [hhi.1])
  have hlast : Source.next ⟨pos + 2, hi :: rest⟩ = .ok (some (.plain hi), ⟨pos + 3, rest⟩) :=
    Source.next_plain hhi.1 hrest
  simp [setLoop, hnext, hdash, hlast, hlo.2.1, hhi.2.1, setMember, Nat.not_lt.2 hle]

end Sets

/-! ## Items -/

section Items

variable {fuel pos : Nat} {first : Bool} {items : List Node} {r : Reader} {rest : List Char}
  {c : Char} {node : Node}

/-- A character that is an item by itself, without a look at what follows. -/
def isItem (c : Char) : Bool :=
  c ∉ ['\\', '|', ')', '?', '*', '+', '\x7b', '(', '[']

def itemNode (c : Char) : Node :=
  if c = '.' then .any
  else if c = '^' then .anchor .lineStart
  else if c = '$' then .anchor .lineEnd
  else .one c.toNat

theorem isItem_iff : isItem c = true ↔ c ≠ '\\' ∧ c ≠ '|' ∧ c ≠ ')' ∧ c ≠ '?' ∧ c ≠ '*' ∧
    c ≠ '+' ∧ c ≠ '\x7b' ∧ c ≠ '(' ∧ c ≠ '[' := by
  simp [isItem]

theorem simpleItem_of_isItem (h : isItem c = true) : simpleItem c r = .ok (itemNode c, r) := by
  rw [isItem_iff] at h
  unfold simpleItem itemNode
  split <;> simp_all

theorem parseItems_item (hc : isItem c = true) (hrest : rest ≠ ['\\']) :
    parseItems (fuel + 1) false first items { r with source := ⟨pos, c :: rest⟩ } =
      parseItems fuel false first (itemNode c :: items)
        { r with source := ⟨pos + 1, rest⟩ } := by
  have hsimple := simpleItem_of_isItem (r := { r with source := ⟨pos + 1, rest⟩ }) hc
  rw [isItem_iff] at hc
  obtain ⟨hslash, hbar, hclose, hoptional, hstar, hplus, hbrace, hopen, hset⟩ := hc
  rw [parseItems]
  simp [Source.peek_plain hslash, Source.skip_plain hslash hrest, hsimple, hbar, hclose]

theorem itemEscape_of_special (hc : c ∈ specialChars) : itemEscape c r = .ok (.one c.toNat, r) := by
  simp only [specialChars, List.mem_cons, List.not_mem_nil, or_false] at hc
  rcases hc with rfl | rfl | rfl | rfl | rfl | rfl | rfl | rfl | rfl | rfl | rfl | rfl | rfl | rfl |
    rfl | rfl | rfl | rfl | rfl | rfl | rfl | rfl | rfl | rfl <;> rfl

theorem parseItems_special (hc : c ∈ specialChars) (hrest : rest ≠ ['\\']) :
    parseItems (fuel + 1) false first items { r with source := ⟨pos, '\\' :: c :: rest⟩ } =
      parseItems fuel false first (.one c.toNat :: items)
        { r with source := ⟨pos + 2, rest⟩ } := by
  have hescape := itemEscape_of_special (r := { r with source := ⟨pos + 2, rest⟩ }) hc
  rw [parseItems]
  simp [Source.peek, Source.skip_escaped hrest, hescape]

theorem isItem_of_not_special (hc : c ∉ specialChars) : isItem c = true := by
  rw [isItem_iff]
  refine ⟨?_, ?_, ?_, ?_, ?_, ?_, ?_, ?_, ?_⟩ <;>
  · rintro rfl
    exact hc (by decide)

theorem parseItems_escapeChar (c : Char) (hrest : rest ≠ ['\\']) :
    parseItems (fuel + 1) false first items { r with source := ⟨pos, escapeChar c ++ rest⟩ } =
      parseItems fuel false first (.one c.toNat :: items)
        { r with source := ⟨pos + (escapeChar c).length, rest⟩ } := by
  unfold escapeChar
  split
  · rename_i hc
    exact parseItems_special hc hrest
  · rename_i hc
    have hdot : c ≠ '.' := fun h => hc (h ▸ by decide)
    have hcaret : c ≠ '^' := fun h => hc (h ▸ by decide)
    have hdollar : c ≠ '$' := fun h => hc (h ▸ by decide)
    have hnode : itemNode c = .one c.toNat := by
      rw [itemNode, if_neg hdot, if_neg hcaret, if_neg hdollar]
    rw [List.length_singleton, ← hnode]
    exact parseItems_item (isItem_of_not_special hc) hrest

def canRepeat : Node → Bool
  | .anchor _ | .repetition .. => false
  | _ => true

theorem repeatLast_greedy {start : Nat} {bounds : Bounds} {s : Source}
    (hnode : canRepeat node = true) (hfew : s.starts '?' = false) (hkeep : s.starts '+' = false) :
    repeatLast start bounds (node :: items) s =
      .ok (.repetition .greedy bounds.least bounds.greatest node :: items, s) := by
  cases node <;>
    simp_all [repeatLast, canRepeat, Source.accept_of_starts hfew, Source.accept_of_starts hkeep]

def repeatBounds? : Char → Option Bounds
  | '?' => some ⟨0, some 1⟩
  | '*' => some ⟨0, none⟩
  | '+' => some ⟨1, none⟩
  | _ => none

theorem parseItems_repeat {bounds : Bounds} (hc : repeatBounds? c = some bounds)
    (hnode : canRepeat node = true) (hrest : rest ≠ ['\\'])
    (hfew : Source.starts ⟨pos + 1, rest⟩ '?' = false)
    (hkeep : Source.starts ⟨pos + 1, rest⟩ '+' = false) :
    parseItems (fuel + 1) false first (node :: items) { r with source := ⟨pos, c :: rest⟩ } =
      parseItems fuel false first (.repetition .greedy bounds.least bounds.greatest node :: items)
        { r with source := ⟨pos + 1, rest⟩ } := by
  have hslash : c ≠ '\\' := by
    rintro rfl
    cases hc
  have hskip : Source.skip ⟨pos, c :: rest⟩ = .ok ⟨pos + 1, rest⟩ :=
    Source.skip_plain hslash hrest
  rw [parseItems]
  unfold repeatBounds? at hc
  split at hc
  · obtain rfl := Option.some.inj hc
    simp [Source.peek_plain, hskip, repeatLast_greedy hnode hfew hkeep]
  · obtain rfl := Option.some.inj hc
    simp [Source.peek_plain, hskip, repeatLast_greedy hnode hfew hkeep]
  · obtain rfl := Option.some.inj hc
    simp [Source.peek_plain, hskip, repeatLast_greedy hnode hfew hkeep]
  · cases hc

theorem parseItems_set {s : Source} (hrest : rest ≠ ['\\'])
    (hset : parseSet ⟨pos + 1, rest⟩ = .ok (node, s)) :
    parseItems (fuel + 1) false first items { r with source := ⟨pos, '[' :: rest⟩ } =
      parseItems fuel false first (node :: items) { r with source := s } := by
  have hskip : Source.skip ⟨pos, '[' :: rest⟩ = .ok ⟨pos + 1, rest⟩ :=
    Source.skip_plain (by decide) hrest
  rw [parseItems]
  simp [Source.peek_plain, hskip, simpleItem, hset]

theorem parseItems_end {verbose : Bool} (h : r.source.peek = none ∨
    r.source.peek = some (.plain '|') ∨ r.source.peek = some (.plain ')')) :
    parseItems (fuel + 1) verbose first items r = .ok (Node.ofList items.reverse, r) := by
  rw [parseItems]
  rcases h with h | h | h <;> simp [h]

/-! ## Groups -/

theorem parseOpening_plain (start pos : Nat) (r : Reader) (hrest : rest ≠ ['\\']) :
    parseOpening start { r with source := ⟨pos, '?' :: ':' :: rest⟩ } =
      .ok (.plain {} {}, { r with source := ⟨pos + 2, rest⟩ }) := by
  have haccept : Source.accept ⟨pos, '?' :: ':' :: rest⟩ '?' = .ok (true, ⟨pos + 1, ':' :: rest⟩) :=
    Source.accept_plain (by decide) (by simp)
  have hnext : Source.next ⟨pos + 1, ':' :: rest⟩ = .ok (some (.plain ':'), ⟨pos + 2, rest⟩) :=
    Source.next_plain (by decide) hrest
  simp [parseOpening, haccept, hnext]

theorem parseItems_group {close : Nat} {body : Node} {after : List Char} (hrest : rest ≠ ['\\'])
    (hafter : after ≠ ['\\'])
    (hbody : parseAlternatives fuel false true false { r with source := ⟨pos + 3, rest⟩ } =
      .ok (body, { r with source := ⟨close, ')' :: after⟩ })) :
    parseItems (fuel + 2) false first items { r with source := ⟨pos, '(' :: '?' :: ':' :: rest⟩ } =
      parseItems (fuel + 1) false first (.options {} {} body :: items)
        { r with source := ⟨close + 1, after⟩ } := by
  have hskip : Source.skip ⟨pos, '(' :: '?' :: ':' :: rest⟩ = .ok ⟨pos + 1, '?' :: ':' :: rest⟩ :=
    Source.skip_plain (by decide) (by simp)
  have hopening := parseOpening_plain pos (pos + 1) r hrest
  have hclose : Source.accept ⟨close, ')' :: after⟩ ')' = .ok (true, ⟨close + 1, after⟩) :=
    Source.accept_plain (by decide) hafter
  have hgroup : parseGroup (fuel + 1) false pos (.plain {} {})
      { r with source := ⟨pos + 3, rest⟩ } =
      .ok (.options {} {} body, { r with source := ⟨close + 1, after⟩ }) := by
    rw [parseGroup]
    simp [hbody, closeParenthesis, hclose]
  rw [parseItems]
  simp [Source.peek_plain, hskip, hopening, hgroup]

theorem parseAlternatives_last {verbose nested : Bool} {r' : Reader}
    (hitems : parseItems fuel verbose first [] r = .ok (node, r'))
    (hbar : r'.source.starts '|' = false) :
    parseAlternatives (fuel + 1) verbose nested first r = .ok (node, r') := by
  rw [parseAlternatives]
  simp [hitems, Source.accept_of_starts hbar]

theorem parseAlternatives_bar {verbose : Bool} {r' r'' : Reader} {others : Node}
    (hitems : parseItems fuel verbose first [] r =
      .ok (node, { r' with source := ⟨pos, '|' :: rest⟩ }))
    (hrest : rest ≠ ['\\'])
    (hothers : parseAlternatives fuel verbose true false { r' with source := ⟨pos + 1, rest⟩ } =
      .ok (others, r'')) :
    parseAlternatives (fuel + 1) verbose true first r = .ok (.alt node others, r'') := by
  have hbar : Source.accept ⟨pos, '|' :: rest⟩ '|' = .ok (true, ⟨pos + 1, rest⟩) :=
    Source.accept_plain (by decide) hrest
  rw [parseAlternatives]
  simp [hitems, hbar, hothers]

theorem parse_of_items {text : List Char} {pos : Nat} (hslash : text ≠ ['\\'])
    (hitems : parseItems (3 * text.length + 2) false true [] { source := ⟨0, text⟩ } =
      .ok (node, { source := ⟨pos, []⟩ })) : parse text = .ok ⟨{}, node⟩ := by
  have hat : Source.at? 0 text = .ok ⟨0, text⟩ := by
    rw [Source.at?, if_neg hslash]
  simp [parse, hat, parseAlternatives_last hitems rfl, Source.peek]

end Items

end HeaderRules.Regex
