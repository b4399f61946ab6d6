import HeaderRules.Proofs.Url.FilterMeaning
import HeaderRules.Proofs.Url.PatternText
/-!
# What patterns mean

When a URL matches a pattern, said without regular expressions: the characters of a wildcard pattern
spell the URL from its beginning to its end, and a simple pattern stands somewhere in it.
-/

namespace HeaderRules.Url

open HeaderRules.Text (sameLetter)
open HeaderRules.Regex

/-! ## Wildcard patterns -/

namespace Wildcard

/-- Whether one character of a wildcard pattern stands for a text. -/
def FitsChar (c : Char) (text : List Char) : Prop :=
  if c = '*' then '\n' ∉ text else ∃ d, text = [d] ∧ sameLetter c.toNat d.toNat = true

/-- Whether the characters of a wildcard pattern stand for a text. -/
inductive Fits : (body text : List Char) → Prop
  | nil : Fits [] []
  | cons {c : Char} {body first rest : List Char} (head : FitsChar c first)
      (tail : Fits body rest) : Fits (c :: body) (first ++ rest)

variable {before text after : List Char}

theorem reads_charNode (c : Char) :
    (charNode c).Reads filterFlags before text after ↔ FitsChar c text := by
  unfold charNode FitsChar
  split
  · rename_i hstar
    subst hstar
    have hspells : (Filter.charNode '*').Reads filterFlags before text after ↔
        SpellsChar '*' text after := Url.reads_charNode '*'
    rwa [SpellsChar, if_pos rfl] at hspells
  · exact reads_one c

theorem fits_nil_iff : Fits [] text ↔ text = [] := by
  constructor
  · rintro ⟨⟩
    rfl
  · rintro rfl
    exact .nil

theorem fits_cons_iff {c : Char} {rest : List Char} :
    Fits (c :: rest) text ↔
      ∃ first second, text = first ++ second ∧ FitsChar c first ∧ Fits rest second := by
  constructor
  · rintro (_ | ⟨hhead, htail⟩)
    exact ⟨_, _, rfl, hhead, htail⟩
  · rintro ⟨first, second, rfl, hhead, htail⟩
    exact .cons hhead htail

theorem reads_body (body : List Char) :
    (Node.ofList (body.map charNode)).Reads filterFlags before text after ↔ Fits body text :=
  -- what stands behind the text has no part in what a wildcard pattern fits
  Node.reads_ofList_map (fun c text _ => FitsChar c text) (fun body text _ => Fits body text)
    (fun c _ _ _ => reads_charNode c) (fun _ _ => fits_nil_iff) (fun _ _ _ _ => fits_cons_iff)
    body before text after

theorem reads_anchors (place : Anchor) (bar : Bool) :
    (Node.ofList (anchors place bar)).Reads filterFlags before text after ↔
      (Node.anchor place).Reads filterFlags before text after := by
  cases bar with
  | false => rw [anchors, if_neg (by decide), Node.reads_singleton]
  | true =>
    rw [anchors, if_pos rfl, Node.reads_cons, Node.reads_singleton]
    constructor
    · rintro ⟨_, _, rfl, ⟨rfl, hholds⟩, ⟨rfl, -⟩⟩
      exact ⟨rfl, hholds⟩
    · rintro ⟨rfl, hholds⟩
      exact ⟨[], [], rfl, ⟨rfl, hholds⟩, ⟨rfl, hholds⟩⟩

theorem reads_toNode (pattern : List Char) :
    (toNode pattern).Reads filterFlags [] text after ↔ Fits (body pattern) text ∧ AtEnd after := by
  simp only [toNode, Node.reads_ofList_append, Language.seq, reads_anchors, reads_lineStart,
    reads_lineEnd, reads_body]
  constructor
  · rintro ⟨_, _, rfl, ⟨_, middle, rfl, ⟨rfl, -⟩, hmiddle⟩, rfl, hend⟩
    exact ⟨by simpa using hmiddle, hend⟩
  · rintro ⟨hmiddle, hend⟩
    exact ⟨text, [], by simp, ⟨[], text, rfl, ⟨rfl, trivial⟩, hmiddle⟩, rfl, hend⟩

/-- A wildcard pattern always has an answer: whether its characters spell the URL, or all of it but
a line break at the end. -/
theorem evaluate_eq {pattern : List Char} (hformat : formatOf pattern = .wildcard)
    (url : List Char) :
    ∃ found, evaluate pattern url = .ok found ∧
      (found = true ↔ ∃ text after, url = text ++ after ∧ Fits (body pattern) text ∧
        AtEnd after) := by
  let regex : Regex := ⟨filterFlags, toNode pattern⟩
  refine ⟨regex.matchesStart url, ?_, ?_⟩
  · rw [evaluate, matchUrl, hformat, compile_wildcardRegex]
    rfl
  · rw [matchesStart_iff (isPlain_toNode pattern)]
    simp only [regex, reads_toNode]

end Wildcard

/-! ## Simple patterns -/

theorem occursIn_iff {needle text : List Char} :
    occursIn needle text = true ↔ needle <:+: text := by
  induction text with
  | nil => simp [occursIn]
  | cons c rest ih =>
    rw [occursIn, Bool.or_eq_true, ih, List.isPrefixOf_iff_prefix, List.infix_cons_iff]

theorem evaluate_simple {pattern : List Char} (hformat : formatOf pattern = .simple)
    (url : List Char) :
    evaluate pattern url = .ok (occursIn (Text.lower pattern) (Text.lower url)) := by
  rw [evaluate, matchUrl, hformat]
  rfl

end HeaderRules.Url
