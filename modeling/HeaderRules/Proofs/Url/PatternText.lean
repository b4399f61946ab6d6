import HeaderRules.Proofs.Url.FilterText
import HeaderRules.Url.Pattern
/-!
# The expressions of wildcard patterns

The regular expression that a wildcard pattern is written as is always read, and it is read as the
anchors of both ends with one node for each character between them.
-/

namespace HeaderRules.Url

open HeaderRules.Regex

namespace Wildcard

def leads (pattern : List Char) : Bool := (splitLeadingBar pattern).1

/-- Whether a pattern ends with a bar behind the one that it may begin with. -/
def trails (pattern : List Char) : Bool := (splitTrailingBar (splitLeadingBar pattern).2).1

def body (pattern : List Char) : List Char := (splitTrailingBar (splitLeadingBar pattern).2).2

def charNode (c : Char) : Node := if c = '*' then .repetition .greedy 0 none .any else .one c.toNat

/-- An anchor, once more if there is a bar. -/
def anchors (place : Anchor) (bar : Bool) : List Node :=
  .anchor place :: if bar then [.anchor place] else []

def toNode (pattern : List Char) : Node :=
  .ofList (anchors .lineStart (leads pattern) ++ (body pattern).map charNode ++
    anchors .lineEnd (trails pattern))

variable {fuel : Nat} {tail : List Char}

theorem clean_wildcardChar (c : Char) (rest : List Char) :
    Filter.Clean (wildcardChar c ++ rest) := by
  unfold wildcardChar
  split
  · exact Filter.clean_cons (by decide)
  · exact Filter.clean_escapeChar c rest

theorem readsBack_wildcardChar : Filter.ReadsBack wildcardChar charNode where
  clean := clean_wildcardChar
  items c pos first items r := by
    intro fuel tail htail hfuel
    by_cases hcaret : c = '^'
    · subst hcaret
      have hlength : (wildcardChar '^' ++ tail).length = tail.length + 2 := by
        simp [wildcardChar, escapeChar, specialChars]
      obtain ⟨fuel, rfl⟩ : ∃ n, fuel = n + 1 := ⟨fuel - 1, by omega⟩
      exact ⟨fuel, pos + 2, by omega, parseItems_escapeChar '^' htail.slash⟩
    · have htext : wildcardChar c = Filter.charRegex c := by
        rw [Filter.charRegex, if_neg hcaret, wildcardChar]
      have hnode : charNode c = Filter.charNode c := by
        rw [Filter.charNode, if_neg hcaret, charNode]
      rw [htext] at hfuel ⊢
      rw [hnode]
      exact Filter.parseItems_char c pos first items r htail hfuel

theorem parseItems_lineStart (bar : Bool) (pos : Nat) (first : Bool) (items : List Node)
    (r : Reader) (htail : Filter.Clean tail)
    (hfuel : 3 * (('^' :: if bar then ['^'] else []) ++ tail).length < fuel) :
    ∃ fuel' pos', 3 * tail.length < fuel' ∧
      parseItems fuel false first items
          { r with source := ⟨pos, ('^' :: if bar then ['^'] else []) ++ tail⟩ } =
        parseItems fuel' false first ((anchors .lineStart bar).reverse ++ items)
          { r with source := ⟨pos', tail⟩ } := by
  cases bar with
  | false =>
    obtain ⟨fuel, rfl⟩ : ∃ n, fuel = n + 1 := ⟨fuel - 1, by simp at hfuel; omega⟩
    exact ⟨fuel, pos + 1, by simp at hfuel; omega, parseItems_item (by decide) htail.slash⟩
  | true =>
    obtain ⟨fuel, rfl⟩ : ∃ n, fuel = n + 2 := ⟨fuel - 2, by simp at hfuel; omega⟩
    refine ⟨fuel, pos + 2, by simp at hfuel; omega, ?_⟩
    exact (parseItems_item (by decide) (by simp)).trans (parseItems_item (by decide) htail.slash)

theorem parseItems_lineEnd (bar : Bool) (pos : Nat) (first : Bool) (items : List Node) (r : Reader)
    (hfuel : 3 * ((if bar then ['$'] else []) ++ ['$']).length < fuel) :
    ∃ pos', parseItems fuel false first items
        { r with source := ⟨pos, (if bar then ['$'] else []) ++ ['$']⟩ } =
      .ok (.ofList (items.reverse ++ anchors .lineEnd bar), { r with source := ⟨pos', []⟩ }) := by
  cases bar with
  | false =>
    obtain ⟨fuel, rfl⟩ : ∃ n, fuel = n + 2 := ⟨fuel - 2, by simp at hfuel; omega⟩
    refine ⟨pos + 1, ?_⟩
    refine (parseItems_item (by decide) (by simp)).trans ?_
    rw [parseItems_end (.inl rfl)]
    simp [anchors, itemNode]
  | true =>
    obtain ⟨fuel, rfl⟩ : ∃ n, fuel = n + 3 := ⟨fuel - 3, by simp at hfuel; omega⟩
    refine ⟨pos + 2, ?_⟩
    refine (parseItems_item (by decide) (by simp)).trans ?_
    refine (parseItems_item (by decide) (by simp)).trans ?_
    rw [parseItems_end (.inl rfl)]
    simp [anchors, itemNode]

theorem clean_lineEnd (bar : Bool) : Filter.Clean ((if bar then ['$'] else []) ++ ['$']) := by
  cases bar with
  | false => exact Filter.clean_cons (by decide)
  | true => exact Filter.clean_cons (by decide)

/-- The expression of a wildcard pattern is read as the pattern's nodes. -/
theorem parse_wildcardRegex (pattern : List Char) :
    parse (wildcardRegex pattern) = .ok ⟨{}, toNode pattern⟩ := by
  have htext : wildcardRegex pattern = ('^' :: if leads pattern then ['^'] else []) ++
      ((body pattern).flatMap wildcardChar ++ ((if trails pattern then ['$'] else []) ++ ['$'])) := by
    rw [← List.append_assoc, ← List.append_assoc]
    rfl
  have hend : Filter.Clean ((if trails pattern then ['$'] else []) ++ ['$']) :=
    clean_lineEnd (trails pattern)
  have hbody : Filter.Clean ((body pattern).flatMap wildcardChar ++
      ((if trails pattern then ['$'] else []) ++ ['$'])) :=
    readsBack_wildcardChar.clean_body hend
  have hslash : wildcardRegex pattern ≠ ['\\'] := by
    rw [htext]
    exact (Filter.clean_cons (by decide)).slash
  have hfuel : 3 * (wildcardRegex pattern).length < 3 * (wildcardRegex pattern).length + 2 := by
    omega
  rw [htext] at hfuel
  let r : Reader := { source := ⟨0, []⟩ }
  obtain ⟨fuel₁, pos₁, hfuel₁, hstart⟩ :=
    parseItems_lineStart (leads pattern) 0 true [] r hbody hfuel
  obtain ⟨fuel₂, pos₂, hfuel₂, hmiddle⟩ := readsBack_wildcardChar.body (body pattern) pos₁ true
    ((anchors .lineStart (leads pattern)).reverse ++ []) r hend hfuel₁
  obtain ⟨pos₃, hfinish⟩ := parseItems_lineEnd (trails pattern) pos₂ true
    (((body pattern).map charNode).reverse ++
      ((anchors .lineStart (leads pattern)).reverse ++ [])) r hfuel₂
  have hitems : parseItems (3 * (wildcardRegex pattern).length + 2) false true []
      { source := ⟨0, wildcardRegex pattern⟩ } =
        .ok (toNode pattern, { source := ⟨pos₃, []⟩ }) := by
    rw [htext, hstart, hmiddle, hfinish]
    simp [toNode, r]
  exact parse_of_items hslash hitems

theorem isPlain_charNode (c : Char) : (charNode c).IsPlain = true := by
  unfold charNode
  split <;> rfl

theorem isPlain_toNode (pattern : List Char) : (toNode pattern).IsPlain = true := by
  have hanchors (place : Anchor) (bar : Bool) : (anchors place bar).all Node.IsPlain = true := by
    cases bar <;> rfl
  have hbody : ((body pattern).map charNode).all Node.IsPlain = true := by simp [isPlain_charNode]
  rw [toNode, Node.isPlain_ofList, List.all_append, List.all_append, hanchors, hbody, hanchors]
  rfl

/-- Every wildcard pattern has a compiled expression. -/
theorem compile_wildcardRegex (pattern : List Char) :
    Regex.compile (wildcardRegex pattern) true = .ok ⟨{ ignoreCase := true }, toNode pattern⟩ :=
  compile_of_parse (parse_wildcardRegex pattern) (Node.check_of_isPlain (isPlain_toNode pattern))
    true

end Wildcard

end HeaderRules.Url
