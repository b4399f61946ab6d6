import HeaderRules.Proofs.Url.WildcardText
/-!
# Characters that stand for themselves

Filters and wildcard patterns become regular expressions as texts, which are then read like any
other. Whatever characters they hold, the text is read without a fault, as the nodes of the anchors
with one node for each character between them: the star and, in a filter, the caret have nodes of
their own, and every other character is one literal. Nothing that people write is taken for an
operator.
-/

namespace HeaderRules.Url

open HeaderRules.Regex

/-- Whether a text is read and compiled as an expression, case being ignored or not. -/
def ReadAs (text : List Char) (node : Node) : Prop :=
  ∀ ignoreCase : Bool, parse text { ignoreCase } = .ok ⟨{ ignoreCase }, node⟩ ∧
    Regex.compile text ignoreCase = .ok ⟨{ ignoreCase }, node⟩

/-- A text that is read as a plain expression without options is read so with case ignored, too. -/
theorem readAs_of_parse {text : List Char} {node : Node} (h : parse text = .ok ⟨{}, node⟩)
    (hplain : node.IsPlain = true) : ReadAs text node := by
  intro ignoreCase
  refine ⟨?_, compile_of_parse h (Node.check_of_isPlain hplain) ignoreCase⟩
  rw [parse_ignoreCase, h]
  rfl

theorem readAs_filterRegex (filter : List Char) :
    ReadAs (filterRegex filter) (Filter.ofText filter).toNode :=
  readAs_of_parse (Filter.parse_toRegex _) (Filter.isPlain_toNode _)

theorem readAs_wildcardRegex (pattern : List Char) :
    ReadAs (wildcardRegex pattern) (Wildcard.toNode pattern) :=
  readAs_of_parse (Wildcard.parse_wildcardRegex pattern) (Wildcard.isPlain_toNode pattern)

/-- The expression of a filter is read as the anchors of the filter with one node for each character
between them, and so it always compiles. The expression of a wildcard pattern, which is made by
rewriting the escaped text, is read as the anchors of both ends with one node for each character
between the bars. -/
theorem expressions_literal (filter pattern : List Char) :
    ReadAs (filterRegex filter)
        (.ofList (Filter.startNodes (startOf filter) ++ (bodyOf filter).map Filter.charNode ++
          Filter.endNodes (endsWithBar filter))) ∧
      (∃ regex, compileFilter filter = .ok regex) ∧
      wildcardRegex pattern = Wildcard.rewritten pattern ∧
      ReadAs (Wildcard.rewritten pattern)
        (.ofList (Wildcard.anchors .lineStart (Wildcard.leads pattern) ++
          (Wildcard.body pattern).map Wildcard.charNode ++
          Wildcard.anchors .lineEnd (Wildcard.trails pattern))) := by
  have hfilter := readAs_filterRegex filter
  have hcompile : compileFilter filter = .ok ⟨filterFlags, (Filter.ofText filter).toNode⟩ :=
    (hfilter true).2
  have hpattern := readAs_wildcardRegex pattern
  rw [Wildcard.wildcardRegex_eq_rewritten] at hpattern
  rw [ofText_eq] at hfilter
  exact ⟨hfilter, ⟨_, hcompile⟩, Wildcard.wildcardRegex_eq_rewritten pattern, hpattern⟩

end HeaderRules.Url
