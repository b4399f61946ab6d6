import HeaderRules.Proofs.Regex.CaseOption
import HeaderRules.Proofs.Regex.Language
import HeaderRules.Proofs.Regex.Reading
import HeaderRules.Url.Filter
/-!
# The expressions of filters

The regular expression that a filter is written as is always read, and it is read as the nodes of
the start, one node for each character and the node of the end. No character of a filter can mean
anything else.
-/

namespace HeaderRules.Url

open HeaderRules.Regex

namespace Filter

def separatorSet : List SetItem :=
  [.range 0x41 0x5A, .range 0x61 0x7A, .range 0x30 0x39, .one 0x5F, .one 0x2D, .one 0x2E, .one 0x25]

def separatorNode : Node :=
  .options {} {} (.alt (.ofList [.set true separatorSet]) (.ofList [.anchor .lineEnd]))

def charNode (c : Char) : Node :=
  if c = '*' then .repetition .greedy 0 none .any
  else if c = '^' then separatorNode
  else .one c.toNat

def subdomainNode : Node :=
  .options {} {} (.ofList [.repetition .greedy 0 none (.set true [.one 0x2F, .one 0x3F, .one 0x23]),
    .one 0x2E])

def domainNodes : List Node :=
  [.anchor .lineStart, .set false [.range 0x61 0x7A],
    .repetition .greedy 0 none
      (.set false [.range 0x61 0x7A, .range 0x30 0x39, .one 0x2B, .one 0x2E, .one 0x2D]),
    .one 0x3A, .one 0x2F, .one 0x2F, .repetition .greedy 0 (some 1) subdomainNode]

def startNodes : FilterStart → List Node
  | .anywhere => []
  | .urlStart => [.anchor .lineStart]
  | .domain => domainNodes

def endNodes (atEnd : Bool) : List Node := if atEnd then [.anchor .lineEnd] else []

def toNode (f : Filter) : Node :=
  .ofList (startNodes f.start ++ f.body.map charNode ++ endNodes f.atEnd)

/-! ## The text behind a part -/

/-- A text that cannot change what stands before it. -/
structure Clean (rest : List Char) : Prop where
  slash : rest ≠ ['\\']
  few : ∀ pos, Source.starts ⟨pos, rest⟩ '?' = false
  keep : ∀ pos, Source.starts ⟨pos, rest⟩ '+' = false

theorem clean_nil : Clean [] := ⟨by simp, fun _ => rfl, fun _ => rfl⟩

theorem clean_cons {c : Char} {rest : List Char} (h : c ∉ ['\\', '?', '+']) : Clean (c :: rest) where
  slash := by simp_all
  few pos := Source.starts_of_ne (by simp_all)
  keep pos := Source.starts_of_ne (by simp_all)

theorem clean_escapeChar (c : Char) (rest : List Char) : Clean (escapeChar c ++ rest) := by
  unfold escapeChar
  split
  · exact ⟨by simp, fun pos => Source.starts_of_ne (by decide),
      fun pos => Source.starts_of_ne (by decide)⟩
  · rename_i hc
    apply clean_cons
    intro hmem
    simp only [List.mem_cons, List.not_mem_nil, or_false] at hmem
    rcases hmem with rfl | rfl | rfl <;> exact hc (by decide)

theorem clean_charRegex (c : Char) (rest : List Char) : Clean (charRegex c ++ rest) := by
  unfold charRegex
  split
  · exact clean_cons (by decide)
  · split
    · exact clean_cons (by decide)
    · exact clean_escapeChar c rest

/-! ## Characters -/

variable {fuel pos : Nat} {first : Bool} {items : List Node} {r : Reader} {tail : List Char}

theorem setLoop_separator {start : Nat} (htail : tail ≠ ['\\']) :
    setLoop start (fuel + 8) [] ⟨pos, "A-Za-z0-9_\\-.%]".toList ++ tail⟩ =
      .ok (separatorSet, ⟨pos + 15, tail⟩) := by
  have htext : "A-Za-z0-9_\\-.%]".toList ++ tail =
    'A' :: '-' :: 'Z' :: 'a' :: '-' :: 'z' :: '0' :: '-' :: '9' :: '_' :: '\\' :: '-' :: '.' ::
      '%' :: ']' :: tail := rfl
  rw [htext, setLoop_range (by decide) (by decide) (by decide) (by simp),
    setLoop_range (by decide) (by decide) (by decide) (by simp),
    setLoop_range (by decide) (by decide) (by decide) (by simp),
    setLoop_one (by decide) (Source.starts_of_ne (by decide)) (by simp),
    setLoop_dash (Source.starts_of_ne (by decide)) (by simp),
    setLoop_one (by decide) (Source.starts_of_ne (by decide)) (by simp),
    setLoop_one (by decide) (Source.starts_of_ne (by decide)) (by simp),
    setLoop_close (by decide) htail]
  rfl

theorem parseSet_separator (pos : Nat) (htail : tail ≠ ['\\']) :
    parseSet ⟨pos, "^A-Za-z0-9_\\-.%]".toList ++ tail⟩ =
      .ok (.set true separatorSet, ⟨pos + 16, tail⟩) := by
  have haccept : Source.accept ⟨pos, "^A-Za-z0-9_\\-.%]".toList ++ tail⟩ '^' =
      .ok (true, ⟨pos + 1, "A-Za-z0-9_\\-.%]".toList ++ tail⟩) :=
    Source.accept_plain (by decide) (by simp)
  have hfuel : ("A-Za-z0-9_\\-.%]".toList ++ tail).length + 1 = tail.length + 8 + 8 := by
    simp
  simp only [parseSet, haccept, Outcome.ok_bind, hfuel, setLoop_separator htail]
  rfl

theorem parseItems_separator (htail : tail ≠ ['\\']) :
    parseItems (fuel + 6) false first items { r with source := ⟨pos, separatorRegex ++ tail⟩ } =
      parseItems (fuel + 5) false first (separatorNode :: items)
        { r with source := ⟨pos + 23, tail⟩ } := by
  have htext : separatorRegex ++ tail =
    '(' :: '?' :: ':' :: '[' :: ("^A-Za-z0-9_\\-.%]".toList ++ '|' :: '$' :: ')' :: tail) := rfl
  have hset : parseSet ⟨pos + 4, "^A-Za-z0-9_\\-.%]".toList ++ '|' :: '$' :: ')' :: tail⟩ =
      .ok (.set true separatorSet, ⟨pos + 20, '|' :: '$' :: ')' :: tail⟩) :=
    parseSet_separator (pos + 4) (by simp)
  have hleft : parseItems (fuel + 3) false false []
      { r with source := ⟨pos + 3,
        '[' :: ("^A-Za-z0-9_\\-.%]".toList ++ '|' :: '$' :: ')' :: tail)⟩ } =
      .ok (.ofList [.set true separatorSet],
        { r with source := ⟨pos + 20, '|' :: '$' :: ')' :: tail⟩ }) := by
    rw [parseItems_set (by simp) hset, parseItems_end (by simp [Source.peek_plain])]
    rfl
  have hright : parseItems (fuel + 2) false false []
      { r with source := ⟨pos + 21, '$' :: ')' :: tail⟩ } =
      .ok (.ofList [.anchor .lineEnd], { r with source := ⟨pos + 22, ')' :: tail⟩ }) := by
    rw [parseItems_item (by decide) (by simp), parseItems_end (by simp [Source.peek_plain])]
    rfl
  rw [htext, parseItems_group (by simp) htail]
  · rfl
  · exact parseAlternatives_bar hleft (by simp)
      (parseAlternatives_last hright (Source.starts_of_ne (by decide)))

theorem parseItems_char (c : Char) (pos : Nat) (first : Bool) (items : List Node) (r : Reader)
    (htail : Clean tail)
    (hfuel : 3 * (charRegex c ++ tail).length < fuel) :
    ∃ fuel' pos', 3 * tail.length < fuel' ∧
      parseItems fuel false first items { r with source := ⟨pos, charRegex c ++ tail⟩ } =
        parseItems fuel' false first (charNode c :: items)
          { r with source := ⟨pos', tail⟩ } := by
  rw [List.length_append] at hfuel
  unfold charRegex charNode at *
  split
  · rename_i hstar
    rw [if_pos hstar] at hfuel
    rw [show ['.', '*'].length = 2 from rfl] at hfuel
    obtain ⟨fuel, rfl⟩ : ∃ n, fuel = n + 2 := ⟨fuel - 2, by omega⟩
    refine ⟨fuel, pos + 2, by omega, ?_⟩
    rw [show ['.', '*'] ++ tail = '.' :: '*' :: tail from rfl,
      parseItems_item (by decide) (by simp),
      parseItems_repeat rfl rfl htail.slash (htail.few _) (htail.keep _)]
    rfl
  · rename_i hstar
    rw [if_neg hstar] at hfuel
    split
    · rename_i hcaret
      rw [if_pos hcaret, show separatorRegex.length = 23 from rfl] at hfuel
      obtain ⟨fuel, rfl⟩ : ∃ n, fuel = n + 6 := ⟨fuel - 6, by omega⟩
      exact ⟨fuel + 5, pos + 23, by omega, parseItems_separator htail.slash⟩
    · rename_i hcaret
      have hlength : 0 < (escapeChar c).length := by
        unfold escapeChar
        split <;> simp
      rw [if_neg hcaret] at hfuel
      obtain ⟨fuel, rfl⟩ : ∃ n, fuel = n + 1 := ⟨fuel - 1, by omega⟩
      exact ⟨fuel, _, by omega, parseItems_escapeChar c htail.slash⟩

/-- A way to write characters that is read back as one node for each, whatever stands behind it.
Fuel is enough while there are three units for every character of the pattern that is left. -/
structure ReadsBack (write : Char → List Char) (node : Char → Node) : Prop where
  clean : ∀ c rest, Clean (write c ++ rest)
  items : ∀ (c : Char) (pos : Nat) (first : Bool) (items : List Node) (r : Reader)
    {fuel : Nat} {tail : List Char}, Clean tail → 3 * (write c ++ tail).length < fuel →
      ∃ fuel' pos', 3 * tail.length < fuel' ∧
        parseItems fuel false first items { r with source := ⟨pos, write c ++ tail⟩ } =
          parseItems fuel' false first (node c :: items) { r with source := ⟨pos', tail⟩ }

theorem ReadsBack.clean_body {write : Char → List Char} {node : Char → Node}
    (h : ReadsBack write node) {body tail : List Char} (htail : Clean tail) :
    Clean (body.flatMap write ++ tail) := by
  cases body with
  | nil => exact htail
  | cons c rest =>
    rw [List.flatMap_cons, List.append_assoc]
    exact h.clean c _

theorem ReadsBack.body {write : Char → List Char} {node : Char → Node} (h : ReadsBack write node)
    (body : List Char) (pos : Nat) (first : Bool) (items : List Node) (r : Reader)
    (htail : Clean tail) (hfuel : 3 * (body.flatMap write ++ tail).length < fuel) :
    ∃ fuel' pos', 3 * tail.length < fuel' ∧
      parseItems fuel false first items { r with source := ⟨pos, body.flatMap write ++ tail⟩ } =
        parseItems fuel' false first ((body.map node).reverse ++ items)
          { r with source := ⟨pos', tail⟩ } := by
  induction body generalizing fuel pos items with
  | nil => exact ⟨fuel, pos, hfuel, rfl⟩
  | cons c rest ih =>
    rw [List.flatMap_cons, List.append_assoc] at hfuel ⊢
    obtain ⟨fuel₁, pos₁, hfuel₁, hchar⟩ := h.items c pos first items r (h.clean_body htail) hfuel
    obtain ⟨fuel₂, pos₂, hfuel₂, hrest⟩ := ih pos₁ (node c :: items) hfuel₁
    exact ⟨fuel₂, pos₂, hfuel₂, by rw [hchar, hrest]; simp⟩

theorem readsBack_charRegex : ReadsBack charRegex charNode where
  clean := clean_charRegex
  items c pos first items r _ _ := parseItems_char c pos first items r

/-! ## Starts and ends -/

theorem parseItems_subdomain (htail : tail ≠ ['\\']) :
    parseItems (fuel + 7) false first items
        { r with source := ⟨pos, "(?:[^/?#]*\\.)".toList ++ tail⟩ } =
      parseItems (fuel + 6) false first (subdomainNode :: items)
        { r with source := ⟨pos + 13, tail⟩ } := by
  have htext : "(?:[^/?#]*\\.)".toList ++ tail =
    '(' :: '?' :: ':' :: '[' :: '^' :: '/' :: '?' :: '#' :: ']' :: '*' :: '\\' :: '.' :: ')' ::
      tail := rfl
  have hset : parseSet ⟨pos + 4, '^' :: '/' :: '?' :: '#' :: ']' :: '*' :: '\\' :: '.' :: ')' ::
      tail⟩ = .ok (.set true [.one 0x2F, .one 0x3F, .one 0x23],
        ⟨pos + 9, '*' :: '\\' :: '.' :: ')' :: tail⟩) := by
    have haccept : Source.accept ⟨pos + 4, '^' :: '/' :: '?' :: '#' :: ']' :: '*' :: '\\' :: '.' ::
        ')' :: tail⟩ '^' = .ok (true, ⟨pos + 5, '/' :: '?' :: '#' :: ']' :: '*' :: '\\' :: '.' ::
        ')' :: tail⟩) := Source.accept_plain (by decide) (by simp)
    simp only [parseSet, haccept, Outcome.ok_bind, List.length_cons]
    rw [setLoop_one (by decide) (Source.starts_of_ne (by decide)) (by simp),
      setLoop_one (by decide) (Source.starts_of_ne (by decide)) (by simp),
      setLoop_one (by decide) (Source.starts_of_ne (by decide)) (by simp),
      setLoop_close (by decide) (by simp)]
    rfl
  have hbody : parseItems (fuel + 4) false false [] { r with source := ⟨pos + 3,
      '[' :: '^' :: '/' :: '?' :: '#' :: ']' :: '*' :: '\\' :: '.' :: ')' :: tail⟩ } =
      .ok (.ofList [.repetition .greedy 0 none (.set true [.one 0x2F, .one 0x3F, .one 0x23]),
        .one 0x2E], { r with source := ⟨pos + 12, ')' :: tail⟩ }) := by
    rw [parseItems_set (by simp) hset,
      parseItems_repeat rfl rfl (by simp) (Source.starts_of_ne (by decide))
        (Source.starts_of_ne (by decide)),
      parseItems_special (by decide) (by simp), parseItems_end (by simp [Source.peek_plain])]
    rfl
  rw [htext, parseItems_group (by simp) htail
    (parseAlternatives_last hbody (Source.starts_of_ne (by decide)))]
  rfl

theorem parseSet_letters (htail : tail ≠ ['\\']) :
    parseSet ⟨pos, 'a' :: '-' :: 'z' :: ']' :: tail⟩ =
      .ok (.set false [.range 0x61 0x7A], ⟨pos + 4, tail⟩) := by
  have haccept : Source.accept ⟨pos, 'a' :: '-' :: 'z' :: ']' :: tail⟩ '^' = .ok (false, _) :=
    Source.accept_of_starts (Source.starts_of_ne (by decide))
  simp only [parseSet, haccept, Outcome.ok_bind, List.length_cons]
  rw [setLoop_range (by decide) (by decide) (by decide) (by simp),
    setLoop_close (by decide) htail]
  rfl

theorem parseSet_scheme (htail : tail ≠ ['\\']) :
    parseSet ⟨pos, "a-z0-9+.\\-]".toList ++ tail⟩ =
      .ok (.set false [.range 0x61 0x7A, .range 0x30 0x39, .one 0x2B, .one 0x2E, .one 0x2D],
        ⟨pos + 11, tail⟩) := by
  have htext : "a-z0-9+.\\-]".toList ++ tail =
    'a' :: '-' :: 'z' :: '0' :: '-' :: '9' :: '+' :: '.' :: '\\' :: '-' :: ']' :: tail := rfl
  have haccept : Source.accept ⟨pos, 'a' :: '-' :: 'z' :: '0' :: '-' :: '9' :: '+' :: '.' :: '\\' ::
      '-' :: ']' :: tail⟩ '^' = .ok (false, _) :=
    Source.accept_of_starts (Source.starts_of_ne (by decide))
  simp only [htext, parseSet, haccept, Outcome.ok_bind, List.length_cons]
  rw [setLoop_range (by decide) (by decide) (by decide) (by simp),
    setLoop_range (by decide) (by decide) (by decide) (by simp),
    setLoop_one (by decide) (Source.starts_of_ne (by decide)) (by simp),
    setLoop_one (by decide) (Source.starts_of_ne (by decide)) (by simp),
    setLoop_dash (Source.starts_of_ne (by decide)) (by simp), setLoop_close (by decide) htail]
  rfl

theorem parseItems_domain (htail : Clean tail) :
    parseItems (fuel + 16) false first items { r with source := ⟨pos, domainRegex ++ tail⟩ } =
      parseItems (fuel + 7) false first (domainNodes.reverse ++ items)
        { r with source := ⟨pos + 36, tail⟩ } := by
  have htext : domainRegex ++ tail = '^' :: '[' :: 'a' :: '-' :: 'z' :: ']' :: '[' ::
    ("a-z0-9+.\\-]".toList ++ '*' :: ':' :: '/' :: '/' ::
      ("(?:[^/?#]*\\.)".toList ++ '?' :: tail)) := rfl
  rw [htext, parseItems_item (by decide) (by simp),
    parseItems_set (by simp) (parseSet_letters (by simp)),
    parseItems_set (by simp) (parseSet_scheme (by simp)),
    parseItems_repeat rfl rfl (by simp) (Source.starts_of_ne (by decide))
      (Source.starts_of_ne (by decide)),
    parseItems_item (by decide) (by simp), parseItems_item (by decide) (by simp),
    parseItems_item (by decide) (by simp), parseItems_subdomain (by simp),
    parseItems_repeat rfl rfl htail.slash (htail.few _) (htail.keep _)]
  rfl

theorem parseItems_start (start : FilterStart) (pos : Nat) (first : Bool) (items : List Node)
    (r : Reader) (htail : Clean tail)
    (hfuel : 3 * (startRegex start ++ tail).length < fuel) :
    ∃ fuel' pos', 3 * tail.length < fuel' ∧
      parseItems fuel false first items { r with source := ⟨pos, startRegex start ++ tail⟩ } =
        parseItems fuel' false first ((startNodes start).reverse ++ items)
          { r with source := ⟨pos', tail⟩ } := by
  rw [List.length_append] at hfuel
  cases start with
  | anywhere => exact ⟨fuel, pos, by omega, rfl⟩
  | urlStart =>
    obtain ⟨fuel, rfl⟩ : ∃ n, fuel = n + 1 := ⟨fuel - 1, by omega⟩
    rw [show (startRegex .urlStart).length = 1 from rfl] at hfuel
    exact ⟨fuel, pos + 1, by omega, parseItems_item (by decide) htail.slash⟩
  | domain =>
    rw [show (startRegex .domain).length = 36 from rfl] at hfuel
    obtain ⟨fuel, rfl⟩ : ∃ n, fuel = n + 16 := ⟨fuel - 16, by omega⟩
    exact ⟨fuel + 7, pos + 36, by omega, parseItems_domain htail⟩

theorem parseItems_finish (atEnd : Bool) (pos : Nat) (first : Bool) (items : List Node)
    (r : Reader) (hfuel : 3 * (if atEnd then ['$'] else []).length < fuel) :
    ∃ pos', parseItems fuel false first items
        { r with source := ⟨pos, if atEnd then ['$'] else []⟩ } =
      .ok (.ofList (items.reverse ++ endNodes atEnd), { r with source := ⟨pos', []⟩ }) := by
  cases atEnd with
  | false =>
    obtain ⟨fuel, rfl⟩ : ∃ n, fuel = n + 1 := ⟨fuel - 1, by omega⟩
    refine ⟨pos, ?_⟩
    rw [parseItems_end (.inl rfl)]
    simp [endNodes]
  | true =>
    obtain ⟨fuel, rfl⟩ : ∃ n, fuel = n + 2 := ⟨fuel - 2, by simp at hfuel; omega⟩
    refine ⟨pos + 1, ?_⟩
    rw [if_pos rfl, parseItems_item (by decide) (by simp), parseItems_end (.inl rfl)]
    simp [endNodes, itemNode]

theorem clean_finish (atEnd : Bool) : Clean (if atEnd then ['$'] else []) := by
  cases atEnd with
  | false => exact clean_nil
  | true => exact clean_cons (by decide)

/-- The expression of a filter is read as the filter's nodes, in order and nothing else. -/
theorem parse_toRegex (f : Filter) : parse f.toRegex = .ok ⟨{}, f.toNode⟩ := by
  have hclean : Clean (f.body.flatMap charRegex ++ if f.atEnd then ['$'] else []) :=
    readsBack_charRegex.clean_body (clean_finish f.atEnd)
  have htext : f.toRegex = startRegex f.start ++
      (f.body.flatMap charRegex ++ if f.atEnd then ['$'] else []) := by
    rw [toRegex, List.append_assoc]
  have hslash : f.toRegex ≠ ['\\'] := by
    rw [htext]
    cases f.start with
    | anywhere => exact hclean.slash
    | urlStart => exact (clean_cons (by decide)).slash
    | domain => exact (clean_cons (by decide)).slash
  have hfuel : 3 * (startRegex f.start ++
      (f.body.flatMap charRegex ++ if f.atEnd then ['$'] else [])).length <
        3 * f.toRegex.length + 2 := by
    rw [htext]
    omega
  let r : Reader := { source := ⟨0, []⟩ }
  -- the reader's groups and names are never touched, so one reader serves for all parts
  obtain ⟨fuel₁, pos₁, hfuel₁, hstart⟩ := parseItems_start f.start 0 true [] r hclean hfuel
  obtain ⟨fuel₂, pos₂, hfuel₂, hbody⟩ := readsBack_charRegex.body f.body pos₁ true
    ((startNodes f.start).reverse ++ []) r (clean_finish f.atEnd) hfuel₁
  obtain ⟨pos₃, hfinish⟩ := parseItems_finish f.atEnd pos₂ true
    ((f.body.map charNode).reverse ++ ((startNodes f.start).reverse ++ [])) r hfuel₂
  have hitems : parseItems (3 * f.toRegex.length + 2) false true [] { source := ⟨0, f.toRegex⟩ } =
      .ok (f.toNode, { source := ⟨pos₃, []⟩ }) := by
    rw [htext] at hstart ⊢
    rw [hstart, hbody, hfinish]
    simp [toNode, r]
  exact parse_of_items hslash hitems

theorem isPlain_charNode (c : Char) : (charNode c).IsPlain = true := by
  unfold charNode
  split
  · rfl
  · split <;> rfl

theorem isPlain_toNode (f : Filter) : f.toNode.IsPlain = true := by
  have hstart : (startNodes f.start).all Node.IsPlain = true := by cases f.start <;> rfl
  have hbody : (f.body.map charNode).all Node.IsPlain = true := by simp [isPlain_charNode]
  have hend : (endNodes f.atEnd).all Node.IsPlain = true := by cases f.atEnd <;> rfl
  rw [toNode, Node.isPlain_ofList, List.all_append, List.all_append, hstart, hbody, hend]
  rfl

/-- Every filter has a compiled expression. -/
theorem compile_toRegex (f : Filter) :
    Regex.compile f.toRegex true = .ok ⟨{ ignoreCase := true }, f.toNode⟩ :=
  compile_of_parse (parse_toRegex f) (Node.check_of_isPlain (isPlain_toNode f)) true

end Filter

end HeaderRules.Url
