import HeaderRules.Proofs.Regex.CharSet
import HeaderRules.Proofs.Url.FilterText
/-!
# What filters mean

When a URL passes a filter, said without regular expressions: some part of the URL is spelled by the
characters of the filter and lies where the anchors want it.
-/

namespace HeaderRules.Url

open HeaderRules.Text (sameLetter)
open HeaderRules.Regex

/-! ## A filter taken apart -/

def startOf (filter : List Char) : FilterStart :=
  if ['|', '|'].isPrefixOf filter then .domain
  else if ['|'].isPrefixOf filter then .urlStart
  else .anywhere

/-- What follows the bars at the beginning of a filter. -/
def afterStart (filter : List Char) : List Char :=
  match startOf filter with
  | .domain => filter.drop 2
  | .urlStart => filter.drop 1
  | .anywhere => filter

def endsWithBar (filter : List Char) : Bool := ['|'].isSuffixOf (afterStart filter)

/-- The characters of a filter between its anchors. -/
def bodyOf (filter : List Char) : List Char :=
  if endsWithBar filter then (afterStart filter).dropLast else afterStart filter

/-! ## The texts of a filter -/

/-- Whether nothing is left of a URL, or one line break. -/
def AtEnd (rest : List Char) : Prop := rest = [] ∨ rest = ['\n']

/-- Whether a character is one of some characters but for its case. -/
def IsLike (chars : Char → Bool) (c : Char) : Prop :=
  ∃ d, chars d = true ∧ sameLetter d.toNat c.toNat = true

/-- Whether a character can stand in a name: no separator is one of these. -/
def isNameChar (c : Char) : Bool := c.isAlphanum || ['_', '-', '.', '%'].contains c

/-- Whether a character can stand in a scheme after its first letter. -/
def isSchemeChar (c : Char) : Bool := c.isAlphanum || ['+', '.', '-'].contains c

/-- Whether one character of a filter stands for a text with something after it. -/
def SpellsChar (c : Char) (text after : List Char) : Prop :=
  if c = '*' then '\n' ∉ text
  else if c = '^' then (∃ d, text = [d] ∧ ¬IsLike isNameChar d) ∨ (text = [] ∧ AtEnd after)
  else ∃ d, text = [d] ∧ sameLetter c.toNat d.toNat = true

/-- Whether the characters of a filter stand for a text with something after it. -/
inductive Spells : (body text after : List Char) → Prop
  | nil {after : List Char} : Spells [] [] after
  | cons {c : Char} {body first rest after : List Char} (head : SpellsChar c first (rest ++ after))
      (tail : Spells body rest after) : Spells (c :: body) (first ++ rest) after

/-- A scheme with its slashes, and subdomains up to a dot or none. -/
def IsDomainPrefix (before : List Char) : Prop :=
  ∃ letter scheme subdomains, before = letter :: scheme ++ [':', '/', '/'] ++ subdomains ∧
    IsLike Char.isAlpha letter ∧ (∀ c ∈ scheme, IsLike isSchemeChar c) ∧
    (subdomains = [] ∨
      subdomains.getLast? = some '.' ∧ ∀ c ∈ subdomains, c ∉ ['/', '?', '#'])

/-- Whether a filter can begin behind a part of a URL. -/
def BeginsAfter (before : List Char) : FilterStart → Prop
  | .anywhere => True
  | .urlStart => before = []
  | .domain => IsDomainPrefix before

def Passes (filter url : List Char) : Prop :=
  filter = [] ∨ filter = ['*'] ∨
    ∃ before text after, url = before ++ text ++ after ∧ BeginsAfter before (startOf filter) ∧
      Spells (bodyOf filter) text after ∧ (endsWithBar filter = true → AtEnd after)

/-! ## Reading filters -/

theorem isSuffixOf_bar (s : List Char) : ['|'].isSuffixOf s = (s.getLast? == some '|') := by
  rw [List.isSuffixOf, List.reverse_singleton, ← List.head?_reverse]
  cases s.reverse with
  | nil => rfl
  | cons c rest => simp [List.isPrefixOf, Bool.beq_comm]

theorem withEnd_eq (start : FilterStart) (s : List Char) : Filter.withEnd start s =
    ⟨start, if ['|'].isSuffixOf s then s.dropLast else s, ['|'].isSuffixOf s⟩ := by
  rw [Filter.withEnd, isSuffixOf_bar]
  by_cases hbar : s.getLast? = some '|'
  · simp [hbar]
  · simp [hbar]

/-- Filters are taken apart as their bars say. -/
theorem ofText_eq (filter : List Char) :
    Filter.ofText filter = ⟨startOf filter, bodyOf filter, endsWithBar filter⟩ := by
  unfold Filter.ofText
  split
  · rw [withEnd_eq]
    rfl
  · rename_i rest hnot
    have hstart : startOf ('|' :: rest) = .urlStart := by
      cases rest with
      | nil => rfl
      | cons c rest =>
        have hc : c ≠ '|' := fun h => hnot rest (by rw [h])
        simp [startOf, List.isPrefixOf, hc.symm]
    simp [withEnd_eq, bodyOf, endsWithBar, afterStart, hstart]
  · rename_i hdomain hurl
    have hstart : startOf filter = .anywhere := by
      cases filter with
      | nil => rfl
      | cons c rest =>
        have hc : c ≠ '|' := fun h => hurl rest (by rw [h])
        simp [startOf, List.isPrefixOf, hc.symm]
    simp [withEnd_eq, bodyOf, endsWithBar, afterStart, hstart]

/-! ## Characters of a filter -/

theorem isAlpha_iff (d : Char) : d.isAlpha = true ↔
    0x41 ≤ d.toNat ∧ d.toNat ≤ 0x5A ∨ 0x61 ≤ d.toNat ∧ d.toNat ≤ 0x7A := by
  have hdef : d.isAlpha = (decide (0x41 ≤ d.toNat ∧ d.toNat ≤ 0x5A) ||
    decide (0x61 ≤ d.toNat) && decide (d.toNat ≤ 0x7A)) := rfl
  simp only [hdef, Bool.or_eq_true, Bool.and_eq_true, decide_eq_true_eq]

theorem isDigit_iff (d : Char) : d.isDigit = true ↔ 0x30 ≤ d.toNat ∧ d.toNat ≤ 0x39 := by
  have hdef : d.isDigit = (decide (0x30 ≤ d.toNat) && decide (d.toNat ≤ 0x39)) := rfl
  simp only [hdef, Bool.and_eq_true, decide_eq_true_eq]

theorem isNameChar_iff (d : Char) : isNameChar d = true ↔ (d.isAlpha = true ∨ d.isDigit = true) ∨
    d.toNat = 0x5F ∨ d.toNat = 0x2D ∨ d.toNat = 0x2E ∨ d.toNat = 0x25 := by
  simp [isNameChar, Char.isAlphanum, ← Char.toNat_inj]

theorem isSchemeChar_iff (d : Char) : isSchemeChar d = true ↔
    (d.isAlpha = true ∨ d.isDigit = true) ∨ d.toNat = 0x2B ∨ d.toNat = 0x2E ∨ d.toNat = 0x2D := by
  simp [isSchemeChar, Char.isAlphanum, ← Char.toNat_inj]

theorem isLike_iff_of_isCaseless {chars : Char → Bool}
    (h : ∀ d, chars d = true → Text.isCaseless d.toNat = true) (c : Char) :
    IsLike chars c ↔ chars c = true := by
  constructor
  · rintro ⟨d, hd, hsame⟩
    rw [Text.sameLetter_of_isCaseless (h d hd), Char.toNat_inj] at hsame
    rwa [hsame]
  · intro hc
    exact ⟨c, hc, (Text.sameLetter_of_isCaseless (h c hc)).2 rfl⟩

/-- Upper case letters add nothing to characters that are compared without case. -/
theorem isLike_iff_of_lower {chars lower : Char → Bool}
    (hlower : ∀ d, lower d = true → chars d = true)
    (hchars : ∀ d, chars d = true →
      lower d = true ∨ 0x41 ≤ d.toNat ∧ d.toNat ≤ 0x5A ∧
        ∀ e, e.toNat = d.toNat + 32 → lower e = true)
    (c : Char) : IsLike lower c ↔ IsLike chars c := by
  constructor
  · rintro ⟨d, hd, hsame⟩
    exact ⟨d, hlower d hd, hsame⟩
  · rintro ⟨d, hd, hsame⟩
    obtain hd | ⟨hleast, hgreatest, hd⟩ := hchars d hd
    · exact ⟨d, hd, hsame⟩
    · have hcode : (Char.ofNat (d.toNat + 32)).toNat = d.toNat + 32 :=
        SetItem.toNat_ofNat (by omega)
      refine ⟨_, hd _ hcode, ?_⟩
      have hcase : Text.lowerCode (d.toNat + 32) = Text.lowerCode d.toNat := by
        rw [Text.lowerCode_ascii _ (by omega), Text.lowerCode_ascii _ (by omega),
          Text.lowerAscii, Text.lowerAscii, if_neg (by omega), if_pos ⟨hleast, hgreatest⟩]
      rw [hcode, Text.sameLetter_of_lowerCode_eq hcase, hsame]

/-! ## The nodes of a filter -/

def filterFlags : Flags := { ignoreCase := true }

variable {before text after : List Char}

theorem reads_one (c : Char) : (Node.one c.toNat).Reads filterFlags before text after ↔
    ∃ d, text = [d] ∧ sameLetter c.toNat d.toNat = true :=
  Iff.rfl

theorem reads_caseless (c : Char) (code : Nat) (hcode : c.toNat = code)
    (h : Text.isCaseless code = true) :
    (Node.one code).Reads filterFlags before text after ↔ text = [c] := by
  subst hcode
  rw [reads_one]
  simp only [Text.sameLetter_of_isCaseless h, Char.toNat_inj]
  constructor
  · rintro ⟨d, rfl, rfl⟩
    rfl
  · rintro rfl
    exact ⟨c, rfl, rfl⟩

theorem reads_lineEnd : (Node.anchor .lineEnd).Reads filterFlags before text after ↔
    text = [] ∧ AtEnd after := by
  rw [Node.Reads, AtEnd]
  simp [Anchor.holds, Place.start, Place.between, filterFlags]

theorem reads_lineStart : (Node.anchor .lineStart).Reads filterFlags before text after ↔
    text = [] ∧ before = [] := by
  rw [Node.Reads]
  simp [Anchor.holds, filterFlags]

theorem setHolds_lists {items : List SetItem} {chars : Char → Bool}
    (hsimple : items.all (·.isSimple) = true)
    (hchars : ∀ d, items.any (·.lists d) = chars d) (c : Char) :
    (setHolds filterFlags false items c = true ↔ IsLike chars c) ∧
      (setHolds filterFlags true items c = true ↔ ¬IsLike chars c) := by
  have hflags : filterFlags.folding = .unicode := rfl
  have h := setHolds_iff hflags hsimple
  simp only [hchars] at h
  exact ⟨by simpa [IsLike] using h false c, by simpa [IsLike] using h true c⟩

theorem lists_separatorSet (d : Char) : Filter.separatorSet.any (·.lists d) = isNameChar d := by
  rw [Bool.eq_iff_iff, isNameChar_iff, isAlpha_iff, isDigit_iff]
  simp [Filter.separatorSet, SetItem.lists]
  omega

theorem reads_separator : Filter.separatorNode.Reads filterFlags before text after ↔
    (∃ d, text = [d] ∧ ¬IsLike isNameChar d) ∨ (text = [] ∧ AtEnd after) := by
  have hset := fun d => (setHolds_lists (by decide) lists_separatorSet d).2
  have hflags : filterFlags.withOptions {} {} = filterFlags := rfl
  rw [Filter.separatorNode, Node.Reads, hflags, Node.Reads, Node.reads_singleton,
    Node.reads_singleton]
  refine or_congr ?_ reads_lineEnd
  simp only [Node.Reads, Language.step, hset]

theorem reads_charNode (c : Char) : (Filter.charNode c).Reads filterFlags before text after ↔
    SpellsChar c text after := by
  unfold Filter.charNode SpellsChar
  split
  · have hany : Node.any.Reads filterFlags = .step fun c => filterFlags.dotAll || c != '\n' := rfl
    rw [Node.reads_star hany]
    constructor
    · intro hall hmem
      exact absurd (hall '\n' hmem) (by decide)
    · intro hnot d hd
      have hne : d ≠ '\n' := fun h => hnot (h ▸ hd)
      simpa [filterFlags] using hne
  · split
    · exact reads_separator
    · exact reads_one c

theorem spells_nil_iff : Spells [] text after ↔ text = [] := by
  constructor
  · rintro ⟨⟩
    rfl
  · rintro rfl
    exact .nil

theorem spells_cons_iff {c : Char} {rest : List Char} :
    Spells (c :: rest) text after ↔ ∃ first second, text = first ++ second ∧
      SpellsChar c first (second ++ after) ∧ Spells rest second after := by
  constructor
  · rintro (_ | ⟨hhead, htail⟩)
    exact ⟨_, _, rfl, hhead, htail⟩
  · rintro ⟨first, second, rfl, hhead, htail⟩
    exact .cons hhead htail

theorem reads_body (body : List Char) :
    (Node.ofList (body.map Filter.charNode)).Reads filterFlags before text after ↔
      Spells body text after :=
  Node.reads_ofList_map SpellsChar Spells (fun c _ _ _ => reads_charNode c)
    (fun _ _ => spells_nil_iff) (fun _ _ _ _ => spells_cons_iff) body before text after

theorem reads_endNodes (atEnd : Bool) :
    (Node.ofList (Filter.endNodes atEnd)).Reads filterFlags before text after ↔
      text = [] ∧ (atEnd = true → AtEnd after) := by
  cases atEnd with
  | false => simp [Filter.endNodes, Node.Reads, Language.blank]
  | true =>
    rw [Filter.endNodes, if_pos rfl, Node.reads_singleton, reads_lineEnd]
    simp

/-! ## Schemes and subdomains -/

theorem setHolds_letter (c : Char) :
    setHolds filterFlags false [.range 0x61 0x7A] c = true ↔ IsLike Char.isAlpha c := by
  rw [(setHolds_lists (by decide) (fun _ => rfl) c).1]
  apply isLike_iff_of_lower
  · intro d hd
    simp [SetItem.lists] at hd
    rw [isAlpha_iff]
    omega
  · intro d hd
    rcases (isAlpha_iff d).1 hd with hupper | hlower
    · refine .inr ⟨hupper.1, hupper.2, fun e he => ?_⟩
      simp [SetItem.lists]
      omega
    · exact .inl (by simpa [SetItem.lists] using hlower)

theorem setHolds_scheme (c : Char) :
    setHolds filterFlags false
      [.range 0x61 0x7A, .range 0x30 0x39, .one 0x2B, .one 0x2E, .one 0x2D] c = true ↔
        IsLike isSchemeChar c := by
  rw [(setHolds_lists (by decide) (fun _ => rfl) c).1]
  apply isLike_iff_of_lower
  · intro d hd
    simp [SetItem.lists] at hd
    rw [isSchemeChar_iff, isAlpha_iff, isDigit_iff]
    omega
  · intro d hd
    rw [isSchemeChar_iff, isAlpha_iff, isDigit_iff] at hd
    by_cases hupper : 0x41 ≤ d.toNat ∧ d.toNat ≤ 0x5A
    · refine .inr ⟨hupper.1, hupper.2, fun e he => ?_⟩
      simp [SetItem.lists]
      omega
    · refine .inl ?_
      simp [SetItem.lists]
      omega

theorem setHolds_host (c : Char) :
    setHolds filterFlags true [.one 0x2F, .one 0x3F, .one 0x23] c = true ↔
      c ∉ ['/', '?', '#'] := by
  have hlists (d : Char) : [SetItem.one 0x2F, .one 0x3F, .one 0x23].any (·.lists d) =
      ['/', '?', '#'].contains d := by
    rw [Bool.eq_iff_iff]
    simp [SetItem.lists, ← Char.toNat_inj]
  rw [(setHolds_lists (by decide) hlists c).2, isLike_iff_of_isCaseless]
  · simp
  · intro d hd
    simp only [List.contains_iff_mem, List.mem_cons, List.not_mem_nil, or_false] at hd
    rcases hd with rfl | rfl | rfl <;> rfl

theorem reads_subdomain : Filter.subdomainNode.Reads filterFlags before text after ↔
    text.getLast? = some '.' ∧ ∀ c ∈ text, c ∉ ['/', '?', '#'] := by
  have hflags : filterFlags.withOptions {} {} = filterFlags := rfl
  rw [Filter.subdomainNode, Node.Reads, hflags, Node.reads_cons, List.getLast?_eq_some_iff]
  simp only [Node.reads_singleton, Node.reads_star_set, setHolds_host,
    reads_caseless '.' 0x2E rfl rfl]
  constructor
  · rintro ⟨host, _, rfl, hhost, rfl⟩
    refine ⟨⟨host, rfl⟩, ?_⟩
    intro c hc
    rcases List.mem_append.1 hc with hc | hc
    · exact hhost c hc
    · rw [List.mem_singleton.1 hc]
      decide
  · rintro ⟨⟨host, rfl⟩, hall⟩
    exact ⟨host, ['.'], rfl, fun c hc => hall c (List.mem_append_left _ hc), rfl⟩

theorem reads_domainNodes :
    (Node.ofList Filter.domainNodes).Reads filterFlags before text after ↔
      before = [] ∧ IsDomainPrefix text := by
  have hletter {before text after : List Char} :
      (Node.set false [.range 0x61 0x7A]).Reads filterFlags before text after ↔
        ∃ c, text = [c] ∧ IsLike Char.isAlpha c := by
    simp only [Node.Reads, Language.step, setHolds_letter]
  simp only [Filter.domainNodes, Node.reads_cons, Node.reads_nil, Node.reads_optional,
    Node.reads_star_set, reads_lineStart, hletter, setHolds_scheme, reads_subdomain,
    reads_caseless ':' 0x3A rfl rfl, reads_caseless '/' 0x2F rfl rfl]
  constructor
  · rintro ⟨_, _, rfl, ⟨rfl, hbefore⟩, _, _, rfl, ⟨letter, rfl, hletter⟩, scheme, _, rfl, hscheme,
      _, _, rfl, rfl, _, _, rfl, rfl, _, _, rfl, rfl, subdomains, _, rfl, hsubdomains, rfl⟩
    exact ⟨hbefore, letter, scheme, subdomains, by simp, hletter, hscheme, hsubdomains⟩
  · rintro ⟨hbefore, letter, scheme, subdomains, rfl, hletter, hscheme, hsubdomains⟩
    exact ⟨[], _, by simp, ⟨rfl, hbefore⟩, [letter], _, rfl, ⟨letter, rfl, hletter⟩, scheme, _,
      List.append_assoc _ _ _, hscheme, [':'], _, rfl, rfl, ['/'], _, rfl, rfl, ['/'], subdomains,
      rfl, rfl, subdomains, [], by simp, hsubdomains, rfl⟩

theorem reads_startNodes (start : FilterStart) :
    (Node.ofList (Filter.startNodes start)).Reads filterFlags before text after ↔
      match start with
      | .anywhere => text = []
      | .urlStart => text = [] ∧ before = []
      | .domain => before = [] ∧ IsDomainPrefix text := by
  cases start with
  | anywhere => exact Node.reads_nil
  | urlStart =>
    rw [Filter.startNodes, Node.reads_singleton]
    exact reads_lineStart
  | domain => exact reads_domainNodes

/-- The nodes of a filter read, from some place on, a text that begins with what comes before the
filter's own characters. -/
theorem exists_reads_toNode (f : Filter) (url : List Char) :
    (∃ before found after, url = before ++ found ++ after ∧
      f.toNode.Reads filterFlags before.reverse found after) ↔
    ∃ before text after, url = before ++ text ++ after ∧ BeginsAfter before f.start ∧
      Spells f.body text after ∧ (f.atEnd = true → AtEnd after) := by
  simp only [Filter.toNode, Node.reads_ofList_append, Language.seq, reads_endNodes, reads_body,
    reads_startNodes]
  constructor
  · rintro ⟨before, _, after, rfl, _, _, rfl, ⟨opening, text, rfl, hopening, htext⟩, rfl, hend⟩
    -- what the start nodes read belongs to the part before the text
    cases hstart : f.start with
    | anywhere =>
      rw [hstart] at hopening
      obtain rfl : opening = [] := hopening
      exact ⟨before, text, after, by simp, trivial, by simpa using htext, hend⟩
    | urlStart =>
      rw [hstart] at hopening
      obtain ⟨rfl, hbefore⟩ : opening = [] ∧ before.reverse = [] := hopening
      exact ⟨before, text, after, by simp, List.reverse_eq_nil_iff.1 hbefore,
        by simpa using htext, hend⟩
    | domain =>
      rw [hstart] at hopening
      obtain ⟨hbefore, hopening⟩ : before.reverse = [] ∧ IsDomainPrefix opening := hopening
      obtain rfl := List.reverse_eq_nil_iff.1 hbefore
      exact ⟨opening, text, after, by simp, hopening, by simpa using htext, hend⟩
  · rintro ⟨before, text, after, rfl, hbegins, htext, hend⟩
    cases hstart : f.start with
    | anywhere =>
      exact ⟨before, text, after, rfl, text, [], by simp, ⟨[], text, rfl, rfl, by simpa using htext⟩,
        rfl, hend⟩
    | urlStart =>
      rw [hstart] at hbegins
      obtain rfl : before = [] := hbegins
      exact ⟨[], text, after, rfl, text, [], by simp,
        ⟨[], text, rfl, ⟨rfl, rfl⟩, by simpa using htext⟩, rfl, hend⟩
    | domain =>
      rw [hstart] at hbegins
      exact ⟨[], before ++ text, after, by simp, before ++ text, [], by simp,
        ⟨before, text, rfl, ⟨rfl, hbegins⟩, by simpa using htext⟩, rfl, hend⟩

/-- Every filter compiles, and a URL passes it just when the filter's characters spell a part of the
URL that lies where the anchors want it. -/
theorem filterMatches_iff_passes (filter url : List Char) :
    (∃ regex, compileFilter filter = .ok regex) ∧
      (filterMatches filter url = true ↔ Passes filter url) := by
  have hcompile : compileFilter filter = .ok ⟨filterFlags, (Filter.ofText filter).toNode⟩ :=
    Filter.compile_toRegex (Filter.ofText filter)
  refine ⟨⟨_, hcompile⟩, ?_⟩
  have hplain := Filter.isPlain_toNode (Filter.ofText filter)
  rw [filterMatches, hcompile, isMatchAll, Passes, Bool.or_eq_true, Bool.or_eq_true, beq_iff_eq,
    beq_iff_eq, or_assoc]
  refine or_congr_right (or_congr_right ?_)
  rw [matchesSomewhere_iff hplain, exists_reads_toNode, ofText_eq]

end HeaderRules.Url
