import HeaderRules.Proofs.Url.Verbatim
import HeaderRules.Proofs.Url.WildcardText
import Mathlib.Data.List.DropRight
/-!
# Example URLs

The URLs that show what a pattern is for. A simple pattern matches all of its examples. A wildcard
pattern is anchored at both ends, so it matches those that begin with what stands before its first
star and end with what stands behind its last one: the example that only fills in the stars does,
unless there are bars, and the ones that go on behind it do if the pattern ends in a star.
-/

namespace HeaderRules.Url

open HeaderRules.Text

/-! ## Simple patterns -/

theorem nearestCase_slash (rest : List Char) : nearestCase ('/' :: rest) = some false := by
  have hslash : isCaseIgnorable '/' = false ∧ isCased '/' = false := by decide +kernel
  simp [nearestCase, hslash]

theorem evaluate_before_slash {pattern : List Char} (hformat : formatOf pattern = .simple)
    (rest : List Char) : evaluate pattern (pattern ++ '/' :: rest) = .ok true := by
  change evaluate pattern ([] ++ pattern ++ '/' :: rest) = .ok true
  refine evaluate_of_same_sigmas hformat fun front back _ => ?_
  simp only [endsWord, nextIsCased_eq, nearestCase_append, nearestCase_slash]
  cases nearestCase back <;> simp [nearestCase]

theorem evaluate_self {pattern : List Char} (hformat : formatOf pattern = .simple) :
    evaluate pattern pattern = .ok true :=
  (evaluate_simple_iff hformat).2 (List.infix_refl _)

theorem evaluate_example_of_simple {pattern : String}
    (hformat : formatOf pattern.toList = .simple) :
    ∀ url ∈ exampleUrls pattern, evaluate pattern.toList url.toList = .ok true := by
  intro url hurl
  rw [exampleUrls, hformat] at hurl
  have hurl := (List.mem_filter.1 hurl).1
  simp only [List.mem_cons, List.not_mem_nil, or_false] at hurl
  rcases hurl with rfl | rfl | rfl | rfl
  · exact evaluate_self hformat
  · rw [String.toList_append]
    exact evaluate_before_slash hformat _
  · rw [String.toList_append]
    exact evaluate_before_slash hformat _
  · rw [String.toList_append]
    exact evaluate_before_slash hformat _

/-! ## Wildcard patterns -/

namespace Wildcard

/-- A text with every star filled in. -/
def filled (s : List Char) : List Char :=
  s.flatMap fun c => if c = '*' then "example".toList else [c]

/-- What stands before the first star of a text. -/
def opening (s : List Char) : List Char := s.takeWhile (· ≠ '*')

/-- What stands behind the last star of a text. -/
def closing (s : List Char) : List Char := s.rtakeWhile (· ≠ '*')

/-- What stands behind the filled pattern in its examples. -/
def paths : List (List Char) := [[], "/api".toList, "/users".toList]

/-- Whether a URL begins with a text that the characters stand for. -/
def BeginsWith (s url : List Char) : Prop := ∃ first rest, url = first ++ rest ∧ Fits s first

/-- Whether a URL ends with a text that the characters stand for. -/
def EndsWith (s url : List Char) : Prop := ∃ front last, url = front ++ last ∧ Fits s last

/-- Whether a URL begins as a text does before its first star and ends as it does behind its last
one. -/
def EndsFit (s url : List Char) : Prop := BeginsWith (opening s) url ∧ EndsWith (closing s) url

variable {s t text url more back : List Char} {c : Char}

/-! ### Parts of a fitting text -/

theorem fits_append : Fits (s ++ t) text ↔
    ∃ first second, text = first ++ second ∧ Fits s first ∧ Fits t second := by
  induction s generalizing text with
  | nil =>
    constructor
    · intro h
      exact ⟨[], text, rfl, .nil, h⟩
    · rintro ⟨_, second, rfl, ⟨⟩, h⟩
      exact h
  | cons c rest ih =>
    constructor
    · rintro (_ | ⟨head, tail⟩)
      obtain ⟨first, second, rfl, hfirst, hsecond⟩ := ih.1 tail
      exact ⟨_, second, (List.append_assoc _ first second).symm, .cons head hfirst, hsecond⟩
    · rintro ⟨_, second, rfl, _ | ⟨head, tail⟩, hsecond⟩
      rw [List.append_assoc]
      exact .cons head (ih.2 ⟨_, second, rfl, tail, hsecond⟩)

theorem fits_single_star : Fits ['*'] text ↔ '\n' ∉ text := by
  constructor
  · rintro (_ | ⟨head, ⟨⟩⟩)
    rw [FitsChar, if_pos rfl] at head
    simpa using head
  · intro h
    simpa using fits_star h .nil

/-- A star takes in what stands before or behind its text. -/
theorem fits_star_before (hmore : '\n' ∉ more) (h : Fits ('*' :: s) text) :
    Fits ('*' :: s) (more ++ text) := by
  obtain ⟨first, second, rfl, hfirst, hsecond⟩ := (fits_append (s := ['*'])).1 h
  rw [fits_single_star] at hfirst
  rw [← List.append_assoc]
  exact fits_star (by simp [hmore, hfirst]) hsecond

theorem fits_star_behind (hmore : '\n' ∉ more) (h : Fits (s ++ ['*']) text) :
    Fits (s ++ ['*']) (text ++ more) := by
  obtain ⟨first, second, rfl, hfirst, hsecond⟩ := fits_append.1 h
  rw [fits_single_star] at hsecond
  rw [List.append_assoc]
  exact fits_append.2 ⟨first, _, rfl, hfirst, fits_single_star.2 (by simp [hmore, hsecond])⟩

theorem fitsChar_of_ne_star (hc : c ≠ '*') (h : FitsChar c text) :
    ∃ d, text = [d] ∧ sameLetter c.toNat d.toNat = true := by
  rwa [FitsChar, if_neg hc] at h

theorem fits_length (hs : '*' ∉ s) (h : Fits s text) : text.length = s.length := by
  induction h with
  | nil => rfl
  | cons head tail ih =>
    rw [List.mem_cons, not_or] at hs
    obtain ⟨d, rfl, -⟩ := fitsChar_of_ne_star (Ne.symm hs.1) head
    simp [ih hs.2]

theorem fits_filled (s : List Char) : Fits s (filled s) := by
  induction s with
  | nil => exact .nil
  | cons c rest ih =>
    rw [filled, List.flatMap_cons]
    split
    · rename_i hstar
      subst hstar
      exact fits_star (by decide) ih
    · rename_i hstar
      exact fits_literal hstar (sameLetter_self _) ih

theorem filled_append (s t : List Char) : filled (s ++ t) = filled s ++ filled t :=
  List.flatMap_append

theorem filled_of_not_mem (h : '*' ∉ s) : filled s = s := by
  induction s with
  | nil => rfl
  | cons c rest ih =>
    rw [List.mem_cons, not_or] at h
    rw [filled, List.flatMap_cons, if_neg (Ne.symm h.1), ← filled, ih h.2]
    rfl

theorem fits_self (h : '*' ∉ s) : Fits s s := by
  simpa only [filled_of_not_mem h] using fits_filled s

/-! ### Before the first star and behind the last one -/

theorem not_mem_opening (s : List Char) : '*' ∉ opening s := by
  intro hmem
  simpa using List.mem_takeWhile_imp hmem

theorem not_mem_closing (s : List Char) : '*' ∉ closing s := by
  intro hmem
  simpa using List.mem_rtakeWhile_imp hmem

theorem opening_eq (h : '*' ∉ s) : opening (s ++ '*' :: t) = s := by
  have hall : ∀ c ∈ s, decide (c ≠ '*') = true := by
    intro c hc
    exact decide_eq_true fun heq => h (heq ▸ hc)
  rw [opening, List.takeWhile_append_of_pos hall]
  simp

theorem closing_eq_reverse (s : List Char) : closing s = (opening s.reverse).reverse := rfl

theorem closing_eq (h : '*' ∉ t) : closing (s ++ '*' :: t) = t := by
  have hback : (s ++ '*' :: t).reverse = t.reverse ++ '*' :: s.reverse := by simp
  rw [closing_eq_reverse, hback, opening_eq (by simpa using h), List.reverse_reverse]

theorem exists_opening (h : '*' ∈ s) : ∃ rest, s = opening s ++ '*' :: rest := by
  obtain ⟨before, rest, rfl, hbefore⟩ := List.eq_append_cons_of_mem h
  exact ⟨rest, by rw [opening_eq hbefore]⟩

theorem exists_closing (h : '*' ∈ s) : ∃ front, s = front ++ '*' :: closing s := by
  obtain ⟨rest, hrest⟩ := exists_opening (List.mem_reverse.2 h)
  refine ⟨rest.reverse, ?_⟩
  have hback := congrArg List.reverse hrest
  simpa [closing_eq_reverse] using hback

/-- What stands between the outermost stars begins and ends with one. -/
theorem exists_middle (h : '*' ∈ s) : ∃ middle behind front,
    s = opening s ++ (middle ++ closing s) ∧ middle = '*' :: behind ∧ middle = front ++ ['*'] := by
  obtain ⟨rest, hrest⟩ := exists_opening h
  obtain ⟨front, hfront⟩ := exists_closing (List.mem_cons_self (a := '*') (l := rest))
  have hclosing : closing s = closing ('*' :: rest) := by
    rw [hrest, hfront, ← List.append_assoc, closing_eq (not_mem_closing _)]
    exact (closing_eq (not_mem_closing _)).symm
  obtain ⟨behind, hbehind⟩ : ∃ behind, front ++ ['*'] = '*' :: behind := by
    cases front with
    | nil => exact ⟨[], rfl⟩
    | cons c front =>
      obtain ⟨rfl, -⟩ := List.cons.inj hfront
      exact ⟨_, rfl⟩
  refine ⟨front ++ ['*'], behind, front, ?_, hbehind, rfl⟩
  rw [hclosing, ← List.append_cons, ← hfront]
  exact hrest

/-! ### Around the filled text -/

theorem count_newline (hs : '*' ∉ s) (h : Fits s text) : text.count '\n' = s.count '\n' := by
  induction h with
  | nil => rfl
  | @cons c body first rest head tail ih =>
    rw [List.mem_cons, not_or] at hs
    obtain ⟨d, rfl, hsame⟩ := fitsChar_of_ne_star (Ne.symm hs.1) head
    have hiff : d = '\n' ↔ c = '\n' := by
      constructor
      · rintro rfl
        rw [sameLetter_comm, sameLetter_of_isCaseless (by decide)] at hsame
        exact Char.toNat_inj.1 hsame
      · rintro rfl
        rw [sameLetter_of_isCaseless (by decide)] at hsame
        exact Char.toNat_inj.1 hsame
    simp [List.count_cons, ih hs.2, hiff]

/-- Whatever is left of the text behind its own beginning has no line break. -/
theorem BeginsWith.split (hs : '*' ∉ s) (hmore : '\n' ∉ more)
    (h : BeginsWith s (more ++ (s ++ back))) :
    ∃ first rest, more ++ s = first ++ rest ∧ Fits s first ∧ '\n' ∉ rest := by
  obtain ⟨first, last, hsplit, hfits⟩ := h
  have hlength : first.length ≤ (more ++ s).length := by
    simp [fits_length hs hfits]
  have hfirst : first <+: more ++ (s ++ back) := ⟨last, hsplit.symm⟩
  have hmores : more ++ s <+: more ++ (s ++ back) := ⟨back, List.append_assoc more s back⟩
  obtain ⟨rest, hrest⟩ := List.prefix_of_prefix_length_le hfirst hmores hlength
  refine ⟨first, rest, hrest.symm, hfits, ?_⟩
  have hcount := congrArg (List.count '\n') hrest
  simp only [List.count_append, List.count_eq_zero.2 hmore, count_newline hs hfits] at hcount
  exact List.count_eq_zero.1 (by omega)

theorem EndsWith.split (hs : '*' ∉ s) (hback : '\n' ∉ back)
    (h : EndsWith s (more ++ (s ++ back))) :
    ∃ rest last, s ++ back = rest ++ last ∧ Fits s last ∧ '\n' ∉ rest := by
  obtain ⟨front, last, hsplit, hfits⟩ := h
  have hlength : last.length ≤ (s ++ back).length := by
    simp [fits_length hs hfits]
  have hlast : last <:+ more ++ (s ++ back) := ⟨front, hsplit.symm⟩
  obtain ⟨rest, hrest⟩ :=
    List.suffix_of_suffix_length_le hlast (List.suffix_append more _) hlength
  refine ⟨rest, last, hrest.symm, hfits, ?_⟩
  have hcount := congrArg (List.count '\n') hrest
  simp only [List.count_append, List.count_eq_zero.2 hback, count_newline hs hfits] at hcount
  exact List.count_eq_zero.1 (by omega)

theorem beginsWith_opening (hstar : '*' ∈ s) (h : Fits s text) (back : List Char) :
    BeginsWith (opening s) (text ++ back) := by
  obtain ⟨rest, hrest⟩ := exists_opening hstar
  rw [hrest] at h
  obtain ⟨first, second, rfl, hfirst, -⟩ := fits_append.1 h
  exact ⟨first, second ++ back, List.append_assoc first second back, hfirst⟩

theorem endsWith_closing (hstar : '*' ∈ s) (h : Fits s text) (more : List Char) :
    EndsWith (closing s) (more ++ text) := by
  obtain ⟨front, hfront⟩ := exists_closing hstar
  rw [hfront, List.append_cons] at h
  obtain ⟨first, second, rfl, -, hsecond⟩ := fits_append.1 h
  exact ⟨more ++ first, second, (List.append_assoc more first second).symm, hsecond⟩

/-- More text around a filled text is taken in by the outermost stars, if the ends still fit. -/
theorem fits_around_filled (hstar : '*' ∈ s) (hmore : '\n' ∉ more) (hback : '\n' ∉ back) :
    Fits s (more ++ filled s ++ back) ↔ EndsFit s (more ++ filled s ++ back) := by
  constructor
  · intro h
    have hbegins := beginsWith_opening hstar h []
    rw [List.append_nil] at hbegins
    exact ⟨hbegins, endsWith_closing hstar h []⟩
  · rintro ⟨hbegins, hends⟩
    obtain ⟨middle, behind, front, hsplit, hbehind, hfront⟩ := exists_middle hstar
    have hfilled : filled s = opening s ++ (filled middle ++ closing s) := by
      rw [hsplit, filled_append, filled_append, ← hsplit, filled_of_not_mem (not_mem_opening s),
        filled_of_not_mem (not_mem_closing s)]
    have hleft : more ++ filled s ++ back =
        more ++ (opening s ++ (filled middle ++ closing s ++ back)) := by
      simp only [hfilled, List.append_assoc]
    have hright : more ++ filled s ++ back =
        (more ++ opening s ++ filled middle) ++ (closing s ++ back) := by
      simp only [hfilled, List.append_assoc]
    obtain ⟨first, left, hfirst, hopening, hnotleft⟩ :=
      (hleft ▸ hbegins).split (not_mem_opening s) hmore
    obtain ⟨right, last, hlast, hclosing, hnotright⟩ :=
      (hright ▸ hends).split (not_mem_closing s) hback
    -- Both ends are as long as what they fit, so the first and the last star take in the rest.
    have hmiddle : Fits middle (left ++ filled middle ++ right) := by
      have hbefore : Fits middle (left ++ filled middle) := by
        rw [hbehind]
        exact fits_star_before hnotleft (fits_filled _)
      rw [hfront] at hbefore ⊢
      exact fits_star_behind hnotright hbefore
    rw [hright, hlast, hfirst, hsplit]
    refine fits_append.2 ⟨first, left ++ filled middle ++ right ++ last, ?_, hopening,
      fits_append.2 ⟨_, last, rfl, hmiddle, hclosing⟩⟩
    simp only [List.append_assoc]

/-! ### Bars -/

variable {pattern : List Char}

def barText (bar : Bool) : List Char := if bar then ['|'] else []

theorem newline_not_mem_barText (bar : Bool) : '\n' ∉ barText bar := by
  cases bar <;> decide

theorem star_not_mem_barText (bar : Bool) : '*' ∉ barText bar := by
  cases bar <;> decide

theorem eq_bars (pattern : List Char) :
    pattern = barText (leads pattern) ++ (body pattern ++ barText (trails pattern)) := by
  have hfront : pattern = barText (splitLeadingBar pattern).1 ++ (splitLeadingBar pattern).2 := by
    unfold splitLeadingBar
    split <;> rfl
  have hback (rest : List Char) :
      rest = (splitTrailingBar rest).2 ++ barText (splitTrailingBar rest).1 := by
    unfold splitTrailingBar
    split
    · rename_i hlast
      exact (List.dropLast_append_getLast? _ hlast).symm
    · exact (List.append_nil rest).symm
  rw [leads, body, trails, ← hback]
  exact hfront

theorem star_mem_body (hformat : formatOf pattern = .wildcard) : '*' ∈ body pattern := by
  have hstar : '*' ∈ pattern := by
    unfold formatOf at hformat
    split at hformat
    · cases hformat
    · split at hformat
      · rename_i hcontains
        exact List.contains_iff_mem.1 hcontains
      · cases hformat
  rw [eq_bars pattern, List.mem_append, List.mem_append] at hstar
  simpa only [star_not_mem_barText, false_or, or_false] using hstar

theorem filled_eq_bars (pattern : List Char) : filled pattern =
    barText (leads pattern) ++ filled (body pattern) ++ barText (trails pattern) := by
  conv_lhs => rw [eq_bars pattern]
  rw [filled_append, filled_append, filled_of_not_mem (star_not_mem_barText _),
    filled_of_not_mem (star_not_mem_barText _), List.append_assoc]

/-- A bar in front is taken for the first character of what stands before the first star. -/
theorem beginsWith_behind_bar (hs : '*' ∉ s) :
    BeginsWith s ('|' :: (s ++ back)) ↔ ∀ c ∈ s, c = '|' := by
  constructor
  · intro h
    induction s with
    | nil => simp
    | cons c rest ih =>
      rw [List.mem_cons, not_or] at hs
      obtain ⟨_, last, hsplit, hfits⟩ := h
      obtain _ | ⟨head, tail⟩ := hfits
      obtain ⟨d, rfl, hsame⟩ := fitsChar_of_ne_star (Ne.symm hs.1) head
      obtain ⟨rfl, hrest⟩ := List.cons.inj hsplit
      rw [sameLetter_comm, sameLetter_of_isCaseless (by decide)] at hsame
      obtain rfl := Char.toNat_inj.1 hsame
      exact List.forall_mem_cons.2 ⟨rfl, ih hs.2 ⟨_, last, hrest, tail⟩⟩
  · intro hall
    have hmoved : '|' :: s = s ++ ['|'] := by
      rw [List.eq_replicate_of_mem hall]
      exact List.replicate_succ' ..
    refine ⟨s, '|' :: back, ?_, fits_self hs⟩
    rw [List.append_cons, ← hmoved]
    rfl

/-! ### The examples -/

theorem eq_nil_of_append_eq_concat (h : s ++ back = text ++ [c]) (hback : c ∉ back) :
    back = [] := by
  rcases List.eq_nil_or_concat back with rfl | ⟨init, d, rfl⟩
  · rfl
  · rw [List.concat_eq_append, ← List.append_assoc] at h
    obtain ⟨-, hlast⟩ := List.append_inj' h rfl
    obtain ⟨rfl, -⟩ := List.cons.inj hlast
    simp at hback

/-- A wildcard pattern matches what its stars are filled with, and more behind it, if both ends
fit. -/
theorem evaluate_filled (hformat : formatOf pattern = .wildcard) (hback : '\n' ∉ back) :
    ∃ found, evaluate pattern (filled pattern ++ back) = .ok found ∧
      (found = true ↔ EndsFit (body pattern) (filled pattern ++ back)) := by
  have hstar := star_mem_body hformat
  have hbehind : '\n' ∉ barText (trails pattern) ++ back := by
    simpa [hback] using newline_not_mem_barText _
  have hsplit : filled pattern ++ back = barText (leads pattern) ++ filled (body pattern) ++
      (barText (trails pattern) ++ back) := by
    rw [filled_eq_bars, List.append_assoc]
  have hfits := fits_around_filled hstar (newline_not_mem_barText (leads pattern)) hbehind
  rw [← hsplit] at hfits
  obtain ⟨found, hfound, hmeaning⟩ := evaluate_eq hformat (filled pattern ++ back)
  refine ⟨found, hfound, hmeaning.trans ⟨?_, ?_⟩⟩
  · rintro ⟨text, after, hurl, htext, hafter⟩
    refine ⟨hurl ▸ beginsWith_opening hstar htext after, ?_⟩
    obtain rfl | rfl := hafter
    · rw [hurl, List.append_nil]
      exact endsWith_closing hstar htext []
    · -- The line break that is left over stands in the filled text, so nothing is behind that.
      rw [hsplit] at hurl ⊢
      rw [eq_nil_of_append_eq_concat hurl hbehind, List.append_nil]
      exact endsWith_closing hstar (fits_filled _) _
  · intro h
    exact ⟨_, [], (List.append_nil _).symm, hfits.2 h, .inl rfl⟩

theorem newline_not_mem_path : ∀ path ∈ paths, '\n' ∉ path := by decide

theorem toList_exampleUrls {p : String} (hformat : formatOf p.toList = .wildcard) :
    (exampleUrls p).map String.toList = paths.map (filled p.toList ++ ·) := by
  rw [exampleUrls, hformat]
  simp only [List.map_cons, List.map_nil, String.toList_append, String.toList_ofList, paths,
    List.append_nil]
  rfl

theorem evaluate_filled_iff (hformat : formatOf pattern = .wildcard) (hback : '\n' ∉ back) :
    evaluate pattern (filled pattern ++ back) = .ok true ↔
      EndsFit (body pattern) (filled pattern ++ back) := by
  obtain ⟨found, hfound, hmeaning⟩ := evaluate_filled hformat hback
  rw [hfound, Except.ok.injEq, hmeaning]

/-- An example begins as the pattern does, but for a bar in front. -/
theorem beginsWith_filled (hformat : formatOf pattern = .wildcard) (back : List Char) :
    BeginsWith (opening (body pattern)) (filled pattern ++ back) ↔
      (leads pattern = true → ∀ c ∈ opening (body pattern), c = '|') := by
  obtain ⟨rest, hrest⟩ := exists_opening (star_mem_body hformat)
  have hopening := not_mem_opening (body pattern)
  have hfilled : filled (body pattern) = opening (body pattern) ++ filled ('*' :: rest) := by
    conv_lhs => rw [hrest]
    rw [filled_append, filled_of_not_mem hopening]
  rw [filled_eq_bars, hfilled]
  simp only [List.append_assoc]
  cases leads pattern with
  | false =>
    refine iff_of_true ⟨opening (body pattern), _, rfl, fits_self hopening⟩ ?_
    intro hbar
    cases hbar
  | true =>
    rw [imp_iff_right rfl]
    exact beginsWith_behind_bar hopening

theorem endsWith_nil (url : List Char) : EndsWith [] url :=
  ⟨url, [], (List.append_nil url).symm, .nil⟩

/-- The last characters of a text and of a URL that ends with it are the same letter. -/
theorem sameLetter_of_endsWith {d : Char} (hc : c ≠ '*')
    (h : EndsWith (s ++ [c]) (text ++ [d])) : sameLetter c.toNat d.toNat = true := by
  obtain ⟨front, _, hsplit, hfits⟩ := h
  obtain ⟨first, second, rfl, -, hsecond⟩ := fits_append.1 hfits
  obtain _ | ⟨head, ⟨⟩⟩ := hsecond
  obtain ⟨e, rfl, hsame⟩ := fitsChar_of_ne_star hc head
  rw [List.append_nil, ← List.append_assoc] at hsplit
  obtain ⟨-, hlast⟩ := List.append_inj' hsplit rfl
  obtain ⟨rfl, -⟩ := List.cons.inj hlast
  exact hsame

theorem eq_nil_of_endsWith_paths (hs : '*' ∉ s) (hapi : EndsWith s (text ++ "/api".toList))
    (husers : EndsWith s (text ++ "/users".toList)) : s = [] := by
  rcases List.eq_nil_or_concat s with rfl | ⟨init, c, rfl⟩
  · rfl
  · rw [List.concat_eq_append] at hs hapi husers
    have hc : c ≠ '*' := by
      rintro rfl
      simp at hs
    have hi : sameLetter 'i'.toNat c.toNat = true := by
      rw [show "/api".toList = "/ap".toList ++ ['i'] from rfl, ← List.append_assoc] at hapi
      exact sameLetter_comm c.toNat _ ▸ sameLetter_of_endsWith hc hapi
    have hu : sameLetter 's'.toNat c.toNat = true := by
      rw [show "/users".toList = "/user".toList ++ ['s'] from rfl, ← List.append_assoc] at husers
      exact sameLetter_comm c.toNat _ ▸ sameLetter_of_endsWith hc husers
    rw [sameLetter, List.contains_iff_mem] at hi hu
    have hdisjoint : ∀ code ∈ cousins (lowerCode 'i'.toNat),
        code ∉ cousins (lowerCode 's'.toNat) := by
      decide +kernel
    exact absurd hu (hdisjoint _ hi)

theorem endsWith_filled (hformat : formatOf pattern = .wildcard)
    (htrails : trails pattern = false) : EndsWith (closing (body pattern)) (filled pattern) := by
  have hends := endsWith_closing (star_mem_body hformat) (fits_filled (body pattern))
    (barText (leads pattern))
  rwa [filled_eq_bars, htrails, show barText false = [] from rfl, List.append_nil]

/-- All examples match if nothing is left of the URL for the text behind the last star. -/
theorem evaluate_filled_all (hformat : formatOf pattern = .wildcard) :
    (∀ path ∈ paths, evaluate pattern (filled pattern ++ path) = .ok true) ↔
      (leads pattern = true → ∀ c ∈ opening (body pattern), c = '|') ∧
        closing (body pattern) = [] := by
  have hpath (path) (hmem : path ∈ paths) :=
    evaluate_filled_iff hformat (newline_not_mem_path path hmem)
  constructor
  · intro hall
    obtain ⟨hbegins, hapi⟩ := (hpath _ (by decide)).1 (hall "/api".toList (by decide))
    obtain ⟨-, husers⟩ := (hpath _ (by decide)).1 (hall "/users".toList (by decide))
    exact ⟨(beginsWith_filled hformat _).1 hbegins,
      eq_nil_of_endsWith_paths (not_mem_closing _) hapi husers⟩
  · rintro ⟨hbars, hclosing⟩ path hmem
    refine (hpath path hmem).2 ⟨(beginsWith_filled hformat path).2 hbars, ?_⟩
    rw [hclosing]
    exact endsWith_nil _

/-- Filling in the stars alone gives a match unless there are bars. -/
theorem evaluate_filled_self (hformat : formatOf pattern = .wildcard)
    (hleads : leads pattern = false) (htrails : trails pattern = false) :
    evaluate pattern (filled pattern) = .ok true := by
  rw [← List.append_nil (filled pattern), evaluate_filled_iff hformat List.not_mem_nil]
  refine ⟨(beginsWith_filled hformat []).2 fun hbar => ?_, ?_⟩
  · rw [hleads] at hbar
    cases hbar
  · rw [List.append_nil]
    exact endsWith_filled hformat htrails

end Wildcard

open Wildcard

/-- A simple pattern matches all of its examples. A wildcard pattern matches those whose ends are as
it asks: the first one unless there are bars, and all of them if nothing stands behind the last star
and, after a bar in front, nothing but bars before the first one. -/
theorem evaluate_exampleUrls (p : String) :
    (formatOf p.toList = .simple →
      ∀ url ∈ exampleUrls p, evaluate p.toList url.toList = .ok true) ∧
    (formatOf p.toList = .wildcard →
      (∀ url ∈ exampleUrls p, ∃ found, evaluate p.toList url.toList = .ok found ∧
        (found = true ↔ EndsFit (body p.toList) url.toList)) ∧
      (leads p.toList = false → trails p.toList = false →
        ∃ first more, exampleUrls p = first :: more ∧ evaluate p.toList first.toList = .ok true) ∧
      ((∀ url ∈ exampleUrls p, evaluate p.toList url.toList = .ok true) ↔
        (leads p.toList = true → ∀ c ∈ opening (body p.toList), c = '|') ∧
          closing (body p.toList) = [])) := by
  refine ⟨evaluate_example_of_simple, fun hformat => ?_⟩
  have htexts := toList_exampleUrls hformat
  refine ⟨?_, ?_, ?_⟩
  · intro url hurl
    have hmem := htexts ▸ List.mem_map_of_mem (f := String.toList) hurl
    obtain ⟨path, hpath, htext⟩ := List.mem_map.1 hmem
    rw [← htext]
    exact evaluate_filled hformat (newline_not_mem_path path hpath)
  · intro hleads htrails
    obtain ⟨first, more, hurls, hfirst, -⟩ := List.map_eq_cons_iff.1 htexts
    refine ⟨first, more, hurls, ?_⟩
    simpa only [hfirst, List.append_nil] using evaluate_filled_self hformat hleads htrails
  · rw [← evaluate_filled_all hformat]
    have hall := List.forall_mem_map (f := String.toList) (l := exampleUrls p)
      (P := fun text => evaluate p.toList text = .ok true)
    rw [← hall, htexts, List.forall_mem_map]

/-- A host with its paths, a star for them, and a star before a host. -/
theorem evaluate_exampleUrls_hosts :
    (∀ url ∈ exampleUrls "localhost:3002", evaluate "localhost:3002".toList url.toList = .ok true) ∧
    (∀ url ∈ exampleUrls "localhost:3002/*",
      evaluate "localhost:3002/*".toList url.toList = .ok true) ∧
    ∃ first more, exampleUrls "*.api.example.com" = first :: more ∧
      evaluate "*.api.example.com".toList first.toList = .ok true := by
  have hsimple : formatOf "localhost:3002".toList = .simple := by decide +kernel
  have hbehind : formatOf "localhost:3002/*".toList = .wildcard := by decide +kernel
  have hbefore : formatOf "*.api.example.com".toList = .wildcard := by decide +kernel
  obtain ⟨-, -, hall⟩ := (evaluate_exampleUrls _).2 hbehind
  obtain ⟨-, hfirst, -⟩ := (evaluate_exampleUrls _).2 hbefore
  refine ⟨(evaluate_exampleUrls _).1 hsimple, hall.2 ?_, hfirst ?_ ?_⟩
  · decide +kernel
  · decide +kernel
  · decide +kernel

/-- A pattern that ends in a host does not match its examples with a path. -/
theorem evaluate_exampleUrls_missed :
    validate "*.api.example.com".toList = .ok none ∧
      formatOf "*.api.example.com".toList = .wildcard ∧
      "example.api.example.com/api" ∈ exampleUrls "*.api.example.com" ∧
      evaluate "*.api.example.com".toList "example.api.example.com/api".toList = .ok false := by
  refine ⟨?_, ?_, ?_, ?_⟩
  · decide +kernel
  · decide +kernel
  · decide +kernel
  · decide +kernel

end HeaderRules.Url
