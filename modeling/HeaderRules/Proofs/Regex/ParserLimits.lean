import HeaderRules.Proofs.Regex.OpeningLimits
/-!
# Limits of whole patterns

A pattern is read from the beginning to the end of its text, so what exceeds a limit stands in that
text, and no refusal has another cause.
-/

namespace HeaderRules.Regex

variable {text : List Char} {r : Reader}

/-- A reader in the middle of a text, which asks for the alphabets that are set. -/
structure Within (text : List Char) (r : Reader) : Prop where
  rest : r.source.rest <:+ text
  alphabet : ∀ alphabet : Alphabet, alphabet.isSet r.flags = true → Asks alphabet.letter text

theorem Within.opens {part : List Char} {after : Reader} (h : Within text r)
    (hpart : part <:+ text) (hopens : Opens part r after) : Within text after where
  rest := hopens.rest.trans h.rest
  alphabet alphabet hset :=
    (hopens.alphabet alphabet hset).elim (h.alphabet alphabet) fun hasks => hasks.mono hpart.isInfix

theorem Within.keeps {after : Reader} (h : Within text r) (hkeeps : Keeps r after) :
    Within text after :=
  h.opens List.suffix_rfl hkeeps.opens

theorem Within.goOn {s : Source} (h : Within text r) (hs : s.rest <:+ r.source.rest) :
    Within text { r with source := s } :=
  h.keeps ⟨hs, rfl⟩

/-! ## Single steps -/

theorem limited_closeParenthesis (start : Nat) (r : Reader) :
    Limited text (fun after => Keeps r after) (closeParenthesis start r) := by
  unfold closeParenthesis
  refine (Source.limited_accept r.source ')').bind ?_
  rintro ⟨closed, s⟩ hs
  exact .ite (fun _ => .pure ⟨Source.suffix_of_eq hs, rfl⟩) fun _ => .fault _ _

theorem limited_simpleItem (c : Char) (r : Reader) :
    Limited r.source.rest (fun t => Keeps r t.2) (simpleItem c r) := by
  have hsame : Keeps r r := ⟨List.suffix_rfl, rfl⟩
  unfold simpleItem
  split
  · refine (limited_parseSet r.source).bind ?_
    rintro ⟨node, s⟩ hs
    exact .pure ⟨hs, rfl⟩
  · exact .pure hsame
  · exact .pure hsame
  · exact .pure hsame
  · exact .pure hsame

theorem limited_openGroup (r : Reader) (name : Option (List Char)) :
    Limited text (fun t => Keeps r t.2) (r.openGroup name) := by
  unfold Reader.openGroup
  extract_lets index opened
  split
  · exact .pure ⟨List.suffix_rfl, rfl⟩
  · extract_lets key
    split
    · exact .fail _ _ _
    · exact .pure ⟨List.suffix_rfl, rfl⟩

/-! ## Expressions -/

structure ReadsWithin (text : List Char) (fuel : Nat) : Prop where
  alternatives : ∀ verbose nested first r, Within text r →
    Limited text (fun t => Within text t.2) (parseAlternatives fuel verbose nested first r)
  items : ∀ verbose first items r, Within text r →
    Limited text (fun t => Within text t.2) (parseItems fuel verbose first items r)
  group : ∀ verbose start opening r, Within text r →
    Limited text (fun t => Within text t.2) (parseGroup fuel verbose start opening r)

namespace ReadsWithin

variable {fuel : Nat}

theorem zero : ReadsWithin text 0 where
  alternatives _ _ _ _ _ := .fail _ _ _
  items _ _ _ _ _ := .fail _ _ _
  group _ _ _ _ _ := .fail _ _ _

theorem alternatives_succ (h : ReadsWithin text fuel) (verbose nested first : Bool)
    (hr : Within text r) :
    Limited text (fun t => Within text t.2)
      (parseAlternatives (fuel + 1) verbose nested first r) := by
  unfold parseAlternatives
  refine (h.items verbose first [] r hr).bind ?_
  rintro ⟨node, after⟩ hafter
  refine (Source.limited_accept after.source '|').bind ?_
  rintro ⟨bar, s⟩ hs
  have hs : Within text { after with source := s } := hafter.goOn (Source.suffix_of_eq hs)
  refine .ite (fun _ => ?_) fun _ => .pure hafter
  refine (h.alternatives _ nested false _ hs).bind ?_
  rintro ⟨others, last⟩ hlast
  exact .pure hlast

theorem items_succ (h : ReadsWithin text fuel) (verbose first : Bool) (items : List Node)
    (hr : Within text r) :
    Limited text (fun t => Within text t.2) (parseItems (fuel + 1) verbose first items r) := by
  have hmore (verbose : Bool) (items : List Node) {after : Reader} (hafter : Within text after) :
      Limited text (fun t => Within text t.2) (parseItems fuel verbose first items after) :=
    h.items verbose first items after hafter
  unfold parseItems
  split
  · exact .pure hr
  · exact .pure hr
  · exact .pure hr
  · rename_i token _ _ hpeek
    refine (Source.limited_skip r.source).bind fun s hs => ?_
    rw [hpeek] at hs
    have hnext : Within text { r with source := s } := hr.goOn (Source.suffix_of_eq hs)
    have htext : token.text ++ s.rest <:+ text := by
      rw [show token.text ++ s.rest = r.source.rest from hs.symm]
      exact hr.rest
    extract_lets start next
    -- a sign of repetition changes the items that have been read and goes on behind itself
    have hrepeat (verbose : Bool) (bounds : Bounds) {t : Source} (ht : t.rest <:+ s.rest) :
        Limited text (fun t => Within text t.2)
          (repeatLast start bounds items t >>= fun u =>
            parseItems fuel verbose first u.1 { next with source := u.2 }) := by
      refine (limited_repeatLast start bounds items t).bind ?_
      rintro ⟨items, u⟩ hu
      exact hmore _ items (hnext.goOn (hu.trans ht))
    cases token with
    | escaped c =>
      have hescape : Limited text (fun t => Keeps next t.2) (itemEscape c next) :=
        (limited_itemEscape c next).mono htext.isInfix
      refine hescape.bind ?_
      rintro ⟨node, after⟩ hafter
      exact hmore _ _ (hnext.keeps hafter)
    | plain c =>
      refine .ite (fun _ => hmore _ _ hnext) fun _ => .ite (fun _ => ?_) fun _ => ?_
      · exact (Source.limited_skipLine s).bind fun t ht => hmore _ _ (hnext.goOn ht)
      · split
        · exact hrepeat _ _ List.suffix_rfl
        · exact hrepeat _ _ List.suffix_rfl
        · exact hrepeat _ _ List.suffix_rfl
        · refine ((limited_parseBounds s).mono htext.isInfix).bind ?_
          rintro (_ | ⟨bounds, t⟩) hbounds
          · exact hmore _ _ hnext
          · exact hrepeat _ bounds (hbounds _ rfl)
        · refine (limited_parseOpening start next).bind ?_
          rintro ⟨opening, after⟩ hopens
          have hafter : Within text after := hnext.opens htext hopens
          dsimp only
          split
          · exact hmore _ _ hafter
          · exact hmore _ _ hafter
          · exact .ite (fun _ => .fault _ _) fun _ => hmore _ _ hafter
          · refine (h.group verbose start opening after hafter).bind ?_
            rintro ⟨node, last⟩ hlast
            exact hmore _ _ hlast
        · have hsimple : Limited text (fun t => Keeps next t.2) (simpleItem c next) :=
            (limited_simpleItem c next).mono hnext.rest.isInfix
          refine hsimple.bind ?_
          rintro ⟨node, after⟩ hafter
          exact hmore _ _ (hnext.keeps hafter)

theorem limited_close {after : Reader} (hafter : Within text after) (start : Nat) (node : Node) :
    Limited text (fun t => Within text t.2) (do
      let last ← closeParenthesis start after
      pure (node, last)) :=
  (limited_closeParenthesis start after).bind fun _ hlast => .pure (hafter.keeps hlast)

theorem group_succ (h : ReadsWithin text fuel) (verbose : Bool) (start : Nat) (opening : Opening)
    (hr : Within text r) :
    Limited text (fun t => Within text t.2) (parseGroup (fuel + 1) verbose start opening r) := by
  unfold parseGroup
  split
  · rename_i behind negated
    extract_lets outer inner
    have hinner : Within text inner := by
      refine hr.keeps ?_
      unfold inner
      split <;> exact ⟨List.suffix_rfl, rfl⟩
    refine (h.alternatives verbose true false inner hinner).bind ?_
    rintro ⟨body, after⟩ hafter
    dsimp -zeta only
    extract_lets last
    have hlast : Within text last := by
      refine hafter.keeps ?_
      unfold last
      split <;> exact ⟨List.suffix_rfl, rfl⟩
    exact limited_close hlast start _
  · refine (h.items verbose false [] r hr).bind ?_
    rintro ⟨yes, after⟩ hafter
    refine (Source.limited_accept after.source '|').bind ?_
    rintro ⟨bar, s⟩ hs
    dsimp -zeta only
    extract_lets next finish
    have hnext : Within text next := hafter.goOn (Source.suffix_of_eq hs)
    have hfinish (no : Node) {last : Reader} (hlast : Within text last) :
        Limited text (fun t => Within text t.2) (finish (no, last)) :=
      .ite (fun _ => .fail _ _ _) fun _ => limited_close hlast start _
    refine .ite (fun _ => (h.items verbose false [] next hnext).bind ?_) fun _ =>
      hfinish .empty hnext
    rintro ⟨no, last⟩ hlast
    exact hfinish no hlast
  · refine (h.alternatives verbose true false r hr).bind ?_
    rintro ⟨body, after⟩ hafter
    exact limited_close hafter start _
  · refine (h.alternatives _ true false r hr).bind ?_
    rintro ⟨body, after⟩ hafter
    exact limited_close hafter start _
  · rename_i name
    refine (limited_openGroup r name).bind ?_
    rintro ⟨index, opened⟩ hopened
    refine (h.alternatives verbose true false opened (hr.keeps hopened)).bind ?_
    rintro ⟨body, after⟩ hafter
    refine (limited_closeParenthesis start after).bind fun last hlast => .pure ?_
    exact (hafter.keeps hlast).keeps ⟨List.suffix_rfl, rfl⟩
  · exact .pure hr
  · exact .pure hr
  · exact .pure hr

theorem succ (h : ReadsWithin text fuel) : ReadsWithin text (fuel + 1) where
  alternatives verbose nested first _ hr := h.alternatives_succ verbose nested first hr
  items verbose first items _ hr := h.items_succ verbose first items hr
  group verbose start opening _ hr := h.group_succ verbose start opening hr

end ReadsWithin

theorem readsWithin (text : List Char) (fuel : Nat) : ReadsWithin text fuel := by
  induction fuel with
  | zero => exact .zero
  | succ fuel ih => exact ih.succ

/-! ## Patterns -/

/-- A text is read, has a fault, or has a cause in it to be refused. -/
theorem limited_parse (text : List Char) (ignoreCase : Bool) :
    Limited text (fun _ => True) (parse text { ignoreCase }) := by
  unfold parse
  refine (Source.limited_at? 0 text).bind fun source hsource => ?_
  have hstart : Within text { source, flags := { ignoreCase } } := by
    refine ⟨⟨[], hsource⟩, fun alphabet hset => ?_⟩
    cases alphabet <;> cases hset
  refine ((readsWithin text _).alternatives false false true _ hstart).bind ?_
  rintro ⟨node, last⟩ hlast
  refine .ite (fun hboth => ?_) fun _ => .ite (fun _ => .fail _ _ _) fun _ => ?_
  · rw [Bool.and_eq_true] at hboth
    refine .inr (.alphabetConflict fun alphabet => hlast.alphabet alphabet ?_)
    cases alphabet with
    | ascii => exact hboth.1
    | unicode => exact hboth.2
  · dsimp only
    split
    · exact .fault _ _
    · exact .pure trivial

theorem limited_check (noRepeat : Bool) (node : Node) :
    Limited text (fun _ => True) (node.check noRepeat) := by
  induction node with
  | seq a b iha ihb => exact iha.bind fun _ _ => ihb
  | alt a b iha ihb => exact iha.bind fun _ _ => ihb
  | condition index a b iha ihb => exact iha.bind fun _ _ => ihb
  | group index body ih => exact ih
  | options on off body ih => exact ih
  | atomic body ih => exact ih
  | repetition greed least greatest body ih => exact .ite (fun _ => .inl rfl) fun _ => ih
  | look behind negated body ih =>
    exact .ite (fun _ => .inl rfl) fun _ => .ite (fun _ => .inl rfl) fun _ => ih
  | empty => exact .pure trivial
  | one code => exact .pure trivial
  | notOne code => exact .pure trivial
  | any => exact .pure trivial
  | set negated items => exact .pure trivial
  | anchor place => exact .pure trivial
  | backref index width => exact .pure trivial

theorem limited_compile (text : List Char) (ignoreCase : Bool) :
    Limited text (fun _ => True) (compile text ignoreCase) := by
  unfold compile
  refine (limited_parse text ignoreCase).bind fun pattern _ => ?_
  exact (limited_check _ _).bind fun _ _ => .pure trivial

/-- A refusal of a pattern that is no fault of it has its cause in the text. -/
theorem exceeds_of_compile {ignoreCase : Bool} {e : Error}
    (h : compile text ignoreCase = .error e) (hlimit : e.isInvalidPattern = false) :
    Exceeds text e := by
  have hlimited := limited_compile text ignoreCase
  rw [h] at hlimited
  rcases hlimited with hinvalid | hexceeds
  · rw [hlimit] at hinvalid
    cases hinvalid
  · exact hexceeds

end HeaderRules.Regex
