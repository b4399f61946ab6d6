import HeaderRules.Proofs.Outcome
import HeaderRules.Regex.Compile
/-!
# The option to ignore case

A pattern may be read under options that its text does not ask for. An option other than the verbose
one has no part in how the text is read: with it and without it, every step takes the same
characters, comes to the same part of the expression, and is refused for the same cause. So whether
case is ignored does not decide whether a text can be compiled.
-/

namespace HeaderRules.Regex

open HeaderRules.Number (readInteger)
open HeaderRules.Outcome

variable {α β : Type}

def Reader.under (given : Flags) (r : Reader) : Reader := { r with flags := r.flags.union given }

@[simp] theorem Reader.under_source (given : Flags) (r : Reader) :
    (r.under given).source = r.source := rfl

@[simp] theorem Reader.under_groups (given : Flags) (r : Reader) :
    (r.under given).groups = r.groups := rfl

@[simp] theorem Reader.under_names (given : Flags) (r : Reader) :
    (r.under given).names = r.names := rfl

@[simp] theorem Reader.under_closedWidth? (given : Flags) (r : Reader) (index : Nat) :
    (r.under given).closedWidth? index = r.closedWidth? index := rfl

@[simp] theorem Reader.under_asked (given : Flags) (r : Reader) :
    (r.under given).asked = r.asked := rfl

theorem Reader.under_verbose {given : Flags} (h : given.verbose = false) (r : Reader) :
    (r.under given).flags.verbose = r.flags.verbose := by
  change (r.flags.verbose || given.verbose) = r.flags.verbose
  rw [h, Bool.or_false]

theorem Flags.union_right_comm (a b c : Flags) : (a.union b).union c = (a.union c).union b := by
  simp [union, Bool.or_right_comm]

/-- Whether a second step comes to what a first one comes to, with some options set besides: to the
same refusal, or to the same result and the same reader but for the options. -/
def Alike (given : Flags) (x y : Except Error (α × Reader)) : Prop :=
  y = x.map fun read => (read.1, read.2.under given)

namespace Alike

variable {given : Flags}

theorem pure (a : α) (r : Reader) :
    Alike given (Pure.pure (a, r)) (Pure.pure (a, r.under given)) := rfl

theorem error (e : Error) : Alike (α := α) given (.error e) (.error e) := rfl

theorem bind {x y : Except Error (α × Reader)} {f g : α × Reader → Except Error (β × Reader)}
    (h : Alike given x y) (hf : ∀ a r, Alike given (f (a, r)) (g (a, r.under given))) :
    Alike given (x >>= f) (y >>= g) := by
  rw [show y = _ from h]
  cases x with
  | error e => rfl
  | ok read => exact hf read.1 read.2

theorem same {x : Except Error α} {f g : α → Except Error (β × Reader)}
    (hf : ∀ a, Alike given (f a) (g a)) : Alike given (x >>= f) (x >>= g) := by
  cases x with
  | error e => rfl
  | ok a => exact hf a

theorem ite {c : Prop} [Decidable c] {x y x' y' : Except Error (α × Reader)}
    (hx : Alike given x x') (hy : Alike given y y') :
    Alike given (if c then x else y) (if c then x' else y') := by
  by_cases hc : c
  · rwa [if_pos hc, if_pos hc]
  · rwa [if_neg hc, if_neg hc]

end Alike

variable {given : Flags}

/-! ## Escapes -/

theorem alike_groupReference (index length : Nat) (r : Reader) :
    Alike given (groupReference index length r)
      (groupReference index length (r.under given)) := by
  unfold groupReference
  refine .ite (.error _) ?_
  rw [Reader.under_closedWidth?]
  split
  · exact .error _
  · exact .same fun _ => .pure _ r

theorem alike_digitEscape (c : Char) (r : Reader) :
    Alike given (digitEscape c r) (digitEscape c (r.under given)) := by
  unfold digitEscape
  rw [Reader.under_source]
  split
  · refine .ite (.same fun s => ?_) (alike_groupReference _ _ r)
    dsimp only
    split
    · refine .ite (.same fun t => .ite (.error _) (.pure _ { r with source := t })) ?_
      exact alike_groupReference _ _ { r with source := s }
    · exact alike_groupReference _ _ { r with source := s }
  · exact alike_groupReference _ _ r

theorem alike_itemEscape (c : Char) (r : Reader) :
    Alike given (itemEscape c r) (itemEscape c (r.under given)) := by
  unfold itemEscape
  split
  · exact .pure _ r
  · exact .pure _ r
  · exact .pure _ r
  · refine .ite (.same fun t => .pure _ { r with source := t.2 }) (.ite ?_ ?_)
    · exact alike_digitEscape c r
    · exact .same fun t => .pure _ { r with source := t.2 }

/-! ## Openings of groups -/

theorem alike_openGroup (name : Option (List Char)) (r : Reader) :
    Alike given (r.openGroup name) ((r.under given).openGroup name) := by
  unfold Reader.openGroup
  cases name with
  | none => exact .pure _ { r with widths := r.widths ++ [none] }
  | some cs =>
    rw [Reader.under_names]
    dsimp only
    split
    · exact .error _
    · exact .pure _ { r with names := _, widths := _ }

theorem alike_conditionGroup (r : Reader) :
    Alike given (conditionGroup r) (conditionGroup (r.under given)) := by
  unfold conditionGroup
  refine .same ?_
  rintro ⟨cs, s⟩
  refine .ite ?_ ?_
  · dsimp only
    rw [Reader.under_names]
    split
    · exact .same fun _ => .pure _ { r with source := s }
    · exact .error _
  · cases readInteger cs with
    | error e => exact .error _
    | ok n =>
      refine .ite (.error _) (.ite (.error _) (.ite (.error _) ?_))
      have hend (next : Reader) : Alike given
          (do next.checkLookbehind n.toNat; pure (n.toNat, next))
          (do (next.under given).checkLookbehind n.toNat; pure (n.toNat, next.under given)) :=
        .same fun _ => .pure _ next
      have hasked := hend (if (r.asked.lookup n.toNat).isSome then { r with source := s }
        else { r with source := s, asked := r.asked ++ [(n.toNat, s.pos - (cs.length + 1))] })
      rwa [apply_ite (Reader.under given)] at hasked

theorem alike_namedReference (r : Reader) :
    Alike given (namedReference r) (namedReference (r.under given)) := by
  unfold namedReference
  refine .same ?_
  rintro ⟨cs, s⟩
  dsimp -zeta only
  extract_lets next next'
  have hnext : next' = next.under given := rfl
  rw [hnext, Reader.under_names]
  refine .same fun _ => ?_
  split
  · exact .error _
  · rw [Reader.under_closedWidth?]
    split
    · exact .error _
    · exact .same fun _ => .pure _ next

theorem alike_namedOpening (r : Reader) :
    Alike given (namedOpening r) (namedOpening (r.under given)) := by
  unfold namedOpening
  refine .same ?_
  rintro ⟨named, s⟩
  refine .ite (.same fun name => .same fun _ => .pure _ { r with source := name.2 }) (.same ?_)
  rintro ⟨reference, t⟩
  refine .ite ?_ (.same ?_)
  · exact (alike_namedReference { r with source := t }).bind fun node after => .pure _ after
  · rintro ⟨_ | token, u⟩
    · exact .error _
    · exact .error _

theorem alike_parseFlags (first : Char) (r : Reader) :
    Alike given (parseFlags first r) (parseFlags first (r.under given)) := by
  unfold parseFlags
  extract_lets fuel finish fuel' finish'
  have hfinish (letters : Flags × Char × Source) :
      Alike given (finish letters) (finish' letters) := by
    obtain ⟨on, close, s⟩ := letters
    refine .ite ?_ (.ite (.error _) (.ite (.pure _ { r with source := s }) (.same ?_)))
    · change Alike given _ (Pure.pure (Opening.globalFlags,
        { r with source := s, flags := (r.flags.union given).union on }))
      rw [Flags.union_right_comm]
      exact .pure _ { r with source := s, flags := r.flags.union on }
    · rintro ⟨token, t⟩
      dsimp only
      split
      · exact .error _
      · refine .ite (.same fun off => .ite (.error _) (.ite (.error _) ?_)) (.error _)
        exact .pure _ { r with source := off.2 }
      · exact .error _
  exact .ite (hfinish ({}, '-', r.source)) (.same hfinish)

theorem alike_parseOpening (start : Nat) (r : Reader) :
    Alike given (parseOpening start r) (parseOpening start (r.under given)) := by
  unfold parseOpening
  refine .same ?_
  rintro ⟨extended, s⟩
  refine .ite (.pure _ r) (.same ?_)
  rintro ⟨token, t⟩
  dsimp only
  split
  · exact .error _
  · exact alike_namedOpening { r with source := t }
  · exact .pure _ { r with source := t }
  · exact .same fun u => .pure _ { r with source := u }
  · exact .pure _ { r with source := t }
  · exact .pure _ { r with source := t }
  · refine .same ?_
    rintro ⟨next, u⟩
    dsimp only
    split
    · exact .error _
    · exact .pure _ { r with source := u }
    · exact .pure _ { r with source := u }
    · exact .error _
  · refine (alike_conditionGroup { r with source := t }).bind fun index after => .pure _ after
  · exact .pure _ { r with source := t }
  · rename_i other _ _ _ _ _ _ _ _
    cases other with
    | escaped c => exact .error _
    | plain c => exact .ite (alike_parseFlags c { r with source := t }) (.error _)

/-! ## Expressions -/

theorem alike_simpleItem (c : Char) (r : Reader) :
    Alike given (simpleItem c r) (simpleItem c (r.under given)) := by
  unfold simpleItem
  split
  · exact .same fun read => .pure _ { r with source := read.2 }
  · exact .pure _ r
  · exact .pure _ r
  · exact .pure _ r
  · exact .pure _ r

theorem Alike.close {f g : Reader → Except Error (α × Reader)}
    (hf : ∀ r, Alike given (f r) (g (r.under given))) (start : Nat) (r : Reader) :
    Alike given (closeParenthesis start r >>= f)
      (closeParenthesis start (r.under given) >>= g) := by
  unfold closeParenthesis
  simp only [bind_assoc]
  refine .same fun read => ?_
  cases read.1 with
  | true => exact hf { r with source := read.2 }
  | false => exact .error _

theorem alike_close (start : Nat) (node : Node) (r : Reader) :
    Alike given (do let last ← closeParenthesis start r; pure (node, last))
      (do let last ← closeParenthesis start (r.under given); pure (node, last)) :=
  .close (fun last => .pure node last) start r

/-- With some fuel, every part of an expression is read alike. -/
structure ReadsAlike (given : Flags) (fuel : Nat) : Prop where
  alternatives : ∀ verbose nested first r,
    Alike given (parseAlternatives fuel verbose nested first r)
      (parseAlternatives fuel verbose nested first (r.under given))
  items : ∀ verbose first items r,
    Alike given (parseItems fuel verbose first items r)
      (parseItems fuel verbose first items (r.under given))
  group : ∀ verbose start opening r,
    Alike given (parseGroup fuel verbose start opening r)
      (parseGroup fuel verbose start opening (r.under given))

namespace ReadsAlike

variable {fuel : Nat}

theorem zero : ReadsAlike given 0 where
  alternatives _ _ _ _ := .error _
  items _ _ _ _ := .error _
  group _ _ _ _ := .error _

theorem alternatives_succ (h : ReadsAlike given fuel) (hverbose : given.verbose = false)
    (verbose nested first : Bool) (r : Reader) :
    Alike given (parseAlternatives (fuel + 1) verbose nested first r)
      (parseAlternatives (fuel + 1) verbose nested first (r.under given)) := by
  unfold parseAlternatives
  refine (h.items verbose first [] r).bind fun node after => .same ?_
  rintro ⟨bar, s⟩
  refine .ite ?_ (.pure node after)
  rw [after.under_verbose hverbose]
  exact (h.alternatives _ nested false { after with source := s }).bind fun others last =>
    .pure (Node.alt node others) last

theorem items_succ (h : ReadsAlike given fuel) (hverbose : given.verbose = false)
    (verbose first : Bool) (items : List Node) (r : Reader) :
    Alike given (parseItems (fuel + 1) verbose first items r)
      (parseItems (fuel + 1) verbose first items (r.under given)) := by
  unfold parseItems
  rw [Reader.under_source]
  split
  · exact .pure _ r
  · exact .pure _ r
  · exact .pure _ r
  · rename_i token _ _ _
    refine .same fun s => ?_
    have hmore (verbose : Bool) (items : List Node) (after : Reader) :
        Alike given (parseItems fuel verbose first items after)
          (parseItems fuel verbose first items (after.under given)) :=
      h.items verbose first items after
    -- a sign of repetition changes the items that have been read and goes on behind itself
    have hrepeat (bounds : Bounds) (t : Source) :
        Alike given
          (repeatLast (s.pos - 1) bounds items t >>= fun read =>
            parseItems fuel verbose first read.1 { r with source := read.2 })
          (repeatLast (s.pos - 1) bounds items t >>= fun read =>
            parseItems fuel verbose first read.1 { r.under given with source := read.2 }) :=
      .same fun read => hmore _ read.1 { r with source := read.2 }
    cases token with
    | escaped c =>
      exact (alike_itemEscape c { r with source := s }).bind fun node after => hmore _ _ after
    | plain c =>
      refine .ite (hmore _ _ { r with source := s }) (.ite ?_ ?_)
      · exact .same fun t => hmore _ _ { r with source := t }
      · dsimp only
        split
        · exact hrepeat _ s
        · exact hrepeat _ s
        · exact hrepeat _ s
        · refine .same ?_
          rintro (_ | ⟨bounds, t⟩)
          · exact hmore _ _ { r with source := s }
          · exact hrepeat bounds t
        · refine (alike_parseOpening _ { r with source := s }).bind fun opening after => ?_
          dsimp only
          split
          · exact hmore _ _ after
          · exact hmore _ _ after
          · refine .ite (.error _) ?_
            rw [after.under_verbose hverbose]
            exact hmore _ _ after
          · exact (h.group verbose _ opening after).bind fun node last => hmore _ _ last
        · exact (alike_simpleItem c { r with source := s }).bind fun node after =>
            hmore _ _ after

theorem group_succ (h : ReadsAlike given fuel) (verbose : Bool) (start : Nat) (opening : Opening)
    (r : Reader) :
    Alike given (parseGroup (fuel + 1) verbose start opening r)
      (parseGroup (fuel + 1) verbose start opening (r.under given)) := by
  unfold parseGroup
  split
  · rename_i behind negated
    extract_lets outer inner outer' inner'
    have hinner : inner' = inner.under given :=
      (apply_ite (Reader.under given) ((behind && outer.isNone) = true)
        { r with lookbehindFrom := some r.groups } r).symm
    rw [hinner]
    refine (h.alternatives verbose true false inner).bind fun body after => ?_
    dsimp -zeta only
    extract_lets last last'
    have hlast : last' = last.under given :=
      (apply_ite (Reader.under given) (behind = true)
        { after with lookbehindFrom := outer } after).symm
    rw [hlast]
    exact alike_close start _ last
  · refine (h.items verbose false [] r).bind fun yes after => .same ?_
    rintro ⟨bar, s⟩
    dsimp -zeta only
    extract_lets next finish
    have hfinish (no : Node) (last : Reader) :
        Alike given (finish (no, last)) (finish (no, last.under given)) :=
      .ite (.error _) (alike_close start _ last)
    exact .ite ((h.items verbose false [] next).bind hfinish) (hfinish .empty next)
  · exact (h.alternatives verbose true false r).bind fun body after => alike_close start _ after
  · exact (h.alternatives _ true false r).bind fun body after => alike_close start _ after
  · rename_i name
    refine (alike_openGroup name r).bind fun index opened => ?_
    refine (h.alternatives verbose true false opened).bind fun body after => ?_
    exact .close (fun last => .pure _ (last.closeGroup index body.width)) start after
  · exact .pure _ r
  · exact .pure _ r
  · exact .pure _ r

theorem succ (h : ReadsAlike given fuel) (hverbose : given.verbose = false) :
    ReadsAlike given (fuel + 1) where
  alternatives verbose nested first r := h.alternatives_succ hverbose verbose nested first r
  items verbose first items r := h.items_succ hverbose verbose first items r
  group verbose start opening r := h.group_succ verbose start opening r

end ReadsAlike

theorem readsAlike (hverbose : given.verbose = false) (fuel : Nat) : ReadsAlike given fuel := by
  induction fuel with
  | zero => exact .zero
  | succ fuel ih => exact ih.succ hverbose

/-! ## Patterns -/

/-- Whether case is ignored changes nothing about a pattern but that one option. -/
theorem parse_ignoreCase (text : List Char) (ignoreCase : Bool) :
    parse text { ignoreCase } = (parse text).map fun pattern =>
      { pattern with flags := pattern.flags.union { ignoreCase } } := by
  unfold parse
  cases Source.at? 0 text with
  | error e => rfl
  | ok source =>
    have hread : Alike { ignoreCase }
        (parseAlternatives (3 * text.length + 3) false false true { source })
        (parseAlternatives (3 * text.length + 3) false false true
          { source, flags := { ignoreCase } }) :=
      (readsAlike rfl _).alternatives false false true { source }
    dsimp only [ok_bind]
    rw [show parseAlternatives _ _ _ _ { source, flags := { ignoreCase } } = _ from hread]
    cases parseAlternatives (3 * text.length + 3) false false true { source } with
    | error e => rfl
    | ok read =>
      obtain ⟨node, last⟩ := read
      have hascii : (last.under { ignoreCase }).flags.ascii = last.flags.ascii := Bool.or_false _
      have hunicode : (last.under { ignoreCase }).flags.unicode = last.flags.unicode :=
        Bool.or_false _
      dsimp only [map_ok, ok_bind]
      rw [hascii, hunicode, Reader.under_source, Reader.under_groups, Reader.under_asked]
      split
      · rfl
      · split
        · rfl
        · cases last.asked.find? fun asked => last.groups ≤ asked.1 with
          | none => rfl
          | some asked => rfl

/-- Whether case is ignored does not decide whether a text can be compiled, nor for what cause it
cannot. -/
theorem compile_ignoreCase (text : List Char) (ignoreCase : Bool) :
    compile text ignoreCase = (compile text false).map fun regex =>
      { regex with flags := regex.flags.union { ignoreCase } } := by
  have hnone : parse text { ignoreCase := false } = parse text := rfl
  unfold compile
  rw [parse_ignoreCase, hnone]
  cases parse text with
  | error e => rfl
  | ok pattern =>
    have hrepeat : (pattern.flags.union { ignoreCase }).noRepeat = pattern.flags.noRepeat :=
      Bool.or_false _
    dsimp only [map_ok, ok_bind]
    rw [hrepeat]
    cases pattern.node.check pattern.flags.noRepeat with
    | error e => rfl
    | ok u => rfl

theorem compile_of_parse {text : List Char} {node : Node} (hparse : parse text = .ok ⟨{}, node⟩)
    (hcheck : node.check false = .ok ()) (ignoreCase : Bool) :
    compile text ignoreCase = .ok ⟨{ ignoreCase }, node⟩ := by
  have hcompile : compile text false = .ok ⟨{}, node⟩ := by
    rw [compile, hparse, ok_bind, hcheck]
    rfl
  rw [compile_ignoreCase, hcompile]
  rfl

end HeaderRules.Regex
