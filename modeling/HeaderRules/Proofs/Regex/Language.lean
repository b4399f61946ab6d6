import HeaderRules.Proofs.Outcome
import HeaderRules.Regex.Compile
/-!
# What an expression reads

The texts that an expression matches, each between what stands before and after it, without an order
of choices. A matcher that goes on to what remains agrees with this reading, because a round of a
repetition that reads nothing can be left out.
-/

namespace HeaderRules.Regex

/-- Which texts are read, given the characters before, last first, and those after. -/
abbrev Language := (before text after : List Char) → Prop

namespace Language

def blank : Language := fun _ text _ => text = []

def step (test : Char → Bool) : Language := fun _ text _ => ∃ c, text = [c] ∧ test c = true

def seq (a b : Language) : Language := fun before text after =>
  ∃ first second, text = first ++ second ∧ a before first (second ++ after) ∧
    b (first.reverse ++ before) second after

def rounds (body : Language) : Nat → Language
  | 0 => blank
  | n + 1 => seq body (rounds body n)

theorem blank_seq (a : Language) : seq blank a = a := by
  funext before text after
  apply propext
  constructor
  · rintro ⟨first, second, rfl, rfl, h⟩
    simpa using h
  · intro h
    exact ⟨[], text, rfl, rfl, by simpa using h⟩

theorem seq_assoc (a b c : Language) : seq (seq a b) c = seq a (seq b c) := by
  funext before text after
  apply propext
  constructor
  · rintro ⟨_, third, rfl, ⟨first, second, rfl, ha, hb⟩, hc⟩
    exact ⟨first, second ++ third, by simp, by simpa using ha, second, third, rfl, hb,
      by simpa using hc⟩
  · rintro ⟨first, _, rfl, ha, second, third, rfl, hb, hc⟩
    exact ⟨first ++ second, third, by simp, ⟨first, second, rfl, by simpa using ha, hb⟩,
      by simpa using hc⟩

theorem rounds_add (body : Language) (m n : Nat) :
    rounds body (m + n) = seq (rounds body m) (rounds body n) := by
  induction m with
  | zero => rw [Nat.zero_add, rounds, blank_seq]
  | succ m ih => rw [Nat.add_right_comm, rounds, rounds, seq_assoc, ih]

theorem seq_blank (a : Language) : seq a blank = a := by
  funext before text after
  apply propext
  constructor
  · rintro ⟨first, second, rfl, h, rfl⟩
    simpa using h
  · intro h
    exact ⟨text, [], by simp, by simpa using h, rfl⟩

/-- Rounds that read nothing can be left out, up to the first one that reads something. -/
theorem rounds_cases {body : Language} {n : Nat} {before text after : List Char}
    (h : rounds body n before text after) :
    text = [] ∨ ∃ m first second, m < n ∧ first ≠ [] ∧ text = first ++ second ∧
      body before first (second ++ after) ∧ rounds body m (first.reverse ++ before) second after := by
  induction n generalizing text with
  | zero => exact .inl h
  | succ n ih =>
    obtain ⟨first, second, rfl, hfirst, hsecond⟩ := h
    by_cases hnil : first = []
    · subst hnil
      obtain hempty | ⟨m, other, rest, hm, hother, heq, hbody, hrest⟩ := ih hsecond
      · exact .inl hempty
      · exact .inr ⟨m, other, rest, by omega, hother, heq, hbody, hrest⟩
    · exact .inr ⟨n, first, second, by omega, hnil, rfl, hfirst, hsecond⟩

theorem rounds_step (test : Char → Bool) (n : Nat) (before text after : List Char) :
    rounds (step test) n before text after ↔ text.length = n ∧ ∀ c ∈ text, test c = true := by
  induction n generalizing before text with
  | zero =>
    rw [rounds, blank, List.length_eq_zero_iff]
    constructor
    · rintro rfl
      simp
    · exact And.left
  | succ n ih =>
    constructor
    · rintro ⟨_, rest, rfl, ⟨c, rfl, hc⟩, hrest⟩
      obtain ⟨hlength, hall⟩ := (ih _ _).1 hrest
      exact ⟨by simp [hlength], by simpa using ⟨hc, hall⟩⟩
    · rintro ⟨hlength, hall⟩
      obtain ⟨c, rest, rfl⟩ := List.exists_cons_of_length_eq_add_one hlength
      obtain ⟨hc, hall⟩ := List.forall_mem_cons.1 hall
      exact ⟨[c], rest, rfl, ⟨c, rfl, hc⟩, (ih _ _).2 ⟨by simpa using hlength, hall⟩⟩

end Language

namespace Node

/-- Whether an expression is built from characters, anchors, options and repetitions that can give
back what they took. -/
def IsPlain : Node → Bool
  | .empty | .one _ | .notOne _ | .any | .set .. | .anchor _ => true
  | .seq a b | .alt a b => a.IsPlain && b.IsPlain
  | .options _ _ body => body.IsPlain
  | .repetition greed _ _ body => greed == .greedy && body.IsPlain
  | .group .. | .atomic _ | .backref .. | .condition .. | .look .. => false

def Reads : Node → Flags → Language
  | .empty, _ => .blank
  | .seq a b, flags => .seq (a.Reads flags) (b.Reads flags)
  | .alt a b, flags => fun before text after =>
    a.Reads flags before text after ∨ b.Reads flags before text after
  | .one code, flags => .step fun c => flags.folding.agrees code c.toNat
  | .notOne code, flags => .step fun c => !flags.folding.agrees code c.toNat
  | .any, flags => .step fun c => flags.dotAll || c != '\n'
  | .set negated items, flags => .step (setHolds flags negated items)
  | .anchor place, flags => fun before text after =>
    text = [] ∧ place.holds flags { Place.start after with before } = true
  | .options on off body, flags => body.Reads (flags.withOptions on off)
  | .repetition _ least greatest body, flags => fun before text after =>
    ∃ n, least ≤ n ∧ (∀ most, greatest = some most → n - least ≤ most - least) ∧
      (body.Reads flags).rounds n before text after
  | .group .., _ | .atomic _, _ | .backref .., _ | .condition .., _ | .look .., _ =>
    fun _ _ _ => False

theorem isPlain_ofList (nodes : List Node) : (ofList nodes).IsPlain = nodes.all IsPlain := by
  induction nodes with
  | nil => rfl
  | cons node rest ih => rw [ofList_cons, IsPlain, ih, List.all_cons]

theorem check_of_isPlain {node : Node} (h : node.IsPlain = true) : node.check false = .ok () := by
  induction node with
  | seq a b iha ihb =>
    rw [IsPlain, Bool.and_eq_true] at h
    rw [check, iha h.1, Outcome.ok_bind, ihb h.2]
  | alt a b iha ihb =>
    rw [IsPlain, Bool.and_eq_true] at h
    rw [check, iha h.1, Outcome.ok_bind, ihb h.2]
  | options on off body ih => exact ih h
  | repetition greed least greatest body ih =>
    rw [IsPlain, Bool.and_eq_true] at h
    exact ih h.2
  | empty => rfl
  | one code => rfl
  | notOne code => rfl
  | any => rfl
  | set negated items => rfl
  | anchor place => rfl
  | group index body => cases h
  | atomic body => cases h
  | backref index width => cases h
  | condition index yes no => cases h
  | look behind negated body => cases h

theorem reads_nil {flags : Flags} {before text after : List Char} :
    (ofList []).Reads flags before text after ↔ text = [] :=
  Iff.rfl

theorem reads_cons {flags : Flags} {node : Node} {rest : List Node}
    {before text after : List Char} :
    (ofList (node :: rest)).Reads flags before text after ↔ ∃ first second, text = first ++ second ∧
      node.Reads flags before first (second ++ after) ∧
        (ofList rest).Reads flags (first.reverse ++ before) second after :=
  Iff.rfl

theorem reads_ofList_append (flags : Flags) (first second : List Node) :
    (ofList (first ++ second)).Reads flags =
      .seq ((ofList first).Reads flags) ((ofList second).Reads flags) := by
  induction first with
  | nil => exact (Language.blank_seq _).symm
  | cons node rest ih =>
    rw [List.cons_append, ofList_cons, ofList_cons, Reads, Reads, ih, Language.seq_assoc]

theorem reads_ofList_map {flags : Flags} {node : Char → Node}
    (part : Char → List Char → List Char → Prop) (whole : List Char → List Char → List Char → Prop)
    (hpart : ∀ c before text after, (node c).Reads flags before text after ↔ part c text after)
    (hnil : ∀ text after, whole [] text after ↔ text = [])
    (hcons : ∀ c rest text after, whole (c :: rest) text after ↔
      ∃ first second, text = first ++ second ∧ part c first (second ++ after) ∧
        whole rest second after)
    (body before text after : List Char) :
    (ofList (body.map node)).Reads flags before text after ↔ whole body text after := by
  induction body generalizing before text with
  | nil => rw [List.map_nil, reads_nil, hnil]
  | cons c rest ih =>
    rw [List.map_cons, reads_cons, hcons]
    simp only [hpart, ih]

theorem reads_singleton (node : Node) (flags : Flags) :
    (ofList [node]).Reads flags = node.Reads flags :=
  Language.seq_blank _

theorem reads_optional (node : Node) (flags : Flags) (greed : Greed)
    (before text after : List Char) :
    (Node.repetition greed 0 (some 1) node).Reads flags before text after ↔
      text = [] ∨ node.Reads flags before text after := by
  have hone : (node.Reads flags).rounds 1 = node.Reads flags := Language.seq_blank _
  constructor
  · rintro ⟨n, -, hn, hrounds⟩
    obtain rfl | rfl : n = 0 ∨ n = 1 := by have := hn 1 rfl; omega
    · exact .inl hrounds
    · rw [hone] at hrounds
      exact .inr hrounds
  · rintro (rfl | h)
    · exact ⟨0, by omega, by omega, rfl⟩
    · exact ⟨1, by omega, by simp, by rwa [hone]⟩

theorem reads_star {node : Node} {flags : Flags} {test : Char → Bool}
    (h : node.Reads flags = .step test) (greed : Greed) (before text after : List Char) :
    (Node.repetition greed 0 none node).Reads flags before text after ↔
      ∀ c ∈ text, test c = true := by
  simp only [Reads, h, Language.rounds_step]
  constructor
  · rintro ⟨n, -, -, -, hall⟩
    exact hall
  · intro hall
    exact ⟨text.length, by omega, by simp, rfl, hall⟩

theorem reads_star_set (negated : Bool) (items : List SetItem) (flags : Flags) (greed : Greed)
    (before text after : List Char) :
    (Node.repetition greed 0 none (.set negated items)).Reads flags before text after ↔
      ∀ c ∈ text, setHolds flags negated items c = true :=
  reads_star rfl greed before text after

end Node

/-! ## Matchers that follow a language -/

def Place.past (p : Place) (text after : List Char) : Place :=
  { Place.start after with before := text.reverse ++ p.before, groups := p.groups }

theorem Place.past_nil (p : Place) : p.past [] p.rest = p := by
  cases p with
  | mk before rest ahead groups h => simp [past, start, between, h]

theorem Place.ahead_past_lt {p : Place} {text after : List Char} (h : p.rest = text ++ after) :
    (p.past text after).ahead < p.ahead ↔ text ≠ [] := by
  have hpast : (p.past text after).ahead = after.length := rfl
  rw [hpast, p.ahead_eq, h, List.length_append, ← List.length_pos_iff]
  omega

theorem Place.past_past (p : Place) (first second rest after : List Char) :
    (p.past first rest).past second after = p.past (first ++ second) after := by
  simp [past, start, between]

/-- A matcher goes on after exactly the texts of a language. -/
def Matcher.Follows (m : Matcher) (language : Language) : Prop :=
  ∀ p k, (m p k).isSome = true ↔ ∃ text after, p.rest = text ++ after ∧
    language p.before text after ∧ (k (p.past text after)).isSome = true

namespace Matcher

theorem follows_blank : Follows (fun p k => k p) .blank := by
  intro p k
  constructor
  · intro hk
    exact ⟨[], p.rest, rfl, rfl, by rwa [Place.past_nil]⟩
  · rintro ⟨_, after, hrest, rfl, hk⟩
    rw [List.nil_append] at hrest
    rwa [← hrest, Place.past_nil] at hk

theorem follows_step (test : Char → Bool) :
    Follows (fun p k => (p.step? test).bind k) (.step test) := by
  rintro ⟨before, rest, ahead, groups, rfl⟩ k
  cases rest with
  | nil => simp [Place.step?, Language.step]
  | cons c rest =>
    constructor
    · intro hk
      by_cases hc : test c = true
      · exact ⟨[c], rest, rfl, ⟨c, rfl, hc⟩, by
          simpa [Place.step?, Place.past, Place.start, Place.between, hc] using hk⟩
      · simp [Place.step?, hc] at hk
    · rintro ⟨_, after, hrest, ⟨d, rfl, hd⟩, hk⟩
      obtain ⟨rfl, rfl⟩ := List.cons.inj hrest
      simpa [Place.step?, Place.past, Place.start, Place.between, hd] using hk

theorem follows_seq {a b : Matcher} {la lb : Language} (ha : a.Follows la) (hb : b.Follows lb) :
    Follows (fun p k => a p fun q => b q k) (la.seq lb) := by
  intro p k
  rw [ha p]
  constructor
  · rintro ⟨first, rest, hrest, hfirst, hk⟩
    obtain ⟨second, after, rfl, hsecond, hk⟩ := (hb _ k).1 hk
    rw [Place.past_past] at hk
    exact ⟨first ++ second, after, by simpa using hrest, ⟨first, second, rfl, hfirst, hsecond⟩, hk⟩
  · rintro ⟨_, after, hrest, ⟨first, second, rfl, hfirst, hsecond⟩, hk⟩
    refine ⟨first, second ++ after, by simpa using hrest, hfirst, ?_⟩
    rw [hb]
    exact ⟨second, after, rfl, hsecond, by rwa [Place.past_past]⟩

theorem isSome_orElse {α : Type} {a b : Option α} :
    (a <|> b).isSome = true ↔ a.isSome = true ∨ b.isSome = true := by
  cases a <;> simp

theorem follows_alt {a b : Matcher} {la lb : Language} (ha : a.Follows la) (hb : b.Follows lb) :
    Follows (fun p k => a p k <|> b p k)
      fun before text after => la before text after ∨ lb before text after := by
  intro p k
  refine isSome_orElse.trans ?_
  rw [ha, hb]
  constructor
  · rintro (⟨text, after, hrest, htext, hk⟩ | ⟨text, after, hrest, htext, hk⟩)
    · exact ⟨text, after, hrest, .inl htext, hk⟩
    · exact ⟨text, after, hrest, .inr htext, hk⟩
  · rintro ⟨text, after, hrest, htext | htext, hk⟩
    · exact .inl ⟨text, after, hrest, htext, hk⟩
    · exact .inr ⟨text, after, hrest, htext, hk⟩

theorem follows_required {body : Matcher} {language : Language} (h : body.Follows language)
    (n : Nat) : (required body n).Follows (language.rounds n) := by
  induction n with
  | zero => exact follows_blank
  | succ n ih => exact (follows_seq h ih :)

/-- Further rounds, when there are enough left for every character ahead. A round that reads nothing
stops the repetition, and the same place is reached without it. -/
theorem follows_greedy {body : Matcher} {language : Language} (h : body.Follows language)
    {count : Nat} {left : Option Nat} {p : Place} {k : Place → Option Place}
    (hcount : p.ahead < count) :
    (greedy body count left p k).isSome = true ↔
      ∃ n text after, (∀ most, left = some most → n ≤ most) ∧ p.rest = text ++ after ∧
        language.rounds n p.before text after ∧ (k (p.past text after)).isSome = true := by
  -- a round that goes on has read a character, so the count stays above the characters ahead
  induction count generalizing left p with
  | zero => omega
  | succ count ih =>
    rw [greedy]
    split
    · rename_i hleft
      constructor
      · intro hk
        exact ⟨0, [], p.rest, by simp, rfl, rfl, by rwa [Place.past_nil]⟩
      · rintro ⟨n, text, after, hn, hrest, hrounds, hk⟩
        obtain rfl : n = 0 := by have := hn 0 hleft; omega
        exact (follows_blank p k).2 ⟨text, after, hrest, hrounds, hk⟩
    · rename_i hleft
      rw [isSome_orElse, h p]
      constructor
      · rintro (⟨first, rest, hrest, hfirst, hk⟩ | hk)
        · split at hk
          · rename_i hahead
            obtain ⟨n, second, after, hn, hrest', hsecond, hk⟩ := (ih (by omega)).1 hk
            obtain rfl : rest = second ++ after := hrest'
            refine ⟨n + 1, first ++ second, after, ?_, by simpa using hrest,
              ⟨first, second, rfl, hfirst, hsecond⟩, by rwa [Place.past_past] at hk⟩
            intro most hmost
            have := hn (most - 1) (by rw [hmost]; rfl)
            have : most ≠ 0 := fun hzero => hleft (by rw [hmost, hzero])
            omega
          · rename_i hahead
            rw [Place.ahead_past_lt hrest, ne_eq, Decidable.not_not] at hahead
            subst hahead
            exact ⟨0, [], rest, by simp, hrest, rfl, hk⟩
        · exact ⟨0, [], p.rest, by simp, rfl, rfl, by rwa [Place.past_nil]⟩
      · rintro ⟨n, text, after, hn, hrest, hrounds, hk⟩
        rcases Language.rounds_cases hrounds with
          rfl | ⟨m, first, second, hm, hnil, rfl, hfirst, hsecond⟩
        · exact .inr ((follows_blank p k).2 ⟨[], after, hrest, rfl, hk⟩)
        · have hahead : (p.past first (second ++ after)).ahead < p.ahead :=
            (Place.ahead_past_lt (by simpa using hrest)).2 hnil
          refine .inl ⟨first, second ++ after, by simpa using hrest, hfirst, ?_⟩
          rw [if_pos hahead, ih (by omega)]
          refine ⟨m, second, after, ?_, rfl, hsecond, by rwa [Place.past_past]⟩
          intro most hmost
          obtain ⟨limit, hlimit, rfl⟩ := Option.map_eq_some_iff.1 hmost
          have := hn limit hlimit
          omega

theorem follows_repetition {body : Matcher} {language : Language} (h : body.Follows language)
    (least : Nat) (greatest : Option Nat) :
    (repetition .greedy least greatest body).Follows fun before text after =>
      ∃ n, least ≤ n ∧ (∀ most, greatest = some most → n - least ≤ most - least) ∧
        language.rounds n before text after := by
  intro p k
  refine (follows_required h least p _).trans ?_
  constructor
  · rintro ⟨first, rest, hrest, hfirst, hk⟩
    obtain ⟨n, second, after, hn, hrest', hsecond, hk⟩ :=
      (follows_greedy h (Nat.lt_succ_self _)).1 hk
    obtain rfl : rest = second ++ after := hrest'
    refine ⟨first ++ second, after, by simpa using hrest, ⟨least + n, by omega, ?_, ?_⟩,
      by rwa [Place.past_past] at hk⟩
    · intro most hmost
      have := hn (most - least) (by rw [hmost]; rfl)
      omega
    · rw [Language.rounds_add]
      exact ⟨first, second, rfl, hfirst, hsecond⟩
  · rintro ⟨text, after, hrest, ⟨n, hleast, hmost, hrounds⟩, hk⟩
    obtain ⟨extra, rfl⟩ := Nat.exists_eq_add_of_le hleast
    rw [Language.rounds_add] at hrounds
    obtain ⟨first, second, rfl, hfirst, hsecond⟩ := hrounds
    refine ⟨first, second ++ after, by simpa using hrest, hfirst, ?_⟩
    rw [follows_greedy h (Nat.lt_succ_self _)]
    refine ⟨extra, second, after, ?_, rfl, hsecond, by rwa [Place.past_past]⟩
    intro most hleft
    obtain ⟨limit, hlimit, rfl⟩ := Option.map_eq_some_iff.1 hleft
    have := hmost limit hlimit
    omega

end Matcher

/-! ## Expressions -/

theorem Anchor.holds_start (flags : Flags) (place : Anchor) (p : Place) :
    place.holds flags { Place.start p.rest with before := p.before } = place.holds flags p := by
  cases place <;> rfl

theorem Node.run_follows {node : Node} (h : node.IsPlain = true) (flags : Flags) :
    (node.run flags).Follows (node.Reads flags) := by
  induction node generalizing flags with
  | empty => exact Matcher.follows_blank
  | seq a b iha ihb =>
    rw [IsPlain, Bool.and_eq_true] at h
    exact (Matcher.follows_seq (iha h.1 flags) (ihb h.2 flags) :)
  | alt a b iha ihb =>
    rw [IsPlain, Bool.and_eq_true] at h
    exact (Matcher.follows_alt (iha h.1 flags) (ihb h.2 flags) :)
  | one code => exact Matcher.follows_step _
  | notOne code => exact Matcher.follows_step _
  | any => exact Matcher.follows_step _
  | set negated items => exact Matcher.follows_step _
  | anchor place =>
    intro p k
    show (if place.holds flags p then k p else none).isSome = true ↔ _
    constructor
    · intro hk
      split at hk
      · rename_i hholds
        exact ⟨[], p.rest, rfl, ⟨rfl, by rwa [Anchor.holds_start]⟩, by rwa [Place.past_nil]⟩
      · cases hk
    · rintro ⟨_, after, hrest, ⟨rfl, hholds⟩, hk⟩
      obtain rfl : p.rest = after := hrest
      rw [Anchor.holds_start] at hholds
      rwa [if_pos hholds, ← p.past_nil]
  | options on off body ih => exact ih h (flags.withOptions on off)
  | repetition greed least greatest body ih =>
    rw [IsPlain, Bool.and_eq_true, beq_iff_eq] at h
    obtain ⟨rfl, hbody⟩ := h
    exact Matcher.follows_repetition (ih hbody flags) least greatest
  | group index body => cases h
  | atomic body => cases h
  | backref index width => cases h
  | condition index yes no => cases h
  | look behind negated body => cases h

theorem Node.searchFrom_iff {node : Node} (h : node.IsPlain = true) (flags : Flags)
    (before rest : List Char) (ahead : Nat) (hahead : ahead = rest.length) :
    node.searchFrom flags before rest ahead hahead = true ↔
      ∃ skipped text after, rest = skipped ++ text ++ after ∧
        node.Reads flags (skipped.reverse ++ before) text after := by
  induction rest generalizing before ahead with
  | nil =>
    rw [searchFrom, matchesAt, run_follows h flags]
    constructor
    · rintro ⟨text, after, hrest, htext, -⟩
      exact ⟨[], text, after, hrest, htext⟩
    · rintro ⟨skipped, text, after, hrest, htext⟩
      obtain ⟨hfront, rfl⟩ := List.append_eq_nil_iff.1 hrest.symm
      obtain ⟨rfl, rfl⟩ := List.append_eq_nil_iff.1 hfront
      exact ⟨[], [], rfl, htext, rfl⟩
  | cons c rest ih =>
    rw [searchFrom, Bool.or_eq_true, ih, matchesAt, run_follows h flags]
    constructor
    · rintro (⟨text, after, hrest, htext, -⟩ | ⟨skipped, text, after, rfl, htext⟩)
      · exact ⟨[], text, after, hrest, htext⟩
      · exact ⟨c :: skipped, text, after, rfl, by simpa using htext⟩
    · rintro ⟨skipped, text, after, hrest, htext⟩
      cases skipped with
      | nil => exact .inl ⟨text, after, hrest, htext, rfl⟩
      | cons d skipped =>
        obtain ⟨rfl, rfl⟩ := List.cons.inj hrest
        exact .inr ⟨skipped, text, after, rfl, by simpa using htext⟩

theorem matchesStart_iff {regex : Regex} (h : regex.node.IsPlain = true) (text : List Char) :
    regex.matchesStart text = true ↔ ∃ found after, text = found ++ after ∧
      regex.node.Reads regex.flags [] found after := by
  rw [matchesStart, Node.matchesAt, Node.run_follows h]
  simp [Place.start, Place.between]

/-- A search finds what can be read somewhere in the text. -/
theorem matchesSomewhere_iff {regex : Regex} (h : regex.node.IsPlain = true) (text : List Char) :
    regex.matchesSomewhere text = true ↔ ∃ before found after, text = before ++ found ++ after ∧
      regex.node.Reads regex.flags before.reverse found after := by
  rw [matchesSomewhere, Node.search, Node.searchFrom_iff h]
  simp [Place.start, Place.between]

end HeaderRules.Regex
