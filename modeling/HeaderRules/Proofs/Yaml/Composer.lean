import HeaderRules.Yaml.Document
import HeaderRules.Proofs.Outcome
/-!
# Putting nodes together

Reading nodes goes forward among the tokens, to the one that ends the text.
-/

namespace HeaderRules.Yaml

/-- A step of reading leaves some of the tokens to come, and adds none. -/
def Forward {α : Type} (m : Compose α) : Prop :=
  ∀ c a c', m.run c = .ok (a, c') → c'.tokens <:+ c.tokens

namespace Forward

variable {α β : Type}

theorem pure (a : α) : Forward (Pure.pure a) := by
  intro c b c' h
  obtain ⟨-, rfl⟩ := Prod.mk.inj (Except.ok.inj h)
  exact List.suffix_rfl

theorem throw (fault : Fault) : Forward (throw fault : Compose α) := by
  intro c b c' h
  cases h

theorem bind {m : Compose α} {f : α → Compose β} (hm : Forward m) (hf : ∀ a, Forward (f a)) :
    Forward (m >>= f) := by
  intro c b c' h
  obtain ⟨⟨a, next⟩, ha, h⟩ := Outcome.bind_eq_ok.1 h
  exact (hf a next b c' h).trans (hm c a next ha)

theorem get : Forward (get : Compose Composer) := by
  intro c a c' h
  obtain ⟨-, rfl⟩ := Prod.mk.inj (Except.ok.inj h)
  exact List.suffix_rfl

theorem modify {f : Composer → Composer} (hf : ∀ c, (f c).tokens <:+ c.tokens) :
    Forward (modify f : Compose PUnit) := by
  intro c a c' h
  obtain ⟨-, rfl⟩ := Prod.mk.inj (Except.ok.inj h)
  exact hf c

theorem ite {p : Prop} [Decidable p] {m n : Compose α} (hm : Forward m) (hn : Forward n) :
    Forward (if p then m else n) := by
  split
  · exact hm
  · exact hn

/-! ## Single tokens -/

theorem peek : Forward Compose.peek := by
  refine get.bind fun c => ?_
  split
  · exact pure _
  · exact get.bind fun c => throw c.fault

theorem advance : Forward Compose.advance := modify fun c => c.tokens.drop_suffix 1

theorem sees (tokens : List Token) : Forward (Compose.sees tokens) := peek.bind fun _ => pure _

theorem expect (token : Token) : Forward (Compose.expect token) :=
  peek.bind fun _ => advance.ite (throw _)

theorem accept (token : Token) : Forward (Compose.accept token) :=
  peek.bind fun _ => ite (advance.bind fun _ => pure _) (pure _)

/-! ## Properties and anchors -/

theorem readAnchor : Forward Compose.readAnchor := by
  refine peek.bind fun token => ?_
  split
  · exact advance.bind fun _ => pure _
  · exact pure _

theorem readTag : Forward Compose.readTag := by
  refine peek.bind fun token => ?_
  split
  · exact advance.bind fun _ => pure _
  · exact pure _

theorem fullName (t : TagText) : Forward (Compose.fullName t) := by
  unfold Compose.fullName
  split
  · exact pure _
  · refine get.bind fun c => ?_
    split
    · exact pure _
    · exact throw _

theorem readProperties : Forward Compose.readProperties := by
  refine readAnchor.bind fun first => readTag.bind fun tag => ?_
  have hname : Forward (tag.mapM Compose.fullName) := by
    cases tag with
    | none => exact pure _
    | some t => exact (fullName t).bind fun _ => pure _
  extract_lets go
  have hgo (anchor : Option String) : Forward (go anchor) := hname.bind fun name => pure _
  exact ite (readAnchor.bind hgo) ((pure first).bind hgo)

theorem checkAnchor (anchor : Option String) : Forward (Compose.checkAnchor anchor) := by
  unfold Compose.checkAnchor
  split
  · exact pure _
  · exact get.bind fun c => ite (throw _) (pure _)

theorem setAnchor (anchor : Option String) (target : Anchored) :
    Forward (Compose.setAnchor anchor target) := by
  unfold Compose.setAnchor
  split
  · exact pure _
  · exact modify fun c => List.suffix_rfl

theorem resolve (name : String) : Forward (Compose.resolve name) := by
  refine get.bind fun c => ?_
  split
  · exact throw _
  · exact pure _
  · exact pure _

theorem collection {anchor : Option String} {isMap : Bool} {read : Compose Node}
    (hread : Forward read) : Forward (Compose.collection anchor isMap read) := by
  refine (checkAnchor anchor).bind fun _ => (setAnchor _ _).bind fun _ => ?_
  exact hread.bind fun node => (setAnchor _ _).bind fun _ => pure node

theorem anchoredScalar (p : Properties) (plain : Bool) (text : RawText) :
    Forward (Compose.anchoredScalar p plain text) := by
  refine (checkAnchor p.anchor).bind fun _ => ?_
  exact (setAnchor _ _).bind fun _ => pure _

/-! ## Nodes -/

theorem optional {absent : List Token} {read : Compose Node} (hread : Forward read) :
    Forward (Compose.optional absent read) :=
  (sees absent).bind fun _ => ite (pure _) hread

end Forward

/-- Nodes and their parts are read forward, with some fuel. -/
structure Forwards (fuel : Nat) : Prop where
  node : ∀ place, Forward (Compose.node fuel place)
  content : ∀ place p, Forward (Compose.content fuel place p)
  blockItems : Forward (Compose.blockItems fuel)
  plainItems : Forward (Compose.plainItems fuel)
  blockEntries : Forward (Compose.blockEntries fuel)
  blockValue : Forward (Compose.blockValue fuel)
  flowItems : ∀ first, Forward (Compose.flowItems fuel first)
  flowEntries : ∀ first, Forward (Compose.flowEntries fuel first)
  flowValue : ∀ closing, Forward (Compose.flowValue fuel closing)

namespace Forwards

open Forward

theorem zero : Forwards 0 where
  node _ := Forward.throw _
  content _ _ := Forward.throw _
  blockItems := Forward.throw _
  plainItems := Forward.throw _
  blockEntries := Forward.throw _
  blockValue := Forward.throw _
  flowItems _ := Forward.throw _
  flowEntries _ := Forward.throw _
  flowValue _ := Forward.throw _

variable {fuel : Nat} (ih : Forwards fuel)

include ih

theorem node_succ (place : Place) : Forward (Compose.node (fuel + 1) place) := by
  refine peek.bind fun token => ?_
  split
  · exact advance.bind fun _ => resolve _
  · exact readProperties.bind fun p => ih.content place p

theorem content_succ (place : Place) (p : Properties) :
    Forward (Compose.content (fuel + 1) place p) := by
  refine peek.bind fun token => ?_
  split
  · exact advance.bind fun _ => anchoredScalar p _ _
  · exact collection (advance.bind fun _ => (ih.flowItems true).bind fun _ => Forward.pure _)
  · exact collection (advance.bind fun _ => (ih.flowEntries true).bind fun _ => Forward.pure _)
  · refine ite (collection (ih.plainItems.bind fun _ => Forward.pure _)) ?_
    refine ite (collection (advance.bind fun _ => ih.blockItems.bind fun _ => Forward.pure _)) ?_
    refine ite (collection (advance.bind fun _ => ih.blockEntries.bind fun _ => Forward.pure _)) ?_
    exact (anchoredScalar p true []).ite (Forward.throw _)

theorem blockItems_succ : Forward (Compose.blockItems (fuel + 1)) := by
  refine (accept .blockEntry).bind fun _ => ite ?_ ?_
  · exact (optional (ih.node .block)).bind fun _ => ih.blockItems.bind fun _ => Forward.pure _
  · exact (expect .blockEnd).bind fun _ => Forward.pure _

theorem plainItems_succ : Forward (Compose.plainItems (fuel + 1)) := by
  refine (accept .blockEntry).bind fun _ => ite ?_ (Forward.pure _)
  exact (optional (ih.node .block)).bind fun _ => ih.plainItems.bind fun _ => Forward.pure _

theorem blockEntries_succ : Forward (Compose.blockEntries (fuel + 1)) := by
  refine (accept .key).bind fun _ => ite ?_ ?_
  · refine (optional (ih.node .blockOrItems)).bind fun _ => ih.blockValue.bind fun _ => ?_
    exact ih.blockEntries.bind fun _ => Forward.pure _
  · exact (expect .blockEnd).bind fun _ => Forward.pure _

theorem blockValue_succ : Forward (Compose.blockValue (fuel + 1)) :=
  (accept .value).bind fun _ => ite (optional (ih.node .blockOrItems)) (Forward.pure _)

theorem flowItems_succ (first : Bool) : Forward (Compose.flowItems (fuel + 1) first) := by
  refine (accept .flowSequenceEnd).bind fun _ => ite (Forward.pure _) ?_
  extract_lets behindItem behindComma
  have hbehindItem (item : Node) : Forward (behindItem item) :=
    (ih.flowItems false).bind fun _ => Forward.pure _
  have hbehindComma (u : Unit) : Forward (behindComma u) := by
    refine (accept .flowSequenceEnd).bind fun _ => ite (Forward.pure _) ?_
    refine (accept .key).bind fun _ => ite ?_ ((ih.node .flow).bind hbehindItem)
    refine (optional (ih.node .flow)).bind fun key => ?_
    exact (ih.flowValue .flowSequenceEnd).bind fun value => (Forward.pure _).bind hbehindItem
  exact ite ((expect .flowEntry).bind hbehindComma) (hbehindComma ())

theorem flowEntries_succ (first : Bool) : Forward (Compose.flowEntries (fuel + 1) first) := by
  refine (accept .flowMappingEnd).bind fun _ => ite (Forward.pure _) ?_
  extract_lets behindEntry behindComma
  have hbehindEntry (entry : Node × Node) : Forward (behindEntry entry) :=
    (ih.flowEntries false).bind fun _ => Forward.pure _
  have hbehindComma (u : Unit) : Forward (behindComma u) := by
    refine (accept .flowMappingEnd).bind fun _ => ite (Forward.pure _) ?_
    refine (accept .key).bind fun _ => ite ?_ ?_
    · refine (optional (ih.node .flow)).bind fun key => ?_
      exact (ih.flowValue .flowMappingEnd).bind fun value => (Forward.pure _).bind hbehindEntry
    · exact (ih.node .flow).bind fun key => (Forward.pure _).bind hbehindEntry
  exact ite ((expect .flowEntry).bind hbehindComma) (hbehindComma ())

theorem flowValue_succ (closing : Token) : Forward (Compose.flowValue (fuel + 1) closing) :=
  (accept .value).bind fun _ => ite (optional (ih.node .flow)) (Forward.pure _)

end Forwards

theorem forwards (fuel : Nat) : Forwards fuel := by
  induction fuel with
  | zero => exact .zero
  | succ fuel ih =>
    exact {
      node := ih.node_succ
      content := ih.content_succ
      blockItems := ih.blockItems_succ
      plainItems := ih.plainItems_succ
      blockEntries := ih.blockEntries_succ
      blockValue := ih.blockValue_succ
      flowItems := ih.flowItems_succ
      flowEntries := ih.flowEntries_succ
      flowValue := ih.flowValue_succ }

/-! ## Documents -/

namespace Forward

theorem directives (fuel : Nat) (versioned : Bool) (handles : List (String × String)) :
    Forward (Compose.directives fuel versioned handles) := by
  induction fuel generalizing versioned handles with
  | zero => exact throw _
  | succ fuel ih =>
    refine peek.bind fun token => ?_
    split
    · extract_lets behindVersion
      have hbehind (u : Unit) : Forward (behindVersion u) := advance.bind fun _ => ih _ _
      exact ite ((throw _).bind hbehind) (hbehind ())
    · extract_lets behindHandle
      have hbehind (u : Unit) : Forward (behindHandle u) := advance.bind fun _ => ih _ _
      exact ite ((throw _).bind hbehind) (hbehind ())
    · exact advance.bind fun _ => ih _ _
    · exact pure _

theorem skipDocumentEnds (fuel : Nat) : Forward (Compose.skipDocumentEnds fuel) := by
  induction fuel with
  | zero => exact pure _
  | succ fuel ih => exact (accept .documentEnd).bind fun _ => ite ih (pure _)

theorem document (fuel : Nat) : Forward (Compose.document fuel) := by
  have hnode : Forward (do return some (← Compose.node fuel .block)) :=
    ((forwards fuel).node .block).bind fun _ => pure _
  refine peek.bind fun token => ?_
  split
  case h_1 => exact pure _
  -- a mark or a directive begins a document alike
  case h_2 | h_3 =>
    refine (directives fuel false []).bind fun handles => bind (modify ?_) fun _ => ?_
    · exact fun c => List.suffix_rfl
    refine (expect _).bind fun _ => peek.bind fun token => ?_
    split
    · exact pure _
    · exact pure _
    · exact pure _
    · exact pure _
    · exact hnode
  case h_4 => exact hnode

end Forward

theorem peek_eq_ok {c c' : Composer} {token : Token} (h : Compose.peek.run c = .ok (token, c')) :
    c' = c ∧ token ∈ c.tokens := by
  obtain ⟨tokens, fault, handles, anchors⟩ := c
  cases tokens with
  | nil => cases h
  | cons first rest =>
    obtain ⟨rfl, rfl⟩ := Prod.mk.inj (Except.ok.inj h)
    exact ⟨rfl, List.mem_cons_self⟩

/-- A document is read only up to the token that ends the text. -/
theorem streamEnd_mem_of_onlyDocument {fuel : Nat} {c c' : Composer} {root : Option Node}
    (h : (Compose.onlyDocument fuel).run c = .ok (root, c')) : .streamEnd ∈ c.tokens := by
  obtain ⟨⟨found, c₁⟩, hdocument, h⟩ := Outcome.bind_eq_ok.1 h
  obtain ⟨⟨_, c₂⟩, hends, h⟩ := Outcome.bind_eq_ok.1 h
  obtain ⟨⟨token, c₃⟩, hpeek, h⟩ := Outcome.bind_eq_ok.1 h
  have hsuffix : c₂.tokens <:+ c.tokens :=
    (Forward.skipDocumentEnds fuel _ _ _ hends).trans (Forward.document fuel _ _ _ hdocument)
  obtain ⟨-, hmem⟩ := peek_eq_ok hpeek
  dsimp only at h
  split at h
  · exact hsuffix.subset hmem
  · -- behind the only document there is another one, which is refused
    obtain ⟨⟨handles, c₄⟩, -, h⟩ := Outcome.bind_eq_ok.1 h
    obtain ⟨⟨other, c₅⟩, -, h⟩ := Outcome.bind_eq_ok.1 h
    cases h

theorem streamEnd_mem_of_ofTokens {s : TokenStream} {root : Option Node}
    (h : Node.ofTokens s = .ok root) : .streamEnd ∈ s.tokens := by
  obtain ⟨⟨found, c⟩, hfound, -⟩ := Outcome.bind_eq_ok.1 h
  exact streamEnd_mem_of_onlyDocument hfound

end HeaderRules.Yaml
