import Imageboard.Proofs.Yaml.Layout

/-!
The graph of a YAML text. Where nobody writes a tag each node is what it looks like: a scalar without
quotes has the tag of its text, any other scalar is a text, and collections are plain ones.
-/
namespace Imageboard.Yaml

/-- A text in which nobody writes a tag. -/
def Untagged (text : List Char) : Prop := ∀ tag, .tag tag ∉ tokens text

/-- A node that there can be in such a text. -/
def Node.Fits (node : Node) : Prop :=
  match node.content with
  | .scalar text => node.tag = .text ∨
    ∃ s, text = some s ∧ node.tag = Tag.ofPlain s ∧ s.getLast? ≠ some '\n'
  | .sequence _ => node.tag = .sequence
  | .mapping _ => node.tag = .mapping

namespace Graph

/-- A graph of such nodes. -/
def Fits (g : Graph) : Prop :=
  ∀ (number : Nat) (node : Node), g[number]? = some node → node.Fits

/-- What holds all the while a document is read. Nodes that are known to have a tag keep it. -/
structure Reading.Fits (text : List Char) (known : List (Nat × Tag)) (r : Reading) : Prop where
  tokens : ∀ token ∈ r.tokens, token ∈ Yaml.tokens text
  nodes : Untagged text → r.nodes.Fits
  known : ∀ p ∈ known, r.nodes[p.1]?.map (·.tag) = some p.2

/-- Builders that keep to the text. -/
abbrev Gives {α : Type} (text : List Char) (known : List (Nat × Tag)) (x : Builder α)
    (Q : α → Prop) : Prop :=
  Keeps (Reading.Fits text known) (Refuses text) x Q

/-- Builders that keep to the text, whatever is known. -/
def Builds {α : Type} (text : List Char) (x : Builder α) : Prop :=
  ∀ known, Gives text known x fun _ => True

section
variable {text : List Char} {known : List (Nat × Tag)} {α β : Type} {Q : α → Prop}
  {x : Builder α} {f : α → Builder β}

theorem builds_pure (a : α) : Builds text (pure a) := fun _ => keeps_pure trivial

theorem Builds.bind (hx : Builds text x) (hf : ∀ a, Builds text (f a)) : Builds text (x >>= f) :=
  fun known => (hx known).bind fun a _ => hf a known

theorem builds_refuse : Builds text (refuse : Builder α) := fun _ _ _ => .inl rfl

/-! ## Tokens -/

theorem gives_peek : Gives text known peek (· ∈ tokens text) := by
  refine Keeps.bind keeps_get fun r hr => ?_
  split
  · exact fun _ _ => .inl rfl
  · rename_i failure others htokens
    have hmem : .trouble failure ∈ tokens text := hr.tokens _ (htokens ▸ List.mem_cons_self)
    exact keeps_throw (fits_tokens text _ hmem)
  · rename_i token others _ htokens
    exact keeps_pure (hr.tokens _ (htokens ▸ List.mem_cons_self))

theorem builds_peek : Builds text peek := fun _ => gives_peek.imp fun _ _ => trivial

theorem builds_skip : Builds text skip := fun _ =>
  keeps_modify fun _ hr =>
    ⟨fun token htoken => hr.tokens token (List.mem_of_mem_tail htoken), hr.nodes, hr.known⟩

theorem builds_accept (token : Token) : Builds text (accept token) := by
  refine builds_peek.bind fun next => ?_
  split
  · exact builds_skip.bind fun _ => builds_pure _
  · exact builds_pure _

theorem builds_expect (token : Token) : Builds text (expect token) := by
  refine (builds_accept token).bind fun taken => ?_
  split
  · exact builds_refuse
  · exact builds_pure _

theorem builds_isNextAmong (tokens : List Token) : Builds text (isNextAmong tokens) :=
  builds_peek.bind fun _ => builds_pure _

/-! ## Nodes -/

theorem leads_add {node : Node} (hnode : Untagged text → node.Fits) :
    Leads (Reading.Fits text known) (Refuses text) (add node)
      fun number r => r.Fits text ((number, node.tag) :: known) := by
  intro r hr
  have hpush : ∀ number, (r.nodes.push node)[number]? =
      if number = r.nodes.size then some node else r.nodes[number]? :=
    fun number => Array.getElem?_push
  refine ⟨hr.tokens, ?_, ?_⟩
  · intro huntagged number found hfound
    rw [hpush] at hfound
    split at hfound
    · exact Option.some.inj hfound ▸ hnode huntagged
    · exact hr.nodes huntagged number found hfound
  · refine List.forall_mem_cons.2 ⟨?_, fun p hp => ?_⟩
    · rw [hpush, if_pos rfl]
      rfl
    · rw [hpush]
      split
      · rename_i heq
        have hnone : r.nodes[p.1]? = none := by
          rw [heq]
          exact Array.getElem?_size
        have hknown := hr.known p hp
        rw [hnone] at hknown
        cases hknown
      · exact hr.known p hp

theorem leads_fill {number : Nat} {tag : Tag} {content : Content}
    (hnode : Untagged text → (⟨tag, content⟩ : Node).Fits) :
    Leads (Reading.Fits text ((number, tag) :: known)) (Refuses text) (fill number content)
      fun _ r => True ∧ r.Fits text known := by
  intro r hr
  have hknown := List.forall_mem_cons.1 hr.known
  have hmodify : ∀ other, (r.nodes.modify number fun node => { node with content })[other]? =
      if number = other then r.nodes[other]?.map fun node => { node with content }
      else r.nodes[other]? :=
    fun other => Array.getElem?_modify
  refine ⟨trivial, hr.tokens, ?_, fun p hp => ?_⟩
  · intro huntagged other found hfound
    rw [hmodify] at hfound
    split at hfound
    · rename_i heq
      obtain ⟨node, hother, rfl⟩ := Option.map_eq_some_iff.1 hfound
      have htag := hknown.1
      rw [heq, hother] at htag
      obtain rfl : node.tag = tag := Option.some.inj htag
      exact hnode huntagged
    · exact hr.nodes huntagged other found hfound
  · rw [hmodify]
    have hp := hknown.2 p hp
    split
    · rw [Option.map_map, ← hp]
      rfl
    · exact hp

theorem builds_add {node : Node} (hnode : Untagged text → node.Fits) : Builds text (add node) := by
  intro known r hr
  have hadded := leads_add hnode r hr
  exact hadded.imp fun found hfound =>
    ⟨trivial, hfound.tokens, hfound.nodes, (List.forall_mem_cons.1 hfound.known).2⟩

theorem builds_addEmpty : Builds text addEmpty :=
  builds_add fun _ => .inr ⟨[], rfl, rfl, by simp⟩

theorem builds_readAnchor : Builds text readAnchor := by
  refine builds_peek.bind fun token => ?_
  split
  · exact builds_skip.bind fun _ => builds_pure _
  · exact builds_pure _

theorem gives_readTag :
    Gives text known readTag fun tag => Untagged text → tag = none := by
  refine gives_peek.bind fun token htoken => ?_
  split
  · rename_i tag
    refine (builds_skip known).bind fun _ _ => keeps_pure fun huntagged => ?_
    exact absurd htoken (huntagged tag)
  · exact keeps_pure fun _ => rfl

theorem gives_readProperties :
    Gives text known readProperties fun properties => Untagged text → properties.tag = none := by
  refine (builds_readAnchor known).bind fun anchor _ => ?_
  split
  · exact gives_readTag.bind fun tag htag => keeps_pure htag
  · refine gives_readTag.bind fun tag htag => ?_
    exact (builds_readAnchor known).bind fun _ _ => keeps_pure htag

theorem gives_explicitTag {tag : Option WrittenTag} (htag : Untagged text → tag = none) :
    Gives text known (explicitTag tag) fun found => Untagged text → found = none := by
  cases tag with
  | none => exact keeps_pure fun _ => rfl
  | some tag =>
      have hresolved : Builds text (resolveTag tag) := by
        unfold resolveTag
        split
        · exact builds_pure _
        · refine fun known => Keeps.bind keeps_get fun r _ => ?_
          split
          · exact builds_refuse known
          · exact builds_pure _ known
      refine (hresolved known).bind fun found _ => keeps_pure fun huntagged => ?_
      cases htag huntagged

theorem builds_nameNext (anchor : Option (List Char)) : Builds text (nameNext anchor) := by
  unfold nameNext
  split
  · exact builds_pure _
  · rename_i name
    refine fun known => Keeps.bind keeps_get fun r _ => ?_
    have hnamed : Builds text (modify fun r =>
        { r with anchors := (name, r.nodes.size) :: r.anchors }) :=
      fun _ => keeps_modify fun _ hr => ⟨hr.tokens, hr.nodes, hr.known⟩
    split
    · exact (builds_refuse.bind fun _ => hnamed) known
    · exact hnamed known

theorem builds_addScalar (anchor : Option (List Char)) {tag : Tag} {content : Option (List Char)}
    (hnode : Untagged text → (⟨tag, .scalar content⟩ : Node).Fits) :
    Builds text (addScalar anchor tag content) :=
  (builds_nameNext anchor).bind fun _ => builds_add hnode

/-- A collection is added before its parts, and keeps its tag while they are read. -/
theorem builds_addCollection (anchor : Option (List Char)) {tag : Tag} {hold : List α → Content}
    (hnode : ∀ parts, Untagged text → (⟨tag, hold parts⟩ : Node).Fits)
    {readParts : Builder (List α)} (hparts : Builds text readParts) :
    Builds text (do
      nameNext anchor
      let number ← add ⟨tag, hold []⟩
      fill number (hold (← readParts))
      return number) := by
  refine (builds_nameNext anchor).bind fun _ => fun known => ?_
  refine Leads.bind (leads_add (hnode [])) fun number => ?_
  refine Leads.bind (hparts _) fun parts => ?_
  refine Leads.bind (Leads.of_imp (leads_fill (hnode parts)) fun r hr => hr.2) fun _ => ?_
  exact fun r hr => hr

theorem builds_addSequence (anchor : Option (List Char)) {tag : Tag}
    (htag : Untagged text → tag = .sequence) {readItems : Builder (List Nat)}
    (hitems : Builds text readItems) : Builds text (addSequence anchor tag readItems) := by
  have hnode (items : List Nat) (huntagged : Untagged text) :
      (⟨tag, .sequence items⟩ : Node).Fits :=
    htag huntagged
  exact builds_addCollection anchor hnode hitems

theorem builds_addMapping (anchor : Option (List Char)) {tag : Tag}
    (htag : Untagged text → tag = .mapping) {readEntries : Builder (List (Nat × Nat))}
    (hentries : Builds text readEntries) : Builds text (addMapping anchor tag readEntries) := by
  have hnode (entries : List (Nat × Nat)) (huntagged : Untagged text) :
      (⟨tag, .mapping entries⟩ : Node).Fits :=
    htag huntagged
  exact builds_addCollection anchor hnode hentries

/-! ## Documents -/

theorem builds_nodeUnless (tokens : List Token) {readNode : Builder Nat}
    (hnode : Builds text readNode) : Builds text (nodeUnless tokens readNode) := by
  refine (builds_isNextAmong tokens).bind fun isEmpty => ?_
  split
  · exact builds_addEmpty
  · exact hnode

theorem builds_valueUnless (tokens : List Token) {readNode : Builder Nat}
    (hnode : Builds text readNode) : Builds text (valueUnless tokens readNode) := by
  refine (builds_accept _).bind fun isGiven => ?_
  split
  · exact builds_nodeUnless tokens hnode
  · exact builds_addEmpty

theorem builds_separate (isFirst : Bool) : Builds text (separate isFirst) := by
  unfold separate
  split
  · exact builds_pure _
  · exact builds_expect _

theorem fits_scalar {isPlain : Bool} {content : Option (List Char)}
    (htoken : Token.Fits text (.scalar isPlain content)) :
    (⟨scalarTag none isPlain content, .scalar content⟩ : Node).Fits := by
  cases isPlain with
  | false => exact .inl rfl
  | true =>
      cases content with
      | none => exact .inl rfl
      | some s => exact .inr ⟨s, rfl, rfl, htoken⟩

mutual

theorem builds_readNode (position : Position) (fuel : Nat) :
    Builds text (readNode position fuel) := by
  cases fuel with
  | zero => exact builds_refuse
  | succ fuel =>
      unfold readNode
      refine fun known => gives_peek.bind fun token _ => ?_
      split
      · refine (builds_skip.bind fun _ => ?_ : Builds text _) known
        refine fun known => Keeps.bind keeps_get fun r _ => ?_
        split
        · exact builds_refuse known
        · exact builds_pure _ known
      refine gives_readProperties.bind fun properties hproperties => ?_
      refine (gives_explicitTag hproperties).bind fun tag htag => ?_
      have hcollection (otherwise : Tag) (huntagged : Untagged text) :
          collectionTag tag otherwise = otherwise := by
        rw [htag huntagged]
        rfl
      dsimp only
      refine gives_peek.bind fun token htoken => ?_
      split
      · refine (builds_skip.bind fun _ => ?_ : Builds text _) known
        exact builds_addScalar _ fun huntagged =>
          htag huntagged ▸ fits_scalar (fits_tokens text _ htoken)
      · exact (builds_skip.bind fun _ =>
          builds_addSequence _ (hcollection _) (builds_readFlowItems true fuel)) known
      · exact (builds_skip.bind fun _ =>
          builds_addMapping _ (hcollection _) (builds_readFlowEntries true fuel)) known
      split
      · exact builds_addSequence _ (hcollection _) (builds_readEntries fuel) known
      split
      · exact (builds_skip.bind fun _ =>
          builds_addSequence _ (hcollection _) (builds_readBlockItems fuel)) known
      split
      · exact (builds_skip.bind fun _ =>
          builds_addMapping _ (hcollection _) (builds_readBlockEntries fuel)) known
      split
      · have hempty : Token.Fits text (.scalar true (some [])) := by simp [Token.Fits]
        exact builds_addScalar _ (fun huntagged => htag huntagged ▸ fits_scalar hempty) known
      · exact builds_refuse known

theorem builds_readBlockItems (fuel : Nat) : Builds text (readBlockItems fuel) := by
  cases fuel with
  | zero => exact builds_refuse
  | succ fuel =>
      unfold readBlockItems
      refine (builds_accept _).bind fun more => ?_
      split
      · refine (builds_nodeUnless _ (builds_readNode .block fuel)).bind fun item => ?_
        exact (builds_readBlockItems fuel).bind fun _ => builds_pure _
      · exact (builds_expect _).bind fun _ => builds_pure _

theorem builds_readEntries (fuel : Nat) : Builds text (readEntries fuel) := by
  cases fuel with
  | zero => exact builds_refuse
  | succ fuel =>
      unfold readEntries
      refine (builds_accept _).bind fun more => ?_
      split
      · refine (builds_nodeUnless _ (builds_readNode .block fuel)).bind fun item => ?_
        exact (builds_readEntries fuel).bind fun _ => builds_pure _
      · exact builds_pure _

theorem builds_readBlockEntries (fuel : Nat) : Builds text (readBlockEntries fuel) := by
  cases fuel with
  | zero => exact builds_refuse
  | succ fuel =>
      unfold readBlockEntries
      refine (builds_accept _).bind fun more => ?_
      split
      · refine (builds_nodeUnless _ (builds_readNode .blockOrEntries fuel)).bind fun key => ?_
        refine (builds_valueUnless _ (builds_readNode .blockOrEntries fuel)).bind fun value => ?_
        exact (builds_readBlockEntries fuel).bind fun _ => builds_pure _
      · exact (builds_expect _).bind fun _ => builds_pure _

theorem builds_readFlowItems (isFirst : Bool) (fuel : Nat) :
    Builds text (readFlowItems isFirst fuel) := by
  cases fuel with
  | zero => exact builds_refuse
  | succ fuel =>
      unfold readFlowItems
      refine (builds_accept _).bind fun closed => ?_
      split
      · exact builds_pure _
      refine (builds_separate isFirst).bind fun _ => ?_
      refine (builds_accept _).bind fun closed => ?_
      split
      · exact builds_pure _
      refine (builds_accept _).bind fun isPair => ?_
      have hrest : ∀ item, Builds text (do return item :: (← readFlowItems false fuel)) :=
        fun _ => (builds_readFlowItems false fuel).bind fun _ => builds_pure _
      dsimp only
      split
      · refine (builds_addMapping none (fun _ => rfl) ?_).bind hrest
        refine (builds_nodeUnless _ (builds_readNode .flow fuel)).bind fun key => ?_
        exact (builds_valueUnless _ (builds_readNode .flow fuel)).bind fun _ => builds_pure _
      · exact (builds_readNode .flow fuel).bind hrest

theorem builds_readFlowEntries (isFirst : Bool) (fuel : Nat) :
    Builds text (readFlowEntries isFirst fuel) := by
  cases fuel with
  | zero => exact builds_refuse
  | succ fuel =>
      unfold readFlowEntries
      refine (builds_accept _).bind fun closed => ?_
      split
      · exact builds_pure _
      refine (builds_separate isFirst).bind fun _ => ?_
      refine (builds_accept _).bind fun closed => ?_
      split
      · exact builds_pure _
      refine (builds_accept _).bind fun isKey => ?_
      split
      · refine (builds_nodeUnless _ (builds_readNode .flow fuel)).bind fun key => ?_
        refine (builds_valueUnless _ (builds_readNode .flow fuel)).bind fun value => ?_
        exact (builds_readFlowEntries false fuel).bind fun _ => builds_pure _
      · refine (builds_readNode .flow fuel).bind fun key => ?_
        refine builds_addEmpty.bind fun value => ?_
        exact (builds_readFlowEntries false fuel).bind fun _ => builds_pure _

end

end

end Graph

end Imageboard.Yaml
