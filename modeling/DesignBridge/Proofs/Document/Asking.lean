import DesignBridge.Document.Execute

/-! # Calls that ask

Every element can be asked for its attributes, its children and its text by calls that are refused
if its kind lacks the capability, and a sketch takes another one in by such a call. Here references
are followed, texts are looked for and trees are sketched by these calls alone. None of them is
refused, because each stands behind a look at what the element can do, so the answers are the same.
-/

namespace DesignBridge

namespace Document

/-- The elements that carry an identifier, each asked for its attribute. -/
def askCarriers (key oid : Runes) : List Element → Except DesignError (List Element)
  | [] => return []
  | e :: rest => do
    let value ← if e.can .attributes then attributeOf e key else .ok none
    let others ← askCarriers key oid rest
    return if value == some oid then e :: others else others

/-- The children that fit a segment, of elements that are asked for theirs. -/
def askNarrow (segment : Runes) : List Element → Except DesignError (List Element)
  | [] => return []
  | e :: rest => do
    let children ← if e.can .children then childrenOf e else .ok []
    let others ← askNarrow segment rest
    return (children.filter fun child => child.kind = .dom &&
      Selector.fits segment child.facet.tag) ++ others

/-- Goes along segments, layer by layer, by asking. -/
def askFollow (layer : List Element) (segments : List Runes) : Except DesignError (List Element) :=
  segments.foldlM (fun layer segment => askNarrow segment layer) layer

/-- What an identifier and a selector lead to, by asking. -/
def askResolve (d : Document) (key oid : Runes) (selector : Option Runes) :
    Except DesignError (Option Element) := do
  let elements ← d.currentElements
  let tagged ← askCarriers key oid elements
  let last ← if isBlankSelector selector then .ok tagged
    else askFollow tagged (Selector.segments (selector.getD ""))
  return last.head?

theorem askCarriers_eq (key oid : Runes) (elements : List Element) :
    askCarriers key oid elements = .ok (elements.filter (carries key oid)) := by
  induction elements with
  | nil => rfl
  | cons e rest ih =>
      unfold askCarriers
      cases hcan : e.can .attributes with
      | true =>
          have hvalue : attributeOf e key = .ok (e.facet.attributes.get? key) := by
            unfold attributeOf need
            rw [if_pos hcan]
            rfl
          have hcarries : carries key oid e = (e.facet.attributes.get? key == some oid) := by
            unfold carries
            rw [hcan, Bool.true_and]
          rw [if_pos rfl, hvalue, ih, List.filter_cons, hcarries]
          rfl
      | false =>
          have hcarries : carries key oid e = false := by
            unfold carries
            rw [hcan, Bool.false_and]
          rw [if_neg Bool.false_ne_true, ih, List.filter_cons, hcarries]
          rfl

theorem askNarrow_eq (segment : Runes) (layer : List Element) :
    askNarrow segment layer = .ok (narrow segment layer) := by
  induction layer with
  | nil => rfl
  | cons e rest ih =>
      unfold askNarrow
      cases hcan : e.can .children with
      | true =>
          have hchildren : childrenOf e = .ok e.children := by
            unfold childrenOf need
            rw [if_pos hcan]
            rfl
          rw [if_pos rfl, hchildren, ih, narrow, narrow, List.filter_cons, hcan, if_pos rfl,
            List.flatMap_cons]
          rfl
      | false =>
          rw [if_neg Bool.false_ne_true, ih, narrow, narrow, List.filter_cons, hcan,
            if_neg Bool.false_ne_true]
          rfl

theorem askFollow_eq (layer : List Element) (segments : List Runes) :
    askFollow layer segments = .ok (follow layer segments) := by
  unfold askFollow
  rw [funext fun layer => funext fun segment => askNarrow_eq segment layer]
  exact List.foldlM_pure

/-- Asking leads to where the reference leads. -/
theorem askResolve_eq (d : Document) (key oid : Runes) (selector : Option Runes) :
    d.askResolve key oid selector = d.resolve key oid selector := by
  unfold askResolve resolve findAll
  cases d.currentElements with
  | error e => rfl
  | ok elements =>
      dsimp only [Bind.bind, Except.bind, Except.map]
      rw [askCarriers_eq]
      dsimp only
      rw [askFollow_eq]
      cases selector with
      | none => rfl
      | some path =>
          cases isBlankSelector (some path) <;> rfl

end Document

namespace Interpreter

open Document

/-- The element whose text is set in place of a target, by asking. -/
def askTextTarget (target : Element) : Except DesignError (Option Element) := do
  let shown ← if target.can .text then textOf target else .ok none
  let children ← if target.can .children then childrenOf target else .ok []
  return if (Sketch.nonempty? shown).isSome then some target
    else children.find? fun child => child.kind = .text && child.can .text

theorem askTextTarget_eq (target : Element) :
    askTextTarget target = .ok (textTarget? target) := by
  unfold askTextTarget textTarget? textOf childrenOf need
  cases target.can .text <;> cases target.can .children <;> rfl

end Interpreter

namespace Sketch

mutual

/-- The sketch of a node, in which each sketch takes in those of its children one by one. -/
def build (key : Runes) : Node → Except DesignError Sketch
  | ⟨tag, oid, text, attributes, styles, children⟩ =>
    buildInside key ⟨.dom, some tag.text, attributesOf key oid attributes, styles.getD .empty,
      nonempty? text, []⟩ children

def buildInside (key : Runes) (s : Sketch) : Option (List Node) → Except DesignError Sketch
  | none => return s
  | some nodes => buildAll key s nodes

def buildAll (key : Runes) (s : Sketch) : List Node → Except DesignError Sketch
  | [] => return s
  | node :: rest => do
    let child ← build key node
    let grown ← s.append child
    buildAll key grown rest

end

mutual

/-- No sketch of a node refuses another one. -/
theorem build_eq (key : Runes) : (node : Node) → build key node = .ok (ofNode key node)
  | ⟨_, _, _, _, _, children⟩ => by
      rw [build, buildInside_eq key _ rfl children, ofNode]
      rfl

theorem buildInside_eq (key : Runes) (s : Sketch) (hs : s.kind = .dom) :
    (children : Option (List Node)) → buildInside key s children =
      .ok { s with children := s.children ++ ofChildren key children }
  | none => by
      obtain ⟨kind, tag, attributes, properties, text, built⟩ := s
      rw [buildInside, ofChildren, List.append_nil]
      rfl
  | some nodes => by
      rw [buildInside, buildAll_eq key s hs nodes, ofChildren]

theorem buildAll_eq (key : Runes) (s : Sketch) (hs : s.kind = .dom) : (nodes : List Node) →
    buildAll key s nodes = .ok { s with children := s.children ++ ofNodes key nodes }
  | [] => by
      obtain ⟨kind, tag, attributes, properties, text, built⟩ := s
      rw [buildAll, ofNodes, List.append_nil]
      rfl
  | node :: rest => by
      have happend : s.append (ofNode key node) =
          .ok { s with children := s.children ++ [ofNode key node] } := by
        unfold append
        rw [hs]
        rfl
      have hrest := buildAll_eq key { s with children := s.children ++ [ofNode key node] } hs rest
      rw [buildAll, build_eq key node]
      dsimp only [Bind.bind, Except.bind]
      rw [happend]
      dsimp only
      rw [hrest, ofNodes, List.append_assoc, List.singleton_append]

end

end Sketch

end DesignBridge
