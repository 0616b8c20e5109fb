import Hyperscript.Proofs.Idempotence
import Hyperscript.Proofs.LoweringCount

/-!
# The tag that a custom tag stands for

An element with the custom tag is lowered as if it had been written with the tag that its `is`
names, and without any `is`. The name decides how the attributes are classified and grouped before
it shows in the call, so the calls agree in everything but the places of the two elements. What is
left out holds no element: the run counts and imports the same.
-/
namespace Hyperscript.Lowering

namespace Tag

/-- The text of the first `is` that has a string for its value, and not an empty one. -/
def target? (attributes : List Attribute) : Option Text :=
  attributes.findSome? fun a => if isTarget a then a.string?.filter (!·.isEmpty) else none

/-- An `is` among the nodes of attributes. -/
def isTargetNode (n : Node) : Bool := isTarget (Attribute.ofNode n)

section Targets

variable {attributes : List Attribute} {target : Text}

theorem custom?_of_target (found : target? attributes = some target) (tag : Text) :
    custom? (some tag) (some tag) attributes =
      some (target, attributes.filter (!isTarget ·)) := by
  rw [custom?, if_pos (by simp), ← target?, found, Option.map_some]

/-- A tag stands for itself if there is no `is`. -/
theorem custom?_of_none (none : ∀ a ∈ attributes, isTarget a = false) (tag name : Option Text) :
    custom? tag name attributes = .none := by
  have nothing : target? attributes = .none := by
    rw [target?, List.findSome?_eq_none_iff]
    intro a ha
    rw [none a ha]
    rfl
  rw [custom?, ← target?, nothing]
  exact ite_self _

theorem isTarget_map {f : Node → Node} (keeps : KeepsNames f) (a : Attribute) :
    isTarget (a.map f) = isTarget a := by
  rw [isTarget, keeps.name?_map, isTarget]

theorem target?_map {f : Node → Node} (keeps : KeepsNames f) (attributes : List Attribute) :
    target? (attributes.map (Attribute.map f)) = target? attributes := by
  simp only [target?, List.findSome?_map, Function.comp_def, isTarget_map keeps,
    keeps.string?_map]

theorem filter_map {f : Node → Node} (keeps : KeepsNames f) (attributes : List Attribute) :
    (attributes.map (Attribute.map f)).filter (!isTarget ·) =
      (attributes.filter (!isTarget ·)).map (Attribute.map f) := by
  rw [List.filter_map]
  simp only [Function.comp_def, isTarget_map keeps]

theorem plainName?_of_name (place : Place) {name : Text} (other : name ≠ "this") :
    plainName? (expression false ⟨place, .jsxIdentifier name⟩) = some name := by
  rw [plainName?_expression, tagName?, if_neg other]

end Targets

end Tag

/-- The custom tag, and a tag that is looked up by name. -/
structure Escapes (config : Config) (tag target : Text) : Prop where
  custom : config.customTag = some tag
  tag_ne : tag ≠ "this"
  target_ne : target ≠ "this"
  byName : Tag.isByName target = true

/-- An element whose tag is a name. -/
def tagged (place namePlace : Place) (name : Text) (attributes children : List Node)
    (closes : Bool) : Node :=
  ⟨place, .jsxElement ⟨namePlace, .jsxIdentifier name⟩ attributes children closes⟩

section Calls

variable {config : Config} {tag target : Text} {place place' namePlace namePlace' : Place}
  {attributes : List Attribute} {children : List Node}

/-- The custom tag gives way to its target. -/
theorem head_of_custom (escapes : Escapes config tag target)
    (found : Tag.target? attributes = some target) :
    (Element.mk place ⟨namePlace, .jsxIdentifier tag⟩ attributes children).head config.customTag =
      ⟨⟨namePlace, .string target none⟩, some target, attributes.filter (!Tag.isTarget ·),
        true⟩ := by
  simp only [Element.head, Tag.plainName?_of_name namePlace escapes.tag_ne, escapes.custom,
    Tag.custom?_of_target found]

/-- A tag that is looked up by name is a string, as a target is. -/
theorem head_of_target (escapes : Escapes config tag target) :
    (Element.mk place ⟨namePlace, .jsxIdentifier target⟩
        (attributes.filter (!Tag.isTarget ·)) children).head config.customTag =
      ⟨⟨namePlace, .string target none⟩, some target, attributes.filter (!Tag.isTarget ·),
        false⟩ := by
  have without : ∀ a ∈ attributes.filter (!Tag.isTarget ·), Tag.isTarget a = false := by simp
  simp only [Element.head, Tag.plainName?_of_name namePlace escapes.target_ne,
    Tag.custom?_of_none without, escapes.byName, if_true]

theorem groups_of_custom (escapes : Escapes config tag target)
    (found : Tag.target? attributes = some target) :
    (Element.mk place ⟨namePlace, .jsxIdentifier tag⟩ attributes children).groups config =
      (Element.mk place' ⟨namePlace', .jsxIdentifier target⟩
        (attributes.filter (!Tag.isTarget ·)) children).groups config := by
  rw [Element.groups, Element.groups, head_of_custom escapes found, head_of_target escapes]
  rfl

/-- The calls for both tags differ in nothing but the places of the elements and their names. -/
theorem lowered_of_custom (escapes : Escapes config tag target)
    (found : Tag.target? attributes = some target) (helper : Text) :
    ∃ rest pretty,
      (Element.mk place ⟨namePlace, .jsxIdentifier tag⟩ attributes children).lowered config helper =
        ⟨place, .call (.plain (.identifier config.pragma))
          (⟨namePlace, .string target none⟩ :: rest) pretty⟩ ∧
      (Element.mk place' ⟨namePlace', .jsxIdentifier target⟩
          (attributes.filter (!Tag.isTarget ·)) children).lowered config helper =
        ⟨place', .call (.plain (.identifier config.pragma))
          (⟨namePlace', .string target none⟩ :: rest) pretty⟩ := by
  rw [Element.lowered, Element.lowered, groups_of_custom escapes found,
    head_of_custom escapes found, head_of_target escapes]
  exact ⟨_, _, rfl, rfl⟩

end Calls

section Trees

variable {config : Config} {tag target : Text} {attributes children : List Node}

theorem ofNode_filter (attributes : List Node) :
    (attributes.filter (!Tag.isTargetNode ·)).map Attribute.ofNode =
      (attributes.map Attribute.ofNode).filter (!Tag.isTarget ·) := by
  rw [List.filter_map]
  rfl

theorem ofNode?_tagged (place namePlace : Place) (name : Text) (closes : Bool) :
    Element.ofNode? (tagged place namePlace name attributes children closes) =
      some ⟨place, ⟨namePlace, .jsxIdentifier name⟩, attributes.map Attribute.ofNode, children⟩ :=
  rfl

/-- The parts of an element are lowered, and its name stays as it is. -/
theorem pureLowering_tagged (helper : Text) (place namePlace : Place) (name : Text)
    (closes : Bool) :
    pureLowering config helper (tagged place namePlace name attributes children closes) =
      (Element.mk place ⟨namePlace, .jsxIdentifier name⟩
        ((attributes.map Attribute.ofNode).map (Attribute.map (pureLowering config helper)))
        (children.map (pureLowering config helper))).lowered config helper := by
  have same : pureLowering config helper ⟨namePlace, .jsxIdentifier name⟩ =
      ⟨namePlace, .jsxIdentifier name⟩ := pureLowering_of_not_element config helper rfl
  rw [pureLowering_element config helper (ofNode?_tagged place namePlace name closes),
    Element.map, same]

theorem pureLowering_custom (escapes : Escapes config tag target)
    (found : Tag.target? (attributes.map Attribute.ofNode) = some target) (helper : Text)
    (children : List Node) (place place' namePlace namePlace' : Place) (closes closes' : Bool) :
    ∃ rest pretty,
      pureLowering config helper (tagged place namePlace tag attributes children closes) =
        ⟨place, .call (.plain (.identifier config.pragma))
          (⟨namePlace, .string target none⟩ :: rest) pretty⟩ ∧
      pureLowering config helper (tagged place' namePlace' target
          (attributes.filter (!Tag.isTargetNode ·)) children closes') =
        ⟨place', .call (.plain (.identifier config.pragma))
          (⟨namePlace', .string target none⟩ :: rest) pretty⟩ := by
  have keeps := pureLowering_keepsNames config helper
  rw [pureLowering_tagged, pureLowering_tagged, ofNode_filter, ← Tag.filter_map keeps]
  exact lowered_of_custom escapes ((Tag.target?_map keeps _).trans found) helper

theorem isMergeSite_custom (escapes : Escapes config tag target)
    (found : Tag.target? (attributes.map Attribute.ofNode) = some target)
    (children : List Node) (place place' namePlace namePlace' : Place) (closes closes' : Bool) :
    isMergeSite config (tagged place namePlace tag attributes children closes) =
      isMergeSite config (tagged place' namePlace' target
        (attributes.filter (!Tag.isTargetNode ·)) children closes') := by
  rw [isMergeSite, isMergeSite, ofNode?_tagged, ofNode?_tagged, ofNode_filter, Option.any_some,
    Option.any_some, groups_of_custom escapes found]

end Trees

section Counts

variable {config : Config} {test : Node → Bool} {attributes : List Node}

theorem ofElements_isElement : OfElements Node.isElement := fun _ other => other

theorem ofElements_isMergeSite : OfElements (isMergeSite config) :=
  fun _ other => isMergeSite_of_not_element config other

/-- What is left out does not count. -/
theorem OfElements.countP_filter (only : OfElements test)
    (plain : ∀ a ∈ attributes, Tag.isTargetNode a = true → ∀ m ∈ a.walk, m.isElement = false) :
    ((attributes.filter (!Tag.isTargetNode ·)).flatMap Node.walk).countP test =
      (attributes.flatMap Node.walk).countP test := by
  induction attributes with
  | nil => rfl
  | cons a rest ih =>
    have others := ih fun b hb => plain b (List.mem_cons_of_mem a hb)
    rw [List.flatMap_cons, List.countP_append, ← others]
    cases target : Tag.isTargetNode a with
    | true =>
      have none : a.walk.countP test = 0 := List.countP_eq_zero.mpr fun m hm => by
        rw [only m (plain a List.mem_cons_self target m hm)]
        exact Bool.false_ne_true
      rw [List.filter_cons_of_neg (by simp [target]), none, Nat.zero_add]
    | false =>
      rw [List.filter_cons_of_pos (by simp [target]), List.flatMap_cons, List.countP_append]

/-- A name counts for nothing, so an element counts for itself and its attributes and children. -/
theorem OfElements.countP_tagged (only : OfElements test) (place namePlace : Place) (name : Text)
    (children : List Node) (closes : Bool) :
    (tagged place namePlace name attributes children closes).walk.countP test =
      (if test (tagged place namePlace name attributes children closes) then 1 else 0) +
        (attributes.flatMap Node.walk).countP test + (children.flatMap Node.walk).countP test := by
  have own : (Node.mk namePlace (.jsxIdentifier name)).walk.countP test = 0 := by
    rw [only.countP_walk _ _ rfl]
    rfl
  rw [Node.walk_eq, List.countP_cons]
  simp only [tagged, Node.children, Form.children, List.flatMap_append, List.flatMap_cons,
    List.flatMap_nil, List.append_nil, List.countP_append, own]
  omega

theorem any_eq_of_countP_eq {α : Type} {test : α → Bool} {first second : List α}
    (same : first.countP test = second.countP test) : first.any test = second.any test := by
  rw [Bool.eq_iff_iff, List.any_eq_true, List.any_eq_true, ← List.countP_pos_iff,
    ← List.countP_pos_iff, same]

/-- The progress of a run shows only how many elements and merge sites there are. -/
theorem progress_eq {first second : Node}
    (elements : first.walk.countP Node.isElement = second.walk.countP Node.isElement)
    (sites : first.walk.countP (isMergeSite config) = second.walk.countP (isMergeSite config))
    (p : Progress) :
    let left := first.postorder.foldl (Progress.after config) p
    let right := second.postorder.foldl (Progress.after config) p
    left.registry = right.registry ∧ left.mergeSites = right.mergeSites ∧
      left.elements = right.elements := by
  obtain ⟨elements₁, sites₁, registry₁⟩ := foldl_after config first.postorder p
  obtain ⟨elements₂, sites₂, registry₂⟩ := foldl_after config second.postorder p
  have perm₁ := first.postorder_perm
  have perm₂ := second.postorder_perm
  rw [perm₁.countP_eq] at elements₁ sites₁
  rw [perm₂.countP_eq] at elements₂ sites₂
  rw [perm₁.any_eq] at registry₁
  rw [perm₂.any_eq] at registry₂
  refine ⟨?_, ?_, ?_⟩
  · rw [registry₁, registry₂, any_eq_of_countP_eq sites]
  · rw [sites₁, sites₂, sites]
  · rw [elements₁, elements₂, elements]

end Counts

/-- An `is` that has a string for its value, as a node. -/
theorem eq_of_isTargetNode {n : Node} {value : Text} (target : Tag.isTargetNode n = true)
    (string : (Attribute.ofNode n).string? = some value) :
    ∃ place namePlace valuePlace spelling,
      n = ⟨place, .jsxAttribute ⟨namePlace, .jsxIdentifier "is"⟩
        (some ⟨valuePlace, .string value spelling⟩)⟩ := by
  obtain ⟨place, form⟩ := n
  cases form <;> try cases string
  case jsxAttribute name content =>
    obtain ⟨namePlace, name⟩ := name
    cases name <;> try cases target
    cases content with
    | none => cases string
    | some content =>
      obtain ⟨valuePlace, content⟩ := content
      cases content <;> cases string
      rename_i name spelling
      have own : name = Text.ofString "is" := by
        simpa [Tag.isTargetNode, Tag.isTarget, Attribute.ofNode, Attribute.name?] using target
      subst own
      exact ⟨place, namePlace, valuePlace, spelling, rfl⟩

/-- The first `is` with a text names the target. -/
theorem target?_of_first {before after : List Node} {place namePlace valuePlace : Place}
    {target : Text} {spelling : Option Text} (nonempty : target ≠ [])
    (first : ∀ place namePlace valuePlace value spelling,
      ⟨place, .jsxAttribute ⟨namePlace, .jsxIdentifier "is"⟩
        (some ⟨valuePlace, .string value spelling⟩)⟩ ∈ before → value = []) :
    Tag.target? ((before ++ ⟨place, .jsxAttribute ⟨namePlace, .jsxIdentifier "is"⟩
      (some ⟨valuePlace, .string target spelling⟩)⟩ :: after).map Attribute.ofNode) =
        some target := by
  have skipped : Tag.target? (before.map Attribute.ofNode) = none := by
    rw [Tag.target?, List.findSome?_eq_none_iff]
    intro a ha
    obtain ⟨n, hn, rfl⟩ := List.mem_map.mp ha
    split
    · rename_i isTarget
      rw [Option.filter_eq_none_iff]
      intro value string
      obtain ⟨_, _, _, _, rfl⟩ := eq_of_isTargetNode isTarget string
      simp [first _ _ _ _ _ hn]
    · rfl
  have own : Tag.isTarget (.named place ⟨namePlace, .jsxIdentifier "is"⟩
      (some ⟨valuePlace, .string target spelling⟩)) = true := by
    simp [Tag.isTarget, Attribute.name?]
  have kept : (some target).filter (!·.isEmpty) = some target := by
    simp [Option.filter, nonempty]
  rw [List.map_append, List.map_cons, Tag.target?, List.findSome?_append, ← Tag.target?, skipped,
    Option.none_or, List.findSome?_cons]
  simp only [Attribute.ofNode, own, if_true, Attribute.string?, kept]

/-- An element with the custom tag is lowered as an element with the tag that its first `is` with a
text names, without any `is`. From the same progress both runs end with the same call, but for the
places of the elements and of their names, and with the same imports and counts, if there is no
element in what is left out. -/
theorem custom_tag_is_its_target {config : Config} {tag target : Text}
    (escapes : Escapes config tag target) {attributes before after : List Node}
    {attributePlace isPlace valuePlace : Place} {spelling : Option Text}
    (split : attributes = before ++ ⟨attributePlace, .jsxAttribute ⟨isPlace, .jsxIdentifier "is"⟩
      (some ⟨valuePlace, .string target spelling⟩)⟩ :: after)
    (first : ∀ place namePlace valuePlace value spelling,
      ⟨place, .jsxAttribute ⟨namePlace, .jsxIdentifier "is"⟩
        (some ⟨valuePlace, .string value spelling⟩)⟩ ∈ before → value = [])
    (plain : ∀ a ∈ attributes, Tag.isTargetNode a = true → ∀ m ∈ a.walk, m.isElement = false)
    (children : List Node) (place place' namePlace namePlace' : Place) (closes closes' : Bool)
    (p : Progress) :
    ∃ (callee : Node) (rest : List Node) (pretty : Bool) (custom direct : Progress),
      (lowerElements config (tagged place namePlace tag attributes children closes)).run p =
        (⟨place, .call callee (⟨namePlace, .string target none⟩ :: rest) pretty⟩, custom) ∧
      (lowerElements config (tagged place' namePlace' target
          (attributes.filter (!Tag.isTargetNode ·)) children closes')).run p =
        (⟨place', .call callee (⟨namePlace', .string target none⟩ :: rest) pretty⟩, direct) ∧
      custom.registry = direct.registry ∧ custom.mergeSites = direct.mergeSites ∧
      custom.elements = direct.elements := by
  let helper := (p.registry.resolve config.mergeModule config.mergeExport config.mergeAlias).1
  have gives : p.registry.Gives config helper := rfl
  have nonempty : target ≠ [] := by
    rintro rfl
    exact absurd escapes.byName (by decide)
  have found : Tag.target? (attributes.map Attribute.ofNode) = some target :=
    split ▸ target?_of_first nonempty first
  obtain ⟨rest, pretty, left, right⟩ := pureLowering_custom escapes found helper children
    place place' namePlace namePlace' closes closes'
  have same (test : Node → Bool) (only : OfElements test)
      (own : test (tagged place namePlace tag attributes children closes) =
        test (tagged place' namePlace' target (attributes.filter (!Tag.isTargetNode ·)) children
          closes')) :
      (tagged place namePlace tag attributes children closes).walk.countP test =
        (tagged place' namePlace' target (attributes.filter (!Tag.isTargetNode ·)) children
          closes').walk.countP test := by
    rw [only.countP_tagged, only.countP_tagged, own, only.countP_filter plain]
  have counts := progress_eq (same Node.isElement ofElements_isElement rfl)
    (same (isMergeSite config) ofElements_isMergeSite
      (isMergeSite_custom escapes found children place place' namePlace namePlace' closes
        closes')) p
  have run (n : Node) : (lowerElements config n).run p =
      (pureLowering config helper n, n.postorder.foldl (Progress.after config) p) :=
    lowerElements_returns config helper n p gives
  refine ⟨.plain (.identifier config.pragma), rest, pretty, _, _, ?_, ?_, counts⟩
  · rw [run, left]
  · rw [run, right]

/-- The attributes of `<anyslot {...b} is="" is="input" value={v}/>`. -/
def escapingAttributes : List Node :=
  let is (value : Text) : Node :=
    .plain (.jsxAttribute (.plain (.jsxIdentifier "is")) (some (.plain (.string value none))))
  [.plain (.jsxSpreadAttribute (.plain (.identifier "b"))), is [], is "input",
    .plain (.jsxAttribute (.plain (.jsxIdentifier "value"))
      (some (.plain (.jsxExpressionContainer (.plain (.identifier "v"))))))]

theorem custom_tag_is_its_target_input :
    ∃ (callee : Node) (rest : List Node) (pretty : Bool) (custom direct : Progress),
      (lowerElements {} (tagged .nowhere .nowhere "anyslot" escapingAttributes [] true)).run
          ⟨⟨[], []⟩, 0, 0, []⟩ =
        (⟨.nowhere, .call callee (⟨.nowhere, .string "input" none⟩ :: rest) pretty⟩, custom) ∧
      (lowerElements {} (tagged .nowhere .nowhere "input"
          (escapingAttributes.filter (!Tag.isTargetNode ·)) [] true)).run ⟨⟨[], []⟩, 0, 0, []⟩ =
        (⟨.nowhere, .call callee (⟨.nowhere, .string "input" none⟩ :: rest) pretty⟩, direct) ∧
      custom.registry = direct.registry ∧ custom.mergeSites = 1 ∧ direct.mergeSites = 1 := by
  have escapes : Escapes {} "anyslot" "input" :=
    ⟨rfl, by decide +kernel, by decide +kernel, by decide +kernel⟩
  have plain : ∀ a ∈ escapingAttributes, Tag.isTargetNode a = true →
      ∀ m ∈ a.walk, m.isElement = false := by
    have each : escapingAttributes.all (fun a => a.walk.all (!·.isElement)) = true := by
      decide +kernel
    simp only [List.all_eq_true, Bool.not_eq_true'] at each
    exact fun a ha _ => each a ha
  have once : ((lowerElements {} (tagged .nowhere .nowhere "anyslot" escapingAttributes []
      true)).run ⟨⟨[], []⟩, 0, 0, []⟩).2.mergeSites = 1 := by decide +kernel
  have split : escapingAttributes = escapingAttributes.take 2 ++
      ⟨.nowhere, .jsxAttribute ⟨.nowhere, .jsxIdentifier "is"⟩
        (some ⟨.nowhere, .string "input" none⟩)⟩ :: escapingAttributes.drop 3 := rfl
  have first : ∀ place namePlace valuePlace value spelling,
      (⟨place, .jsxAttribute ⟨namePlace, .jsxIdentifier "is"⟩
        (some ⟨valuePlace, .string value spelling⟩)⟩ : Node) ∈ escapingAttributes.take 2 →
      value = [] := by
    simp +contextual [escapingAttributes, Node.plain]
  obtain ⟨callee, rest, pretty, custom, direct, left, right, registry, sites, -⟩ :=
    custom_tag_is_its_target escapes split first plain [] .nowhere .nowhere .nowhere .nowhere true
      true ⟨⟨[], []⟩, 0, 0, []⟩
  rw [left] at once
  exact ⟨callee, rest, pretty, custom, direct, left, right, registry, once, sites ▸ once⟩

end Hyperscript.Lowering
