import Hyperscript.Proofs.PureLowering

/-!
# What the call of an element is made of

The call for an element is built from its lowered parts by a few kinds of nodes. A property of nodes
that these kinds hand on from parts to wholes holds of the call if it holds of what the parts stand
for.
-/
namespace Hyperscript.Lowering

/-- The property is handed on by the nodes that a lowering makes. Identifiers have it if their names
are among the given ones, and calls of the helper if they merge one of the given lists of groups. -/
structure Closed (config : Config) (helper : Text) (Name : Text → Prop)
    (Merged : List PropGroup → Prop) (Holds : Node → Prop) : Prop where
  identifier : ∀ (place : Place) (name : Text), Name name → Holds ⟨place, .identifier name⟩
  this : ∀ place : Place, Holds ⟨place, .this⟩
  string : ∀ (place : Place) (value : Text), Holds ⟨place, .string value none⟩
  null : ∀ place : Place, Holds ⟨place, .null⟩
  member : ∀ (place : Place) (object property : Node) (computed : Bool), Holds object →
    Holds property → Holds ⟨place, .member object property computed⟩
  property : ∀ (place : Place) (key value : Node), Holds key → Holds value →
    Holds ⟨place, .objectProperty key value false false⟩
  object : ∀ (place : Place) (members : List Node), (∀ m ∈ members, Holds m) →
    Holds ⟨place, .objectExpression members⟩
  list : ∀ (place : Place) (items : List Node), (∀ m ∈ items, Holds m) →
    Holds ⟨place, .arrayExpression items⟩
  factory : ∀ (place : Place) (arguments : List Node) (pretty : Bool),
    (∀ m ∈ arguments, Holds m) →
    Holds ⟨place, .call (.plain (.identifier config.pragma)) arguments pretty⟩
  merge : ∀ groups : List PropGroup, Merged groups →
    (∀ g ∈ groups, Holds (g.expression config.grouping)) →
    Holds (PropGroup.mergeCall config.grouping groups helper)
  bucket : ∀ b : Bucket, Name b.name
  directive : Name "name" ∧ Name "value"

section Parts

variable (Name : Text → Prop) (Holds : Node → Prop)

/-- The value of the entry has the property, and so has its key. -/
structure Entry.Made (e : Entry) : Prop where
  name : ∀ name, e.name = some name → name.isValidIdentifier = true → Name name
  value : Holds e.value

def Attribute.Made : Attribute → Prop
  | .named _ name value =>
    (∀ text, jsxName? name.form = some text → Name text) ∧ Holds (Attribute.expression value)
  | .spread argument => Holds argument

def PropGroup.Made : PropGroup → Prop
  | .literal entries => ∀ e ∈ entries, e.Made Name Holds
  | .spread argument => Holds argument

def Section.Made : Section → Prop
  | .single e => e.Made Name Holds
  | .bucket _ members => ∀ m ∈ members, Holds m

/-- What the lowered parts of the element stand for has the property. -/
structure Element.Made (e : Element) : Prop where
  tag : e.name.Fits (fun _ => True) .absent .tag
  names : ∀ m ∈ e.name.walk, ∀ name, m.name? = some name → Name name
  attributes : ∀ a ∈ e.attributes, a.Made Name Holds
  children : ∀ argument ∈ Child.arguments e.children, Holds argument

end Parts

variable {config : Config} {helper : Text} {Name : Text → Prop} {Merged : List PropGroup → Prop}
  {Holds : Node → Prop}

/-- A name with the mark of properties of the document node is never an identifier. -/
theorem isValidIdentifier_domProps (name : Text) :
    (Attribute.domPropsMark ++ name).isValidIdentifier = false := by
  have dash : (CodePoint.ofChar '-').continuesIdentifier = false := by decide +kernel
  have inside : CodePoint.ofChar '-' ∈ Attribute.domPropsMark.tail := by decide
  obtain ⟨c, rest, mark⟩ : ∃ c rest, Attribute.domPropsMark = c :: rest := ⟨_, _, rfl⟩
  rw [mark] at inside ⊢
  have broken : (rest ++ name).all CodePoint.continuesIdentifier = false := by
    rw [List.all_eq_false]
    exact ⟨_, List.mem_append_left name inside, by simp [dash]⟩
  simp [Text.isValidIdentifier, Text.isIdentifierName, broken]

theorem made_entry {rule : PropRule} {tag : Descriptor} {place : Place} {name : Node}
    {value : Option Node} (made : Attribute.Made Name Holds (.named place name value)) :
    (Attribute.entry rule tag place name value).Made Name Holds := by
  refine ⟨?_, made.2⟩
  intro text found valid
  simp only [Attribute.entry, Attribute.classify, Option.map_eq_some_iff, name?_named] at found
  obtain ⟨own, read, same⟩ := found
  split at same
  · subst same
    rw [isValidIdentifier_domProps] at valid
    cases valid
  · exact same ▸ made.1 own read

theorem made_close {entries : List Entry} (made : ∀ e ∈ entries, e.Made Name Holds) :
    ∀ g ∈ PropGroup.close entries, g.Made Name Holds := by
  cases entries with
  | nil => exact fun g hg => absurd hg List.not_mem_nil
  | cons e rest =>
    intro g hg
    rw [List.mem_singleton.mp hg]
    exact made

/-- Every group is made of the attributes. -/
theorem made_split {rule : PropRule} {tag : Descriptor} {pending : List Entry}
    {attributes : List Attribute} (before : ∀ e ∈ pending, e.Made Name Holds)
    (made : ∀ a ∈ attributes, a.Made Name Holds) :
    ∀ g ∈ PropGroup.split rule tag pending attributes, g.Made Name Holds := by
  induction attributes generalizing pending with
  | nil => exact made_close before
  | cons a rest ih =>
    have own := made a List.mem_cons_self
    have others := fun b hb => made b (List.mem_cons_of_mem a hb)
    cases a with
    | spread argument =>
      intro g hg
      rcases List.mem_append.mp hg with first | later
      · exact made_close before g first
      · rcases List.mem_cons.mp later with rfl | after
        · exact own
        · exact ih (fun e he => absurd he List.not_mem_nil) others g after
    | named place name value =>
      refine ih ?_ others
      intro e he
      rcases List.mem_append.mp he with old | new
      · exact before e old
      · rw [List.mem_singleton.mp new]
        exact made_entry own

/-- The head of an element has no attributes but those of the element. -/
theorem mem_attributes_of_head {e : Element} {customTag : Option Text} {a : Attribute}
    (h : a ∈ (e.head customTag).attributes) : a ∈ e.attributes := by
  simp only [Element.head] at h
  split at h
  · rename_i target attributes found
    simp only [Tag.custom?] at found
    split at found
    · obtain ⟨text, -, same⟩ := Option.map_eq_some_iff.mp found
      cases same
      exact (List.mem_filter.mp h).1
    · cases found
  · split at h <;> exact h

namespace Closed

/-- The names in a tag become identifiers, members of them, or strings. -/
theorem tag (closed : Closed config helper Name Merged Holds) {n : Node} {r : Role}
    (fits : n.Fits (fun _ => True) .absent r) (role : r = .tag ∨ r = .markupName)
    (names : ∀ m ∈ n.walk, ∀ name, m.name? = some name → Name name) (isProperty : Bool) :
    Holds (Tag.expression isProperty n) := by
  induction fits generalizing isProperty with
  | @intro r place form plays keeps parts ih =>
    have below {c : Node} (hc : c ∈ form.children) : ∀ m ∈ c.walk, ∀ name,
        m.name? = some name → Name name := fun m hm =>
      names m (Node.mem_walk_of_mem_children hc hm)
    cases form
    case jsxIdentifier name =>
      simp only [Tag.expression]
      split
      · exact closed.this place
      · split
        · exact closed.identifier place name (names _ (Node.self_mem_walk _) name rfl)
        · exact closed.string place name
    case jsxMember object property =>
      have first := ih (.tag, object) (by simp) (.inl rfl) (below (by simp)) false
      have second := ih (.markupName, property) (by simp) (.inr rfl) (below (by simp)) true
      exact closed.member place _ _ _ first second
    all_goals rcases role with rfl | rfl <;> cases plays

theorem entry (closed : Closed config helper Name Merged Holds) {e : Entry}
    (made : e.Made Name Holds) :
    Holds e.toNode := by
  have key : Holds e.key := by
    rw [Entry.key]
    split
    · rename_i name found
      split
      · rename_i valid
        exact closed.identifier _ _ (made.name name found valid)
      · exact closed.string _ _
    · exact closed.null _
  exact closed.property _ _ _ key made.value

/-- The member that an entry becomes in a bucket. -/
theorem bucketMember (closed : Closed config helper Name Merged Holds) {e : Entry} {b : Bucket}
    {member : Node} (made : e.Made Name Holds) (h : e.member? = some (b, member)) :
    Holds member := by
  have renamed (name : Text) : Holds (e.renamed name) :=
    closed.property _ _ _ (closed.string _ _) made.value
  have directive (name : Text) : Holds (e.directive name) := by
    apply closed.object
    simp only [List.forall_mem_cons]
    refine ⟨?_, ?_, fun m hm => absurd hm List.not_mem_nil⟩
    · exact closed.property _ _ _ (closed.identifier _ _ closed.directive.1) (closed.string _ _)
    · exact closed.property _ _ _ (closed.identifier _ _ closed.directive.2) made.value
  simp only [Entry.member?] at h
  split at h <;> cases h
  · exact renamed _
  · exact directive _
  · exact closed.entry made
  · exact renamed _

theorem put {b : Bucket} {member : Node} {sections : List Section} (new : Holds member)
    (made : ∀ s ∈ sections, s.Made Name Holds) :
    ∀ s ∈ Section.put b member sections, s.Made Name Holds := by
  induction sections with
  | nil =>
    intro s hs
    rw [List.mem_singleton.mp hs]
    exact fun m hm => List.mem_singleton.mp hm ▸ new
  | cons first rest ih =>
    have own := made first List.mem_cons_self
    have others := fun s hs => made s (List.mem_cons_of_mem first hs)
    have later := ih others
    cases first with
    | single e => exact List.forall_mem_cons.mpr ⟨own, later⟩
    | bucket other members =>
      rw [Section.put]
      split
      · refine List.forall_mem_cons.mpr ⟨?_, others⟩
        intro m hm
        rcases List.mem_append.mp hm with old | last
        · exact own m old
        · exact List.mem_singleton.mp last ▸ new
      · exact List.forall_mem_cons.mpr ⟨own, later⟩

theorem sections (closed : Closed config helper Name Merged Holds) {entries : List Entry}
    (made : ∀ e ∈ entries, e.Made Name Holds) {before : List Section}
    (old : ∀ s ∈ before, s.Made Name Holds) :
    ∀ s ∈ entries.foldl Section.add before, s.Made Name Holds := by
  induction entries generalizing before with
  | nil => exact old
  | cons e rest ih =>
    have own := made e List.mem_cons_self
    apply ih (fun f hf => made f (List.mem_cons_of_mem e hf))
    rw [Section.add]
    split
    · intro s hs
      rcases List.mem_append.mp hs with first | last
      · exact old s first
      · rw [List.mem_singleton.mp last]
        exact own
    · rename_i b member found
      exact put (closed.bucketMember own found) old

theorem sectionNode (closed : Closed config helper Name Merged Holds) {s : Section}
    (made : s.Made Name Holds) : Holds s.toNode := by
  cases s with
  | single e => exact closed.entry made
  | bucket b members =>
    have container : Holds (Section.container b members) := by
      cases b
      case directives => exact closed.list _ _ made
      all_goals exact closed.object _ _ made
    exact closed.property _ _ _ (closed.identifier _ _ (closed.bucket b)) container

theorem groupExpression (closed : Closed config helper Name Merged Holds) {g : PropGroup}
    (made : g.Made Name Holds) : Holds (g.expression config.grouping) := by
  cases g with
  | spread argument => exact made
  | literal entries =>
    simp only [PropGroup.expression, Grouping.object]
    split
    · apply closed.object
      intro m hm
      obtain ⟨s, hs, rfl⟩ := List.mem_map.mp hm
      exact closed.sectionNode
        (closed.sections made (fun s hs => absurd hs List.not_mem_nil) s hs)
    · apply closed.object
      intro m hm
      obtain ⟨e, he, rfl⟩ := List.mem_map.mp hm
      exact closed.entry (made e he)

theorem props (closed : Closed config helper Name Merged Holds) {groups : List PropGroup}
    (made : ∀ g ∈ groups, g.Made Name Holds) (merged : 1 < groups.length → Merged groups) :
    Holds (PropGroup.props config helper groups) := by
  have each : ∀ g ∈ groups, Holds (g.expression config.grouping) := fun g hg =>
    closed.groupExpression (made g hg)
  match groups with
  | [] => exact closed.null _
  | [group] => exact each group List.mem_cons_self
  | first :: second :: rest => exact closed.merge _ (merged (by simp)) each

/-- The tag of an element and the attributes that are left for it. -/
theorem head (closed : Closed config helper Name Merged Holds) {e : Element}
    (made : e.Made Name Holds) :
    Holds (e.head config.customTag).tag ∧
      ∀ a ∈ (e.head config.customTag).attributes, a.Made Name Holds := by
  refine ⟨?_, fun a ha => made.attributes a (mem_attributes_of_head ha)⟩
  have tag := closed.tag made.tag (.inl rfl) made.names false
  simp only [Element.head]
  split
  · exact closed.string _ _
  · split
    · dsimp only
      split
      · exact closed.string _ _
      · exact tag
    · exact tag

/-- The call for an element has the property. -/
theorem lowered (closed : Closed config helper Name Merged Holds) {e : Element}
    (made : e.Made Name Holds) (merged : 1 < (e.groups config).length → Merged (e.groups config)) :
    Holds (e.lowered config helper) := by
  obtain ⟨tag, attributes⟩ := closed.head made
  have groups : ∀ g ∈ e.groups config, g.Made Name Holds :=
    made_split (fun e he => absurd he List.not_mem_nil) attributes
  have props := closed.props groups merged
  apply closed.factory
  simp only [List.forall_mem_cons]
  refine ⟨tag, props, ?_⟩
  split
  · exact fun m hm => absurd hm List.not_mem_nil
  · intro m hm
    rw [List.mem_singleton.mp hm]
    exact closed.list _ _ made.children

end Closed

end Hyperscript.Lowering
