import Hyperscript.Proofs.ParsedExpression
import Hyperscript.Proofs.TagReference

/-!
# Closing tags

The names in the tags of an element are compared as texts. No name holds a dot or a colon, so a tag
can be read back off its text, and equal texts mean equal names at other places. Between its tags
an element has attributes and then children, and it is known of each part which of them it is.
-/
namespace Hyperscript

namespace Node

theorem name?_unplaced (n : Node) : n.unplaced.name? = n.name? := by
  obtain ⟨place, form⟩ := n
  rw [unplaced_mk]
  cases form <;> rfl

end Node

namespace Grammar

open Lowering (Tag.Names)

section Names

variable {c : CodePoint} {u v u' v' w : Text}

theorem Scan.isJsxName_take {t : Text} (found : jsxName t ≠ 0) :
    IsJsxName (t.take (jsxName t)) :=
  ⟨take_ne_nil rfl found,
    (whole_headed isNameStart isJsxNamePart).take (headed_le_length isNameStart isJsxNamePart t)⟩

theorem IsJsxName.all_isJsxNamePart (h : IsJsxName w) : ∀ c ∈ w, Scan.isJsxNamePart c = true := by
  obtain ⟨nonempty, whole⟩ := h
  cases w with
  | nil => exact absurd rfl nonempty
  | cons c more =>
    rw [Scan.jsxName, Scan.headed] at whole
    split at whole
    · rename_i start
      have first : Scan.isJsxNamePart c = true := by
        rw [Scan.isJsxNamePart, Scan.isNamePart_of_isNameStart start]
        rfl
      exact List.forall_mem_cons.mpr ⟨first, Scan.all_of_run (Nat.succ.inj whole)⟩
    · cases whole

theorem IsJsxName.notMem (h : IsJsxName w) (other : Scan.isJsxNamePart c = false) : c ∉ w :=
  fun inside => Bool.false_ne_true (other.symm.trans (h.all_isJsxNamePart c inside))

theorem IsJsxName.dot_notMem (h : IsJsxName w) : CodePoint.ofChar '.' ∉ w := h.notMem (by decide)

theorem IsJsxName.colon_notMem (h : IsJsxName w) : CodePoint.ofChar ':' ∉ w := h.notMem (by decide)

/-- A text is cut at the last of its separators in one way only. -/
theorem cut_unique (last : c ∉ v) (last' : c ∉ v') (same : u ++ c :: v = u' ++ c :: v') :
    u = u' ∧ v = v' := by
  have aligned {l r l' r' : Text} (own : c ∉ r) (split : ∃ more, l' = l ++ more ∧
      c :: r = more ++ c :: r') : l = l' ∧ r = r' := by
    obtain ⟨more, rfl, rest⟩ := split
    cases more with
    | nil => exact ⟨(List.append_nil l).symm, (List.cons.inj rest).2⟩
    | cons d more =>
      have behind : r = more ++ c :: r' := (List.cons.inj rest).2
      exact absurd (behind ▸ List.mem_append_right more List.mem_cons_self) own
  rcases List.append_eq_append_iff.mp same with split | split
  · exact aligned last split
  · exact (aligned last' split).imp Eq.symm Eq.symm

end Names

/-- A name, or a chain of members that starts with one. -/
def IsPath (n : Node) : Prop := ∃ root names, Tag.Names root names n

/-- The names that tags can have: a chain of members, or a name in a namespace. -/
inductive IsTag : Node → Prop
  | path {n : Node} : IsPath n → IsTag n
  | pair (place spacePlace namePlace : Place) {space name : Text} :
      IsJsxName space → IsJsxName name →
      IsTag ⟨place, .jsxNamespacedName ⟨spacePlace, .jsxIdentifier space⟩
        ⟨namePlace, .jsxIdentifier name⟩⟩

section Comparison

open Build (tagText)

variable {root root' : Text} {names names' : List Text} {n m : Node}

/-- The text of a tag does not depend on places. -/
theorem tagText_unplaced (n : Node) : tagText n.unplaced = tagText n := by
  induction n using Node.induction with
  | step n ih =>
    obtain ⟨place, form⟩ := n
    rw [Node.unplaced_mk]
    cases form
    case jsxMember object property =>
      have below := ih object (by simp [Node.children])
      simp only [Node.plain, Form.map, tagText, below, Node.name?_unplaced]
    case jsxNamespacedName space name =>
      simp only [Node.plain, Form.map, tagText, Node.name?_unplaced]
    all_goals rfl

theorem tagText_member (place propertyPlace : Place) (object : Node) (name : Text) :
    tagText ⟨place, .jsxMember object ⟨propertyPlace, .jsxIdentifier name⟩⟩ =
      tagText object ++ CodePoint.ofChar '.' :: name := List.append_assoc _ _ name

theorem tagText_pair (place spacePlace namePlace : Place) (space name : Text) :
    tagText ⟨place, .jsxNamespacedName ⟨spacePlace, .jsxIdentifier space⟩
      ⟨namePlace, .jsxIdentifier name⟩⟩ = space ++ CodePoint.ofChar ':' :: name :=
  List.append_assoc _ _ name

theorem colon_notMem_tagText (h : Tag.Names root names n) : CodePoint.ofChar ':' ∉ tagText n := by
  induction h with
  | root _ name => exact name.colon_notMem
  | member place propertyPlace _ name ih =>
    have dot : CodePoint.ofChar ':' ≠ CodePoint.ofChar '.' := by decide
    rw [tagText_member, List.mem_append, List.mem_cons, not_or, not_or]
    exact ⟨ih, dot, name.colon_notMem⟩

/-- Chains with the same text have the same names. -/
theorem unplaced_eq_of_names (h : Tag.Names root names n) (h' : Tag.Names root' names' m)
    (same : tagText n = tagText m) : n.unplaced = m.unplaced := by
  induction h generalizing names' m with
  | @root place name =>
    cases h' with
    | root place' _ =>
      cases same
      rw [Node.unplaced_mk, Node.unplaced_mk]
    | member =>
      rw [tagText_member, tagText] at same
      exact absurd (same ▸ List.mem_append_cons_self) name.dot_notMem
  | member place propertyPlace _ name ih =>
    rw [tagText_member] at same
    cases h' with
    | root place' name' =>
      rw [tagText] at same
      exact absurd (same ▸ List.mem_append_cons_self) name'.dot_notMem
    | member place' propertyPlace' path' name' =>
      rw [tagText_member] at same
      obtain ⟨objects, rfl⟩ := cut_unique name.dot_notMem name'.dot_notMem same
      have below := ih path' objects
      simp only [Node.unplaced_mk, Form.map, below]

theorem IsTag.tagText_eq_iff (h : IsTag n) (h' : IsTag m) :
    tagText n = tagText m ↔ n.unplaced = m.unplaced := by
  constructor
  · intro same
    cases h with
    | path path =>
      obtain ⟨root, names, own⟩ := path
      cases h' with
      | path path' =>
        obtain ⟨root', names', own'⟩ := path'
        exact unplaced_eq_of_names own own' same
      | pair =>
        rw [tagText_pair] at same
        exact absurd (same ▸ List.mem_append_cons_self) (colon_notMem_tagText own)
    | pair place spacePlace namePlace _ name =>
      rw [tagText_pair] at same
      cases h' with
      | path path' =>
        obtain ⟨root', names', own'⟩ := path'
        exact absurd (same ▸ List.mem_append_cons_self) (colon_notMem_tagText own')
      | pair place' spacePlace' namePlace' _ name' =>
        rw [tagText_pair] at same
        obtain ⟨rfl, rfl⟩ := cut_unique name.colon_notMem name'.colon_notMem same
        simp only [Node.unplaced_mk, Form.map]
  · intro same
    rw [← tagText_unplaced n, same, tagText_unplaced]

end Comparison

section Supplies

/-- The parts are what the slots keep, if this is what the symbols stand for. -/
def SlotsHold (P : Symbol → List Part → Prop) : List Slot → List Part → Prop
  | [], parts => parts = []
  | .absent :: slots, parts => ∃ rest, parts = .absent :: rest ∧ SlotsHold P slots rest
  | .skip _ :: slots, parts => SlotsHold P slots parts
  | .keep s :: slots, parts =>
    ∃ value rest, parts = value ++ rest ∧ P s value ∧ SlotsHold P slots rest

/-- The value is a row of attributes, or a row of other nodes. -/
def IsRow (attributes : Bool) (value : List Part) : Prop :=
  ∃ ns : List Node, value = ns.map .node ∧ ∀ n ∈ ns, Build.isAttribute n = attributes

/-- What a nonterminal supplies an element with. -/
def Nonterminal.Supplies : Nonterminal → List Part → Prop
  | .tagName, value => IsSingle IsTag value
  | .memberName, value | .memberNameObject, value => IsSingle IsPath value
  | .attributes, value | .oneAttribute, value => IsRow true value
  | .children, value | .child, value => IsRow false value
  | _, _ => True

def Symbol.Supplies : Symbol → List Part → Prop
  | .terminal k, value => ∃ t : Token, t.kind = k ∧ t.Scanned ∧ value = [.token t]
  | .nonterminal a, value => a.Supplies value

variable {a : Nonterminal} {p : Production} {parts value : List Part} {own : Bool}

theorem isRow_singleton {n : Node} (h : Build.isAttribute n = own) : IsRow own [.node n] :=
  ⟨[n], rfl, by simpa using h⟩

theorem IsRow.append {first second : List Part} (h : IsRow own first) (h' : IsRow own second) :
    IsRow own (first ++ second) := by
  obtain ⟨ns, rfl, each⟩ := h
  obtain ⟨ms, rfl, each'⟩ := h'
  exact ⟨ns ++ ms, List.map_append.symm, List.forall_mem_append.mpr ⟨each, each'⟩⟩

theorem scanned_iff_isJsxName {t : Token} (kind : t.kind = .jsxName) :
    t.Scanned ↔ IsJsxName t.text := by
  have ofClass : (t.kind, Scan.jsxName) ∈ Scan.classes := by simp [kind, Scan.classes]
  constructor
  · intro scanned
    obtain ⟨whole, found, same⟩ := scanned Scan.jsxName ofClass
    exact same ▸ Scan.isJsxName_take found
  · rintro ⟨nonempty, whole⟩ scan own
    obtain rfl : scan = Scan.jsxName := classes_unique own ofClass
    have found : Scan.jsxName t.text ≠ 0 := fun none =>
      nonempty (List.length_eq_zero_iff.mp (whole.symm.trans none))
    exact ⟨t.text, found, by rw [whole, List.take_length]⟩

theorem name_supplies (action : p.action = some .jsxIdentifier)
    (slots : p.slots = [.keep (.terminal .jsxName)])
    (row : SlotsHold Symbol.Supplies p.slots parts) (built : p.build parts = .ok value) :
    IsSingle IsPath value := by
  rw [slots] at row
  obtain ⟨_, _, rfl, ⟨t, kind, scanned, rfl⟩, rfl⟩ := row
  obtain ⟨_, ⟨⟩, rfl⟩ := applied_of_build action built
  exact ⟨_, rfl, t.text, [], .root t.place ((scanned_iff_isJsxName kind).mp scanned)⟩

/-- What is handed on is what was supplied. -/
theorem passed_supplies {b : Nonterminal} (action : p.action = none)
    (slots : p.slots = [.keep (.nonterminal b)])
    (row : SlotsHold Symbol.Supplies p.slots parts) (built : p.build parts = .ok value) :
    b.Supplies value := by
  rw [slots] at row
  obtain ⟨own, _, rfl, supplied, rfl⟩ := row
  rw [Production.build, action, List.append_nil] at built
  cases built
  exact supplied

theorem tagName_supplies (member : p ∈ Nonterminal.tagName.productions)
    (row : SlotsHold Symbol.Supplies p.slots parts) (built : p.build parts = .ok value) :
    IsSingle IsTag value := by
  have kinds : ∀ q ∈ Nonterminal.tagName.productions,
      q.action = some .jsxIdentifier ∧ q.slots = [.keep (.terminal .jsxName)] ∨
      q.action = none ∧ q.slots = [.keep (.nonterminal .memberName)] ∨
      q.action = some .jsxNamespacedName ∧ q.slots = [.keep (.terminal .jsxName), .skip .colon,
        .keep (.terminal .jsxName)] := by decide
  rcases kinds p member with ⟨action, slots⟩ | ⟨action, slots⟩ | ⟨action, slots⟩
  · obtain ⟨n, rfl, path⟩ := name_supplies action slots row built
    exact ⟨n, rfl, .path path⟩
  · obtain ⟨n, rfl, path⟩ := passed_supplies action slots row built
    exact ⟨n, rfl, .path path⟩
  · rw [slots] at row
    obtain ⟨_, _, rfl, ⟨t, kind, scanned, rfl⟩, _, _, rfl, ⟨u, kind', scanned', rfl⟩, rfl⟩ := row
    obtain ⟨_, ⟨⟩, rfl⟩ := applied_of_build action built
    exact ⟨_, rfl, .pair _ _ _ ((scanned_iff_isJsxName kind).mp scanned)
      ((scanned_iff_isJsxName kind').mp scanned')⟩

theorem memberNameObject_supplies (member : p ∈ Nonterminal.memberNameObject.productions)
    (row : SlotsHold Symbol.Supplies p.slots parts) (built : p.build parts = .ok value) :
    IsSingle IsPath value := by
  have kinds : ∀ q ∈ Nonterminal.memberNameObject.productions,
      q.action = some .jsxIdentifier ∧ q.slots = [.keep (.terminal .jsxName)] ∨
      q.action = none ∧ q.slots = [.keep (.nonterminal .memberName)] := by decide
  rcases kinds p member with ⟨action, slots⟩ | ⟨action, slots⟩
  · exact name_supplies action slots row built
  · exact passed_supplies action slots row built

theorem memberName_supplies (member : p ∈ Nonterminal.memberName.productions)
    (row : SlotsHold Symbol.Supplies p.slots parts) (built : p.build parts = .ok value) :
    IsSingle IsPath value := by
  have kinds : ∀ q ∈ Nonterminal.memberName.productions, q.action = some .jsxMember ∧
      q.slots = [.keep (.nonterminal .memberNameObject), .skip .dot,
        .keep (.terminal .jsxName)] := by decide
  obtain ⟨action, slots⟩ := kinds p member
  rw [slots] at row
  obtain ⟨_, _, rfl, ⟨n, rfl, root, names, path⟩, _, _, rfl, ⟨t, kind, scanned, rfl⟩, rfl⟩ := row
  obtain ⟨_, ⟨⟩, rfl⟩ := applied_of_build action built
  exact ⟨_, rfl, _, _, .member _ _ path ((scanned_iff_isJsxName kind).mp scanned)⟩

theorem oneAttribute_supplies (member : p ∈ Nonterminal.oneAttribute.productions)
    (built : p.build parts = .ok value) : IsRow true value := by
  have actions : ∀ q ∈ Nonterminal.oneAttribute.productions,
      q.action = some .jsxAttribute ∨ q.action = some .jsxSpreadAttribute := by decide
  rcases actions p member with action | action
  · obtain ⟨part, applied, rfl⟩ := applied_of_build action built
    simp only [Build.apply, Build.onNodeOptional] at applied
    split at applied
    · split at applied <;> cases applied
      exact isRow_singleton rfl
    · cases applied
  · obtain ⟨part, applied, rfl⟩ := applied_of_build action built
    simp only [Build.apply, Build.onNode] at applied
    split at applied <;> cases applied
    exact isRow_singleton rfl

theorem child_supplies (member : p ∈ Nonterminal.child.productions)
    (built : p.build parts = .ok value) : IsRow false value := by
  have actions : ∀ q ∈ Nonterminal.child.productions,
      q.action = some .jsxText ∨ q.action = some .container ∨ q.action = some .emptyContainer ∨
      q.action = some .pairedElement ∨ q.action = some .selfClosingElement := by decide
  rcases actions p member with action | action | action | action | action
  all_goals obtain ⟨part, applied, rfl⟩ := applied_of_build action built
  · simp only [Build.apply, Build.onToken] at applied
    split at applied
    · obtain ⟨n, read, rfl⟩ := ok_of_map applied
      rw [Build.jsxText] at read
      split at read <;> cases read
      exact isRow_singleton rfl
    · cases applied
  · simp only [Build.apply, Build.onNode] at applied
    split at applied <;> cases applied
    exact isRow_singleton rfl
  · cases applied
    exact isRow_singleton rfl
  · obtain ⟨name, ns, closes, rfl⟩ := element_of_applied (.inl rfl) applied
    exact isRow_singleton rfl
  · obtain ⟨name, ns, closes, rfl⟩ := element_of_applied (.inr rfl) applied
    exact isRow_singleton rfl

/-- A list of items is a row if every item is one. -/
theorem list_supplies (item : Nonterminal)
    (kinds : ∀ q ∈ a.productions, q.action = none ∧ (q.slots = [.keep (.nonterminal item)] ∨
      q.slots = [.keep (.nonterminal a), .keep (.nonterminal item)]))
    (list : ∀ row, a.Supplies row → IsRow own row)
    (each : ∀ row, item.Supplies row → IsRow own row) (member : p ∈ a.productions)
    (row : SlotsHold Symbol.Supplies p.slots parts) (built : p.build parts = .ok value) :
    IsRow own value := by
  obtain ⟨action, slots | slots⟩ := kinds p member
  · exact each value (passed_supplies action slots row built)
  · rw [Production.build, action] at built
    cases built
    rw [slots] at row
    obtain ⟨before, _, rfl, first, one, _, rfl, last, rfl⟩ := row
    rw [List.append_nil]
    exact (list before first).append (each one last)

theorem production_supplies (member : p ∈ a.productions)
    (row : SlotsHold Symbol.Supplies p.slots parts) (built : p.build parts = .ok value) :
    a.Supplies value := by
  cases a
  case tagName => exact tagName_supplies member row built
  case memberName => exact memberName_supplies member row built
  case memberNameObject => exact memberNameObject_supplies member row built
  case oneAttribute => exact oneAttribute_supplies member built
  case child => exact child_supplies member built
  case attributes =>
    exact list_supplies .oneAttribute (by decide) (fun _ => id) (fun _ => id) member row built
  case children =>
    exact list_supplies .child (by decide) (fun _ => id) (fun _ => id) member row built
  all_goals trivial

variable {s : Symbol} {slots : List Slot} {word : List Token}

theorem Derives.supplies (h : Derives s word value) (scanned : ∀ t ∈ word, t.Scanned) :
    s.Supplies value := by
  induction h using Derives.rec
    (motive_2 := fun slots word parts _ => (∀ t ∈ word, t.Scanned) →
      SlotsHold Symbol.Supplies slots parts) with
  | token t => exact ⟨t, rfl, scanned t List.mem_cons_self, rfl⟩
  | production member _ built row => exact production_supplies member (row scanned) built
  | nil => rfl
  | absent _ below scanned => exact ⟨_, rfl, below scanned⟩
  | skip _ _ below scanned => exact below (List.forall_mem_cons.mp scanned).2
  | keep _ _ own below scanned =>
    obtain ⟨first, rest⟩ := List.forall_mem_append.mp scanned
    exact ⟨_, _, rfl, own first, below rest⟩

theorem Reads.supplies (h : Reads slots word parts) (scanned : ∀ t ∈ word, t.Scanned) :
    SlotsHold Symbol.Supplies slots parts := by
  induction slots generalizing word parts with
  | nil =>
    cases h
    rfl
  | cons slot slots ih =>
    cases h with
    | absent reads => exact ⟨_, rfl, ih reads scanned⟩
    | skip t reads => exact ih reads (List.forall_mem_cons.mp scanned).2
    | keep derives reads =>
      obtain ⟨first, rest⟩ := List.forall_mem_append.mp scanned
      exact ⟨_, _, rfl, derives.supplies first, ih reads rest⟩

/-- Attributes and children may be left out. -/
theorem optional_supplies {left rest : List Slot} (optional : left = [] ∨
    left = [.keep (.nonterminal a)]) (each : ∀ row, a.Supplies row → IsRow own row)
    (row : SlotsHold Symbol.Supplies (left ++ rest) parts) :
    ∃ (ns : List Node) (below : List Part), parts = ns.map .node ++ below ∧
      (∀ n ∈ ns, Build.isAttribute n = own) ∧ SlotsHold Symbol.Supplies rest below := by
  rcases optional with rfl | rfl
  · exact ⟨[], parts, rfl, fun n hn => absurd hn List.not_mem_nil, row⟩
  · obtain ⟨value, below, rfl, supplied, row⟩ := row
    obtain ⟨ns, rfl, all⟩ := each value supplied
    exact ⟨ns, below, rfl, all, row⟩

end Supplies

section Pairs

open Build (isAttribute tagText)

variable {p : Production} {parts : List Part} {opening closing : Node}
  {attributes children : List Node}

/-- The slots of an element between its tags, around its attributes and its children. -/
def pairedSlots (own below : List Slot) : List Slot :=
  [.skip .less, .keep (.nonterminal .tagName)] ++ (own ++ (.skip .greater ::
    (below ++ [.skip .closing, .keep (.nonterminal .tagName), .skip .greater])))

theorem slots_of_paired (member : p ∈ productions) (acts : p.action = some .pairedElement) :
    ∃ own below, p.slots = pairedSlots own below ∧
      (own = [] ∨ own = [.keep (.nonterminal .attributes)]) ∧
      (below = [] ∨ below = [.keep (.nonterminal .children)]) := by
  have kinds : ∀ q ∈ productions, q.action = some .pairedElement →
      ∃ own ∈ [[], [Slot.keep (.nonterminal .attributes)]],
        ∃ below ∈ [[], [Slot.keep (.nonterminal .children)]],
          q.slots = pairedSlots own below := by decide +kernel
  obtain ⟨own, first, below, second, slots⟩ := kinds p member acts
  exact ⟨own, below, slots, by simpa using first, by simpa using second⟩

theorem element_of_sorted (own : ∀ n ∈ attributes, isAttribute n = true)
    (below : ∀ n ∈ children, isAttribute n = false) (closes : Bool) :
    Build.element opening (attributes ++ children) closes =
      ⟨opening.place, .jsxElement opening attributes children closes⟩ := by
  have kept : attributes.filter isAttribute = attributes := List.filter_eq_self.mpr own
  have dropped : attributes.filter (!isAttribute ·) = [] :=
    List.filter_eq_nil_iff.mpr fun n hn => by simp [own n hn]
  have others : children.filter isAttribute = [] :=
    List.filter_eq_nil_iff.mpr fun n hn => by simp [below n hn]
  have rest : children.filter (!isAttribute ·) = children :=
    List.filter_eq_self.mpr fun n hn => by simp [below n hn]
  rw [Build.element, List.filter_append, List.filter_append, kept, dropped, others, rest,
    List.append_nil, List.nil_append]

theorem build_paired (acts : p.action = some .pairedElement) (ns : List Node) :
    p.build (.node opening :: (ns.map .node ++ [.node closing])) =
      (Build.pairedElement opening ns closing).map fun n => [.node n] := by
  rw [Production.build, acts]
  simp only [Build.apply, Build.paired, List.getLast?_concat, List.dropLast_concat, compact_nodes]
  cases Build.pairedElement opening ns closing <;> rfl

end Pairs

/-- The value is one of the symbol, for tokens that the lexer can find. -/
def IsBuilt (s : Symbol) (value : List Part) : Prop :=
  ∃ word, (∀ t ∈ word, t.Scanned) ∧ Derives s word value

/-- The parts are kept by the slots, for tokens that the lexer can find. -/
def IsKept (slots : List Slot) (parts : List Part) : Prop :=
  ∃ word, (∀ t ∈ word, t.Scanned) ∧ Reads slots word parts

open Build (isAttribute tagText) in
/-- Two names of tags have the same text exactly if they are the same tree at other places. So an
element between its tags, which is read as an opening name, attributes, children and a closing name,
is refused exactly if the names are different trees, and else has all these attributes and children,
in their order. -/
theorem closing_tag_iff :
    (∀ opening closing, IsBuilt (.nonterminal .tagName) [.node opening] →
      IsBuilt (.nonterminal .tagName) [.node closing] →
      (tagText opening = tagText closing ↔ opening.unplaced = closing.unplaced)) ∧
    ∀ p ∈ productions, p.action = some .pairedElement → ∀ parts, IsKept p.slots parts →
      ∃ (opening closing : Node) (attributes children : List Node),
        parts = .node opening :: ((attributes ++ children).map .node ++ [.node closing]) ∧
        (∀ n ∈ attributes, isAttribute n = true) ∧ (∀ n ∈ children, isAttribute n = false) ∧
        (opening.unplaced = closing.unplaced → p.build parts =
          .ok [.node ⟨opening.place, .jsxElement opening attributes children false⟩]) ∧
        (opening.unplaced ≠ closing.unplaced → p.build parts =
          .error (.closingTag (tagText opening) closing.place)) := by
  constructor
  · rintro opening closing ⟨word, scanned, derives⟩ ⟨word', scanned', derives'⟩
    obtain ⟨_, ⟨⟩, own⟩ := derives.supplies scanned
    obtain ⟨_, ⟨⟩, own'⟩ := derives'.supplies scanned'
    exact own.tagText_eq_iff own'
  · rintro p member acts parts ⟨word, scanned, reads⟩
    have row := reads.supplies scanned
    obtain ⟨own, below, slots, optional, optional'⟩ := slots_of_paired member acts
    rw [slots] at row
    obtain ⟨_, _, rfl, ⟨opening, rfl, first⟩, row⟩ := row
    obtain ⟨attributes, _, rfl, sorted, row⟩ := optional_supplies optional (fun _ => id) row
    obtain ⟨children, _, rfl, sorted', row⟩ := optional_supplies optional' (fun _ => id) row
    obtain ⟨_, _, rfl, ⟨closing, rfl, last⟩, rfl⟩ := row
    have shape : [Part.node opening] ++ (attributes.map .node ++ (children.map .node ++
        ([.node closing] ++ []))) =
        .node opening :: ((attributes ++ children).map .node ++ [.node closing]) := by simp
    refine ⟨opening, closing, attributes, children, shape, sorted, sorted', ?_, ?_⟩
    · intro same
      rw [shape, build_paired acts, Build.pairedElement,
        if_pos ((first.tagText_eq_iff last).mpr same), element_of_sorted sorted sorted']
      rfl
    · intro differ
      rw [shape, build_paired acts, Build.pairedElement,
        if_neg fun same => differ ((first.tagText_eq_iff last).mp same)]
      rfl

section Bare

variable {s : Symbol} {slots : List Slot} {value parts : List Part}

theorem IsKept.keep (rest : IsKept slots parts) (own : IsBuilt s value) :
    IsKept (.keep s :: slots) (value ++ parts) := by
  obtain ⟨first, scanned, derives⟩ := own
  obtain ⟨word, scanned', reads⟩ := rest
  exact ⟨first ++ word, List.forall_mem_append.mpr ⟨scanned, scanned'⟩, .keep derives reads⟩

theorem IsKept.skip {k : Terminal} {w : Text} (fixed : (k, w) ∈ Terminal.spellings)
    (rest : IsKept slots parts) : IsKept (.skip k :: slots) parts := by
  obtain ⟨word, scanned, reads⟩ := rest
  have mark : Token.Scanned ⟨k, w, ⟨1, 1⟩⟩ := fun scan inside =>
    absurd inside (not_mem_classes fixed scan)
  exact ⟨_, List.forall_mem_cons.mpr ⟨mark, scanned⟩, .skip ⟨k, w, ⟨1, 1⟩⟩ reads⟩

/-- A name in some column of the first line. -/
def nameAt (w : Text) (column : Nat) : Node := Build.jsxIdentifier ⟨.jsxName, w, ⟨1, column⟩⟩

theorem isBuilt_nameAt {w : Text} (name : IsJsxName w) (column : Nat) :
    IsBuilt (.nonterminal .tagName) [.node (nameAt w column)] := by
  let t : Token := ⟨.jsxName, w, ⟨1, column⟩⟩
  have scanned : t.Scanned := (scanned_iff_isJsxName rfl).mpr name
  have reads : Reads [.keep (.terminal .jsxName)] [t] [.token t] := .keep (.token t) .nil
  refine ⟨[t], fun u hu => List.mem_singleton.mp hu ▸ scanned, ?_⟩
  exact .production (p := ⟨.tagName, [.keep (.terminal .jsxName)], some .jsxIdentifier⟩) (by decide)
    reads rfl

/-- The production of an element with nothing but its tags. -/
def bareElement : Production := ⟨.element, pairedSlots [] [], some .pairedElement⟩

theorem isKept_bareElement {v w : Text} (name : IsJsxName v) (name' : IsJsxName w)
    (column column' : Nat) :
    IsKept bareElement.slots [.node (nameAt v column), .node (nameAt w column')] := by
  have nothing : IsKept [] [] := ⟨[], fun t ht => absurd ht List.not_mem_nil, .nil⟩
  have last := (nothing.skip (k := .greater) (w := ">") (by decide)).keep
    (isBuilt_nameAt name' column')
  have closing := last.skip (k := .closing) (w := "</") (by decide)
  have greater := closing.skip (k := .greater) (w := ">") (by decide)
  exact (greater.keep (isBuilt_nameAt name column)).skip (k := .less) (w := "<") (by decide)

/-- The texts `<a></a>` and `<a></b>`. -/
theorem closing_tag_iff_bare :
    bareElement.build [.node (nameAt "a" 2), .node (nameAt "a" 6)] =
        .ok [.node ⟨(nameAt "a" 2).place, .jsxElement (nameAt "a" 2) [] [] false⟩] ∧
      bareElement.build [.node (nameAt "a" 2), .node (nameAt "b" 6)] =
        .error (.closingTag "a" (nameAt "b" 6).place) := by
  have member : bareElement ∈ productions := by decide +kernel
  have a : IsJsxName "a" := by decide +kernel
  have b : IsJsxName "b" := by decide +kernel
  have apply {w : Text} (name : IsJsxName w) :
      ((nameAt "a" 2).unplaced = (nameAt w 6).unplaced →
        bareElement.build [.node (nameAt "a" 2), .node (nameAt w 6)] =
          .ok [.node ⟨(nameAt "a" 2).place, .jsxElement (nameAt "a" 2) [] [] false⟩]) ∧
      ((nameAt "a" 2).unplaced ≠ (nameAt w 6).unplaced →
        bareElement.build [.node (nameAt "a" 2), .node (nameAt w 6)] =
          .error (.closingTag "a" (nameAt w 6).place)) := by
    obtain ⟨opening, closing, attributes, children, shape, -, -, made, refused⟩ :=
      closing_tag_iff.2 bareElement member rfl _ (isKept_bareElement a name 2 6)
    have length : attributes.length + (children.length + 1) = 1 := by
      simpa using congrArg List.length shape
    obtain rfl : attributes = [] := List.length_eq_zero_iff.mp (by omega)
    obtain rfl : children = [] := List.length_eq_zero_iff.mp (by omega)
    obtain ⟨rfl, rfl⟩ : nameAt "a" 2 = opening ∧ nameAt w 6 = closing := by simpa using shape
    exact ⟨made, refused⟩
  refine ⟨(apply a).1 ?_, (apply b).2 ?_⟩
  · simp only [nameAt, Build.jsxIdentifier, Node.unplaced_mk, Form.map]
  · intro same
    have names := congrArg Node.name? same
    rw [Node.name?_unplaced, Node.name?_unplaced] at names
    exact absurd names (by decide)

end Bare

end Grammar

end Hyperscript
