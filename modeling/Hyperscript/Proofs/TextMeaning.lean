import Hyperscript.Proofs.PrintedWords

/-!
# What printed texts mean

A text denotes a value as a symbol if it spells words that mean the value. A text fills the slots of a
production if the slots gather their parts from the words it spells. Texts for slots are put
together piece by piece, and a production turns the text of its slots into one of its left side.
-/
namespace Hyperscript

open Grammar

/-- A name that no word of the grammar is spelled like. -/
def IsFreeName (name : Text) : Prop := IsName name ∧ name ∉ Terminal.spellings.map (·.2)

instance (name : Text) : Decidable (IsFreeName name) := inferInstanceAs (Decidable (_ ∧ _))

namespace Grammar

variable {Own Next : Terminal → Prop}

/-- Whenever one of the terminals comes next, the text denotes such a value as the symbol. -/
def DenotesBefore (Next : Terminal → Prop) (x : Symbol) (text : Text) (V : List Part → Prop) : Prop :=
  ∃ words, Phrase text words ∧ MeansBefore Next x words V

/-- As this symbol the text always denotes such a value, whatever comes next. -/
abbrev Denotes (x : Symbol) (text : Text) (V : List Part → Prop) : Prop :=
  DenotesBefore (fun _ => True) x text V

/-- The text fills the slots with such parts, whenever one of the terminals comes next. -/
def FillsBefore (Next : Terminal → Prop) (slots : List Slot) (text : Text) (V : List Part → Prop) :
    Prop :=
  ∃ words, Spelt text words ∧ Gathers Next slots words V

/-- The text fills the slots with such parts, whatever comes next. -/
abbrev Fills (slots : List Slot) (text : Text) (V : List Part → Prop) : Prop :=
  FillsBefore (fun _ => True) slots text V

namespace FillsBefore

variable {slots : List Slot} {text first w : Text} {k : Terminal} {x : Symbol}
variable {V W : List Part → Prop}

theorem mono (h : FillsBefore Next slots text V) (le : ∀ parts, V parts → W parts) :
    FillsBefore Next slots text W := by
  obtain ⟨words, spelt, gathers⟩ := h
  exact ⟨words, spelt, gathers.mono le⟩

theorem nil : FillsBefore Next [] [] (· = []) := ⟨[], .nil, .nil⟩

theorem gap {space : Text} (blank : ∀ c ∈ space, Scan.isSpace c = true)
    (h : FillsBefore Next slots text V) : FillsBefore Next slots (space ++ text) V := by
  obtain ⟨words, spelt, gathers⟩ := h
  exact ⟨words, .gap blank spelt, gathers⟩

theorem absent (h : FillsBefore Next slots text V) :
    FillsBefore Next (.absent :: slots) text fun parts => ∃ rest, V rest ∧ parts = .absent :: rest := by
  obtain ⟨words, spelt, gathers⟩ := h
  exact ⟨words, spelt, .absent gathers⟩

theorem mark (mem : (k, w) ∈ closedMarks) (h : FillsBefore Next slots text V) :
    FillsBefore Next (.skip k :: slots) (w ++ text) V := by
  obtain ⟨words, spelt, gathers⟩ := h
  have fixed := ne_name_of_mem_spellings (closedMarks_spec _ mem).1
  exact ⟨_, .mark mem spelt, .skip ⟨k, w⟩ fixed gathers⟩

/-- A word of the grammar. -/
theorem word (mem : (k, w) ∈ Terminal.spellings) (name : IsName w) (detached : Detached text)
    (h : FillsBefore Next slots text V) : FillsBefore Next (.skip k :: slots) (w ++ text) V := by
  obtain ⟨words, spelt, gathers⟩ := h
  exact ⟨_, .word mem name detached spelt, .skip ⟨k, w⟩ (ne_name_of_mem_spellings mem) gathers⟩

/-- A word or a mark before a space. -/
theorem spaced (mem : (k, w) ∈ Terminal.spellings) (h : FillsBefore Next slots text V) :
    FillsBefore Next (.skip k :: slots) (w ++ (" " ++ text)) V := by
  obtain ⟨words, spelt, gathers⟩ := h
  exact ⟨_, .spaced mem spelt, .skip ⟨k, w⟩ (ne_name_of_mem_spellings mem) gathers⟩

theorem ellipsis (h : FillsBefore Next slots text V) :
    FillsBefore Next (.skip .ellipsis :: slots) ("..." ++ text) V := by
  obtain ⟨words, spelt, gathers⟩ := h
  exact ⟨_, .ellipsis spelt, .skip ⟨.ellipsis, "..."⟩ (by decide) gathers⟩

theorem keep (own : Denotes x first W) (detached : Detached text) (h : FillsBefore Next slots text V) :
    FillsBefore Next (.keep x :: slots) (first ++ text) fun parts =>
      ∃ value rest, W value ∧ V rest ∧ parts = value ++ rest := by
  obtain ⟨words, spelt, gathers⟩ := h
  obtain ⟨words', phrase, means⟩ := own
  exact ⟨_, phrase.spelt.append detached spelt, .keep means gathers⟩

theorem keepBefore (own : DenotesBefore Own x first W) (allowed : Own k) (detached : Detached text)
    (h : FillsBefore Next (.skip k :: slots) text V) :
    FillsBefore Next (.keep x :: .skip k :: slots) (first ++ text) fun parts =>
      ∃ value rest, W value ∧ V rest ∧ parts = value ++ rest := by
  obtain ⟨words, spelt, gathers⟩ := h
  obtain ⟨words', phrase, means⟩ := own
  exact ⟨_, phrase.spelt.append detached spelt, .keepBefore means allowed gathers⟩

/-- A symbol that is a single word or mark, before a space. -/
theorem keepSpaced (own : Means x [⟨k, w⟩] W) (mem : (k, w) ∈ Terminal.spellings)
    (h : FillsBefore Next slots text V) :
    FillsBefore Next (.keep x :: slots) (w ++ (" " ++ text)) fun parts =>
      ∃ value rest, W value ∧ V rest ∧ parts = value ++ rest := by
  obtain ⟨words, spelt, gathers⟩ := h
  exact ⟨_, .spaced mem spelt, .keep own gathers⟩

/-- The last symbol of a row has to stand whatever may come behind the row. -/
theorem last (own : DenotesBefore Own x text W) (le : ∀ k, Next k → Own k) :
    FillsBefore Next [.keep x] text W := by
  obtain ⟨words, phrase, means⟩ := own
  exact ⟨words, phrase.spelt, .last means le⟩

theorem lastAbsent (own : DenotesBefore Own x text W) (le : ∀ k, Next k → Own k) :
    FillsBefore Next [.keep x, .absent] text fun parts =>
      ∃ value, W value ∧ parts = value ++ [.absent] := by
  obtain ⟨words, phrase, means⟩ := own
  exact ⟨words, phrase.spelt, .lastAbsent means le⟩

/-- A name behind a dot may be spelled like any word. -/
theorem dotted {name : Text} (isName : IsName name)
    (own : Yields (fun _ => True) x [⟨.name, name⟩] W) :
    FillsBefore Next [.skip .dot, .keep x] ("." ++ name) W := by
  refine ⟨[⟨.dot, "."⟩, ⟨.name, name⟩], ?_, .skipNamed ⟨.dot, "."⟩ (by decide) ?_ (.only own)⟩
  · have spelt := Spelt.dot isName (.name isName .nil .nil)
    rwa [List.append_nil] at spelt
  · intro v first _
    cases first
    exact ⟨isName, .inl (by decide)⟩

/-- So may a name that something goes by elsewhere. -/
theorem renamed {name : Text} (isName : IsName name)
    (own : Yields (fun _ => True) x [⟨.name, name⟩] W) :
    FillsBefore Next [.skip .asWord, .keep x] ("as " ++ name) W := by
  refine ⟨[⟨.asWord, "as"⟩, ⟨.name, name⟩], ?_,
    .skipNamed ⟨.asWord, "as"⟩ (by decide) ?_ (.only own)⟩
  · have spelt := Spelt.spaced (k := .asWord) (w := "as") (by decide) (.name isName .nil .nil)
    rwa [List.append_nil] at spelt
  · intro v first _
    cases first
    exact ⟨isName, .inl (by decide)⟩

end FillsBefore

namespace DenotesBefore

variable {a : Nonterminal} {i : Nat} {p : Production} {x : Symbol} {text : Text}
variable {V W : List Part → Prop}

theorem opened (h : DenotesBefore Next x text V) : Opened text := by
  obtain ⟨words, phrase, -⟩ := h
  exact phrase.opened

theorem mono (h : DenotesBefore Next x text V) (le : ∀ value, V value → W value) :
    DenotesBefore Next x text W := by
  obtain ⟨words, phrase, means⟩ := h
  exact ⟨words, phrase, means.mono le⟩

theorem weaken (h : DenotesBefore Own x text V) (le : ∀ k, Next k → Own k) :
    DenotesBefore Next x text V := by
  obtain ⟨words, phrase, free, yields⟩ := h
  refine ⟨words, phrase, free, fun tokens same => ?_⟩
  obtain ⟨value, derives, good⟩ := yields tokens same
  exact ⟨value, derives.weaken le, good⟩

theorem production (mem : i ∈ core a) (found : a.productions[i]? = some p)
    (fitting : ∀ k, Next k → k ∉ barred a i) (opened : Opened text)
    (row : FillsBefore Next p.slots text V)
    (build : ∀ parts, V parts → ∃ value, p.build parts = .ok value ∧ W value) :
    DenotesBefore Next (.nonterminal a) text W := by
  obtain ⟨words, spelt, gathers⟩ := row
  exact ⟨words, ⟨opened, spelt⟩, .production mem found fitting gathers build⟩

theorem pass (mem : i ∈ core a) (found : a.productions[i]? = some ⟨a, [.keep x], none⟩)
    (fitting : ∀ k, Next k → k ∉ barred a i) (h : DenotesBefore Next x text V) :
    DenotesBefore Next (.nonterminal a) text V := by
  obtain ⟨words, phrase, means⟩ := h
  exact ⟨words, phrase, .pass mem found fitting means⟩

end DenotesBefore

namespace Denotes

variable {a : Nonterminal} {i : Nat} {p : Production} {x : Symbol} {text : Text}
variable {V W : List Part → Prop}

theorem production (mem : i ∈ core a) (found : a.productions[i]? = some p)
    (open_ : barred a i = []) (opened : Opened text) (row : Fills p.slots text V)
    (build : ∀ parts, V parts → ∃ value, p.build parts = .ok value ∧ W value) :
    Denotes (.nonterminal a) text W :=
  DenotesBefore.production mem found (fun k _ => by simp [open_]) opened row build

theorem pass (mem : i ∈ core a) (found : a.productions[i]? = some ⟨a, [.keep x], none⟩)
    (open_ : barred a i = []) (h : Denotes x text V) : Denotes (.nonterminal a) text V :=
  DenotesBefore.pass mem found (fun k _ => by simp [open_]) h

theorem lift {brace : Bool} {l m : Level} (h : Denotes (.nonterminal (.chain brace m)) text V)
    (le : l.index ≤ m.index) : Denotes (.nonterminal (.chain brace l)) text V := by
  obtain ⟨words, phrase, means⟩ := h
  exact ⟨words, phrase, Means.lift means le⟩

theorem primary (h : Denotes (.nonterminal (.chain false .primary)) text V) (brace : Bool)
    (l : Level) : Denotes (.nonterminal (.chain brace l)) text V := by
  obtain ⟨words, phrase, means⟩ := h
  exact ⟨words, phrase, Means.primary means brace l⟩

/-- In parentheses every expression is a primary. -/
theorem parenthesized (h : Denotes (.nonterminal .expression) text V) (brace : Bool) (l : Level) :
    Denotes (.nonterminal (.chain brace l)) ("(" ++ text ++ ")") V := by
  have opened : Opened ("(" ++ text ++ ")") := ⟨_, _, rfl, by decide, by decide⟩
  have row : Fills _ _ _ := .mark (k := .parenOpen) (w := "(") (by decide)
    (.keep h (.mark (k := .parenClose) (by decide) [])
      (.mark (k := .parenClose) (w := ")") (by decide) .nil))
  rw [List.append_nil, ← List.append_assoc] at row
  refine primary (.production (i := 9) (by decide) rfl rfl opened row ?_) brace l
  rintro parts ⟨value, _, good, rfl, rfl⟩
  exact ⟨_, rfl, by rwa [List.append_nil]⟩

theorem name {name : Text} (free : IsFreeName name) :
    Denotes (.terminal .name) name (IsToken ⟨.name, name⟩) :=
  ⟨_, .name free.1, .token ⟨.name, name⟩ fun reserved => free.2 reserved.2⟩

/-- A word that is kept. -/
theorem word {k : Terminal} {w : Text} (mem : (k, w) ∈ Terminal.spellings) (isName : IsName w) :
    Denotes (.terminal k) w (IsToken ⟨k, w⟩) :=
  ⟨_, .fixedWord mem isName,
    .token ⟨k, w⟩ fun reserved => ne_name_of_mem_spellings mem reserved.1⟩

end Denotes

/-- The text denotes such a value where no word is usable, so that a name may start it that is
spelled like one. -/
def DenotesNamed (x : Symbol) (text : Text) (V : List Part → Prop) : Prop :=
  ∃ words, Phrase text words ∧ (∀ w ∈ words.head?, w.IsReserved → IsName w.text) ∧
    Yields (fun _ => True) x words V

namespace DenotesNamed

variable {a : Nonterminal} {i : Nat} {x : Symbol} {first text : Text} {slots : List Slot}
variable {action : Option Action} {U V W : List Part → Prop}

theorem of_denotes (h : Denotes x text V) : DenotesNamed x text V := by
  obtain ⟨words, phrase, means⟩ := h
  exact ⟨words, phrase, fun w first reserved => absurd reserved (means.free w first), means.yields⟩

theorem mono (h : DenotesNamed x text V) (le : ∀ value, V value → W value) :
    DenotesNamed x text W := by
  obtain ⟨words, phrase, named, yields⟩ := h
  refine ⟨words, phrase, named, fun tokens same => ?_⟩
  obtain ⟨value, derives, good⟩ := yields tokens same
  exact ⟨value, derives, le value good⟩

theorem name {name : Text} (isName : IsName name) :
    DenotesNamed (.terminal .name) name (IsToken ⟨.name, name⟩) :=
  ⟨_, .name isName, fun w first _ => by cases first; exact isName, .token ⟨.name, name⟩⟩

/-- A row that starts in this way. -/
theorem production (mem : i ∈ core a)
    (found : a.productions[i]? = some ⟨a, .keep x :: slots, action⟩) (open_ : barred a i = [])
    (own : DenotesNamed x first W) (detached : Detached text) (row : Fills slots text V)
    (build : ∀ value rest, W value → V rest →
      ∃ made, Production.build ⟨a, .keep x :: slots, action⟩ (value ++ rest) = .ok made ∧ U made) :
    DenotesNamed (.nonterminal a) (first ++ text) U := by
  obtain ⟨words, phrase, named, yields⟩ := own
  obtain ⟨others, spelt, gathers⟩ := row
  refine ⟨words ++ others, ⟨phrase.opened.append _, phrase.spelt.append detached spelt⟩, ?_, ?_⟩
  · intro w start reserved
    cases words with
    | nil => exact absurd reserved (gathers.free w start)
    | cons v words => exact named w start reserved
  · refine .production mem found (fun k _ => by simp [open_]) (.keep yields gathers) ?_
    rintro parts ⟨value, rest, good, holds, rfl⟩
    exact build value rest good holds

/-- A row of nothing else. -/
theorem alone (mem : i ∈ core a) (found : a.productions[i]? = some ⟨a, [.keep x], action⟩)
    (open_ : barred a i = []) (own : DenotesNamed x text W)
    (build : ∀ value, W value →
      ∃ made, Production.build ⟨a, [.keep x], action⟩ value = .ok made ∧ U made) :
    DenotesNamed (.nonterminal a) text U := by
  have row := production mem found open_ own .nil .nil (U := U)
    (by rintro value _ good rfl; rw [List.append_nil]; exact build value good)
  rwa [List.append_nil] at row

end DenotesNamed

section Lists

/-- The texts of items with commas between them, on one line or on several. -/
def itemsText (gap indentation : Text) (texts : List Text) : Text :=
  Text.join ("," ++ gap) (texts.map (indentation ++ ·))

theorem commas_eq (texts : List Text) : Layout.commas texts = itemsText " " [] texts := by
  simp [Layout.commas, itemsText, Text.ofString]

/-- The text denotes the node as an item of a list. -/
def DenotesItem (item : Nonterminal) (n : Node) (text : Text) : Prop :=
  ∃ words, Phrase text words ∧ IsItem item n words

/-- Each text denotes the node at its position. -/
abbrev DenoteItems (item : Nonterminal) (ns : List Node) (texts : List Text) : Prop :=
  List.Forall₂ (DenotesItem item) ns texts

/-- What may start with any name. -/
theorem DenotesItem.of_named {item : Nonterminal} {n : Node} {text : Text}
    (named : .nonterminal item ∈ namedSymbols)
    (h : DenotesNamed (.nonterminal item) text (IsNode n)) : DenotesItem item n text := by
  obtain ⟨words, phrase, name, yields⟩ := h.mono fun _ => IsNode.areNodes
  exact ⟨words, phrase, fun w first reserved => ⟨name w first reserved, named⟩, yields⟩

theorem DenotesItem.of_denotes {item : Nonterminal} {n : Node} {text : Text}
    (h : Denotes (.nonterminal item) text (IsNode n)) : DenotesItem item n text := by
  obtain ⟨words, phrase, means⟩ := h
  exact ⟨words, phrase, .of_means means⟩

variable {item more : Nonterminal} {ns : List Node} {texts : List Text} {slots : List Slot}
variable {text w before gap indentation : Text} {k : Terminal} {words : List Word}
variable {items : List (List Word)} {V : List Part → Prop}

theorem exists_items (own : DenoteItems item ns texts) :
    ∃ items, List.Forall₂ Phrase texts items ∧ AreItems item ns items := by
  induction own with
  | nil => exact ⟨[], .nil, .nil⟩
  | cons first _ ih =>
    obtain ⟨words, phrase, own⟩ := first
    obtain ⟨items, phrases, others⟩ := ih
    exact ⟨words :: items, .cons phrase phrases, .cons own others⟩

theorem spelt_items (blank : ∀ c ∈ gap ++ indentation, Scan.isSpace c = true)
    (phrases : List.Forall₂ Phrase texts items) (detached : Detached text)
    (rest : Spelt text words) :
    Spelt (itemsText gap indentation texts ++ text) (listWords items ++ words) := by
  simp only [List.mem_append] at blank
  have indented := fun c mem => blank c (.inr mem)
  induction phrases with
  | nil => exact rest
  | @cons text' words' texts items first others ih =>
    cases others with
    | nil =>
      have alone : listWords [words'] = words' := by simp [listWords, commaWords]
      have joined : itemsText gap indentation [text'] = indentation ++ text' := by
        simp [itemsText, Text.join]
      rw [alone, joined, List.append_assoc]
      exact .gap indented (first.spelt.append detached rest)
    | @cons text'' words'' texts items second others =>
      have comma := Spelt.mark (k := .comma) (w := ",") (by decide)
        (.gap (fun c mem => blank c (.inl mem)) ih)
      have same : listWords (words' :: words'' :: items) =
          words' ++ ⟨.comma, ","⟩ :: listWords (words'' :: items) := by
        simp [listWords, commaWords]
      have joined : itemsText gap indentation (text' :: text'' :: texts) =
          indentation ++ text' ++ (("," ++ gap) ++
            itemsText gap indentation (text'' :: texts)) := by
        simp [itemsText, Text.join, List.intercalate_cons_cons]
      rw [joined, same]
      simpa using Spelt.gap indented
        (first.spelt.append (.mark (k := .comma) (by decide) _) comma)

/-- Items behind a mark, on the same line or on lines of their own. -/
theorem FillsBefore.listed (h : Separates more item) (mem : (k, w) ∈ closedMarks)
    (blank : ∀ c ∈ before ++ (gap ++ indentation), Scan.isSpace c = true)
    (own : DenoteItems item ns texts) (detached : Detached text) (rest : FillsBefore Next slots text V) :
    FillsBefore Next (.skip k :: (itemSlots item more ns.length ++ slots))
      (w ++ (before ++ (itemsText gap indentation texts ++ text))) fun parts =>
        ∃ value others, AreNodes ns value ∧ V others ∧ parts = value ++ others := by
  obtain ⟨words, spelt, gathers⟩ := rest
  obtain ⟨items, phrases, means⟩ := exists_items own
  have fixed := ne_name_of_mem_spellings (closedMarks_spec _ mem).1
  refine ⟨_, .mark mem (.gap ?_ (spelt_items ?_ phrases detached spelt)),
    .listed h ⟨k, w⟩ fixed means gathers⟩
  · exact fun c mem => blank c (List.mem_append_left _ mem)
  · exact fun c mem => blank c (List.mem_append_right _ mem)

/-- Items at the start of a row. -/
theorem FillsBefore.itemsFirst (h : Separates more item) (unnamed : .nonterminal item ∉ namedSymbols)
    (own : DenoteItems item ns texts) (detached : Detached text) (rest : FillsBefore Next slots text V) :
    FillsBefore Next (itemSlots item more ns.length ++ slots) (Layout.commas texts ++ text) fun parts =>
      ∃ value others, AreNodes ns value ∧ V others ∧ parts = value ++ others := by
  obtain ⟨words, spelt, gathers⟩ := rest
  obtain ⟨items, phrases, means⟩ := exists_items own
  rw [commas_eq]
  refine ⟨_, spelt_items (by simpa using blank_space) phrases detached spelt, ?_,
    collects_items h means gathers⟩
  intro v first reserved
  obtain ⟨-, y, named, due⟩ :=
    named_items more slots means gathers.free v first reserved
  cases means with
  | nil => exact gathers.free v first reserved
  | cons _ others =>
    have same : y = .nonterminal item := by
      cases others <;> cases due <;> rfl
    exact unnamed (same ▸ named)

/-- A list between brackets, with productions for one item, for several and for none. -/
structure Bracketed (list item more : Nonterminal) (opening ending : Terminal) (action : Action) :
    Prop where
  separates : Separates more item
  productions : ∀ count ≤ 2, ∃ i ∈ core list, barred list i = [] ∧ list.productions[i]? =
    some ⟨list, .skip opening :: (itemSlots item more count ++ [.skip ending]), some action⟩

theorem itemSlots_min (item more : Nonterminal) (count : Nat) :
    itemSlots item more (min count 2) = itemSlots item more count := by
  match count with
  | 0 | 1 => rfl
  | count + 2 =>
    rw [Nat.min_eq_right (Nat.le_add_left 2 count)]
    rfl

/-- A list on one line or on several. -/
theorem denotes_listed {list : Nonterminal} {action : Action} {after opening ending : Text}
    {opens ends : Terminal} (h : Bracketed list item more opens ends action)
    (mem : (opens, opening) ∈ closedMarks ∧ (ends, ending) ∈ closedMarks)
    (blank : ∀ c ∈ before ++ (gap ++ indentation) ++ after, Scan.isSpace c = true)
    (own : DenoteItems item ns texts) {V : List Part → Prop}
    (build : ∀ parts, AreNodes ns parts → ∃ part, Build.apply action parts = .ok part ∧ V [part]) :
    Denotes (.nonterminal list)
      (opening ++ (before ++ (itemsText gap indentation texts ++ (after ++ ending)))) V := by
  have last : Fills [.skip ends] (after ++ ending) (· = []) := by
    have row : Fills _ _ _ := .gap
      (fun c inside => blank c (List.mem_append_right _ inside)) (.mark mem.2 .nil)
    rwa [List.append_nil] at row
  have detached : Detached (after ++ ending) := by
    have all := Detached.gap (fun c inside => blank c (List.mem_append_right _ inside))
      (.mark mem.2 [])
    rwa [List.append_nil] at all
  obtain ⟨i, inside, open_, found⟩ := h.productions _ (Nat.min_le_right ns.length 2)
  rw [itemSlots_min] at found
  have opened : Opened opening := by
    have all : ∀ e ∈ closedMarks, e.2.head?.any (fun c => !Scan.isSpace c && c ≠ '=') = true := by
      decide
    have first := all _ mem.1
    cases opening with
    | nil => cases first
    | cons c rest => exact ⟨c, rest, rfl, by simpa using first⟩
  refine .production inside found open_ (opened.append _)
    (.listed h.separates mem.1 (fun c inside => blank c (List.mem_append_left _ inside)) own detached
      last) ?_
  rintro parts ⟨value, _, nodes, rfl, rfl⟩
  obtain ⟨part, built, good⟩ := build value nodes
  rw [List.append_nil]
  exact ⟨[part], build_of_apply built, good⟩

/-- A list on one line, directly between its brackets. -/
theorem denotes_commas {list : Nonterminal} {action : Action} {opening ending : Text}
    {opens ends : Terminal} (h : Bracketed list item more opens ends action)
    (mem : (opens, opening) ∈ closedMarks ∧ (ends, ending) ∈ closedMarks)
    (own : DenoteItems item ns texts) {V : List Part → Prop}
    (build : ∀ parts, AreNodes ns parts → ∃ part, Build.apply action parts = .ok part ∧ V [part]) :
    Denotes (.nonterminal list) (opening ++ (Layout.commas texts ++ ending)) V := by
  rw [commas_eq]
  have blank : ∀ c ∈ [] ++ (Text.ofString " " ++ []) ++ [], Scan.isSpace c = true := by
    simpa using blank_space
  exact denotes_listed h mem blank own build

/-- A list with each item on a line of its own. -/
theorem denotes_lines {list : Nonterminal} {action : Action} {opening ending : Text}
    {opens ends : Terminal} (h : Bracketed list item more opens ends action)
    (mem : (opens, opening) ∈ closedMarks ∧ (ends, ending) ∈ closedMarks)
    (own : DenoteItems item ns texts) {V : List Part → Prop}
    (build : ∀ parts, AreNodes ns parts → ∃ part, Build.apply action parts = .ok part ∧ V [part])
    (depth : Nat) :
    Denotes (.nonterminal list) (Layout.lines opening "," ending depth texts) V := by
  have blank : ∀ c ∈ Text.ofString "\n" ++ lineGap (depth + 1) ++ lineGap depth,
      Scan.isSpace c = true := by
    intro c mem
    rcases List.mem_append.mp mem with inside | last
    · exact (List.mem_append.mp inside).elim (blank_feed c) (blank_line _ c)
    · exact blank_line _ c last
  simpa [Layout.lines, itemsText, lineGap] using denotes_listed h mem blank own build

end Lists

section Repeated

variable {list item : Nonterminal} {Own Last : Terminal → Prop} {gap text more : Text}

/-- The nonterminal reads one item or several, from left to right. -/
structure Repeats (list item : Nonterminal) : Prop where
  open_ : barred list 0 = [] ∧ barred list 1 = []
  first : 0 ∈ core list ∧
    list.productions[0]? = some ⟨list, [.keep (.nonterminal item)], none⟩
  next : 1 ∈ core list ∧ list.productions[1]? =
    some ⟨list, [.keep (.nonterminal list), .keep (.nonterminal item)], none⟩

/-- What the text starts with, if an item can start with it, is one of the terminals. -/
def StartsWithin (item : Nonterminal) (P : Terminal → Prop) (text : Text) : Prop :=
  ∀ words, Phrase text words →
    ∀ w ∈ words.head?, w.kind ∈ (Symbol.nonterminal item).first → P w.kind

/-- The texts denote further items, each of which may follow the one before it. The terminals are
those that may come before and behind. -/
inductive Continues (item : Nonterminal) :
    (Terminal → Prop) → List Node → List Text → (Terminal → Prop) → Prop
  | nil {Own : Terminal → Prop} : Continues item Own [] [] Own
  | cons {Before Own Last : Terminal → Prop} {n : Node} {ns : List Node} {text : Text}
      {texts : List Text} :
      StartsWithin item Before text → DenotesBefore Own (.nonterminal item) text (IsNode n) →
      Continues item Own ns texts Last → Continues item Before (n :: ns) (text :: texts) Last

theorem Continues.of_denotes {ns : List Node} {texts : List Text}
    (own : List.Forall₂ (fun n t => Denotes (.nonterminal item) t (IsNode n)) ns texts) :
    Continues item (fun _ => True) ns texts (fun _ => True) := by
  induction own with
  | nil => exact .nil
  | cons first _ ih => exact .cons (fun _ _ _ _ _ => trivial) first ih

theorem MeansBefore.first {x : Symbol} {words : List Word} {V : List Part → Prop}
    (h : MeansBefore Own x words V) : ∃ w rest, words = w :: rest ∧ w.kind ∈ x.first := by
  have same : (words.map fun w => (⟨w.kind, w.text, {}⟩ : Token)).map Token.word = words := by
    simp [Token.word, Function.comp_def]
  obtain ⟨value, derives, -⟩ := h.yields _ same
  obtain ⟨t, rest, starts, opens⟩ := derives.opens
  rw [starts, List.map_cons] at same
  exact ⟨t.word, _, same.symm, opens.kind_mem⟩

/-- Further items, each behind white space. -/
theorem DenotesBefore.repeated (h : Repeats list item) (blank : ∀ c ∈ gap, Scan.isSpace c = true)
    (some : gap ≠ []) {done ns : List Node} {texts : List Text}
    (start : DenotesBefore Own (.nonterminal list) text (AreNodes done))
    (own : Continues item Own ns texts Last) :
    DenotesBefore Last (.nonterminal list) (text ++ texts.flatMap (gap ++ ·))
      (AreNodes (done ++ ns)) := by
  induction own generalizing text done with
  | nil => simpa using start
  | @cons Before Own Last n ns text' texts starts item _ ih =>
    obtain ⟨words, phrase, means⟩ := start
    obtain ⟨words', phrase', means'⟩ := item
    have detached : Detached (gap ++ text') := by
      obtain ⟨c, rest, rfl⟩ := List.exists_cons_of_ne_nil some
      exact .of_closes (closes_of_isSpace (blank c List.mem_cons_self))
    obtain ⟨w, later, rfl, opens⟩ := means'.first
    have allowed : ∀ v ∈ (w :: later).head?, Before v.kind := by
      rintro v ⟨⟩
      exact starts _ phrase' w rfl opens
    have row : Collects Own _ _ _ := .keepBefore means.yields (.last means' fun _ h => h) allowed
      fun none => nomatch none
    have step : DenotesBefore Own (.nonterminal list) (text ++ (gap ++ text'))
        (AreNodes (done ++ [n])) := by
      refine ⟨words ++ (w :: later), ⟨phrase.opened.append _, ?_⟩, means.free.append means'.free, ?_⟩
      · exact phrase.spelt.append detached (.gap blank phrase'.spelt)
      · refine .production h.next.1 h.next.2 (fun k _ => by simp [h.open_.2]) row ?_
        rintro _ ⟨value, rest, nodes, node, rfl⟩
        exact ⟨_, rfl, nodes.append node.areNodes⟩
    simpa using ih step

/-- One item, and further ones. -/
theorem DenotesBefore.row (h : Repeats list item) (blank : ∀ c ∈ gap, Scan.isSpace c = true)
    (some : gap ≠ []) {n : Node} {ns : List Node} {texts : List Text}
    (first : DenotesBefore Own (.nonterminal item) text (IsNode n))
    (own : Continues item Own ns texts Last) :
    DenotesBefore Last (.nonterminal list) (text ++ texts.flatMap (gap ++ ·))
      (AreNodes (n :: ns)) := by
  have start := (DenotesBefore.pass h.first.1 h.first.2 (fun k _ => by simp [h.open_.1]) first).mono
    fun _ => IsNode.areNodes
  exact start.repeated h blank some own

/-- A nonterminal for such a list between braces, or for nothing between them. -/
structure Encloses (a list : Nonterminal) (action : Action) : Prop where
  open_ : barred a 0 = [] ∧ barred a 1 = []
  full : 0 ∈ core a ∧ a.productions[0]? = some
    ⟨a, [.skip .braceOpen, .keep (.nonterminal list), .skip .braceClose], some action⟩
  empty : 1 ∈ core a ∧ a.productions[1]? = some ⟨a, [.skip .braceOpen, .skip .braceClose], some action⟩

theorem lines_cons (opening separator closing : Text) (depth : Nat) (t : Text) (texts : List Text) :
    Layout.lines opening separator closing depth (t :: texts) = opening ++ (lineGap (depth + 1) ++
      (t ++ texts.flatMap (separator ++ lineGap (depth + 1) ++ ·) ++ (lineGap depth ++ closing))) := by
  have joined : Text.join (separator ++ "\n") ((t :: texts).map (Layout.indent (depth + 1) ++ ·)) =
      Layout.indent (depth + 1) ++ (t ++ texts.flatMap (separator ++ lineGap (depth + 1) ++ ·)) := by
    induction texts generalizing t with
    | nil => simp [Text.join]
    | cons u texts ih =>
      have rest := ih u
      simp only [Text.join, List.map_cons] at rest ⊢
      rw [List.intercalate_cons_cons, rest]
      simp [lineGap]
  rw [Layout.lines, joined]
  simp [lineGap]

/-- Items on lines of their own between braces. -/
theorem denotes_enclosed {a : Nonterminal} {action : Action} {separator : Text} {depth : Nat}
    (encloses : Encloses a list action) (h : Repeats list item)
    (blank : ∀ c ∈ separator, Scan.isSpace c = true) {n : Node} {ns : List Node}
    {texts : List Text} {V : List Part → Prop}
    (first : DenotesBefore Own (.nonterminal item) text (IsNode n))
    (own : Continues item Own ns texts Last) (closes : Last .braceClose)
    (build : ∀ parts, AreNodes (n :: ns) parts →
      ∃ part, Build.apply action parts = .ok part ∧ V [part]) :
    Denotes (.nonterminal a) (Layout.lines "\x7b" separator "\x7d" depth (text :: texts)) V := by
  have gap_blank : ∀ c ∈ separator ++ lineGap (depth + 1), Scan.isSpace c = true := fun c mem =>
    (List.mem_append.mp mem).elim (blank c) (blank_line _ c)
  have gap_some : separator ++ lineGap (depth + 1) ≠ [] := by simp [lineGap, Text.ofString]
  have row : Fills _ _ _ := .mark (k := .braceOpen) (w := "\x7b") (by decide)
    (.gap (blank_line (depth + 1)) (.keepBefore (first.row h gap_blank gap_some own) closes
      (.line depth _) (.gap (blank_line depth)
        (.mark (k := .braceClose) (w := "\x7d") (by decide) .nil))))
  rw [List.append_nil] at row
  rw [lines_cons]
  have opened : Opened (Text.ofString "\x7b") := ⟨_, _, rfl, by decide, by decide⟩
  refine .production encloses.full.1 encloses.full.2 encloses.open_.1 (opened.append _) row ?_
  rintro _ ⟨value, _, nodes, rfl, rfl⟩
  obtain ⟨part, built, good⟩ := build value nodes
  rw [List.append_nil]
  exact ⟨[part], build_of_apply built, good⟩

theorem denotes_nothing {a : Nonterminal} {action : Action} (encloses : Encloses a list action)
    {V : List Part → Prop} (build : ∃ part, Build.apply action [] = .ok part ∧ V [part]) :
    Denotes (.nonterminal a) "\x7b\x7d" V := by
  have row : Fills _ _ _ := .mark (k := .braceOpen) (w := "\x7b") (by decide)
    (.mark (k := .braceClose) (w := "\x7d") (by decide) .nil)
  have opened : Opened (Text.ofString "\x7b\x7d") := ⟨_, _, rfl, by decide, by decide⟩
  refine .production encloses.empty.1 encloses.empty.2 encloses.open_.2 opened row ?_
  rintro _ rfl
  obtain ⟨part, built, good⟩ := build
  exact ⟨[part], build_of_apply built, good⟩

end Repeated

end Grammar

end Hyperscript
