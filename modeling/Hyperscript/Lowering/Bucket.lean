import Hyperscript.Lowering.Attribute

/-!
# Buckets

The object for a run of entries has sections: listeners under `on`, directives in a list of their
own, plain attributes under `attrs`, and so on. A section stands where its first member stood, and
its members keep their order.
-/
namespace Hyperscript.Lowering

inductive Bucket where
  | props | domProps | on | nativeOn | hook | attrs | directives
  deriving DecidableEq, Repr

namespace Bucket

def name : Bucket → Text
  | .props => "props"
  | .domProps => "domProps"
  | .on => "on"
  | .nativeOn => "nativeOn"
  | .hook => "hook"
  | .attrs => "attrs"
  | .directives => "directives"

/-- The buckets that a name can ask for by its first word. -/
def byWord : List Bucket := [.props, .domProps, .on, .nativeOn, .hook, .attrs]

/-- What follows the first word of a name: a dash is dropped, and a capital becomes small. -/
def suffix? : Text → Option Text
  | [] => none
  | c :: rest =>
    if c = '-' then some rest
    else if c = '_' || c.isUpper then some (c.lower :: rest)
    else none

/-- The bucket that a name asks for by its first word, and its name there. -/
def nested? (name : Text) : Option (Bucket × Text) :=
  byWord.findSome? fun b =>
    if b.name.isPrefixOf name then (suffix? (name.drop b.name.length)).map (b, ·) else none

end Bucket

/-- Where an entry goes by its name. -/
inductive Route where
  /-- It stays beside the buckets. -/
  | top
  /-- It is a member of a bucket under another name. -/
  | nested (bucket : Bucket) (name : Text)
  | directive (name : Text)
  /-- It is a plain attribute, perhaps renamed. -/
  | attribute (name : Option Text)
  deriving DecidableEq, Repr

namespace Route

/-- Names that the runtime reads beside the buckets. -/
def topNames : List Text :=
  ["class", "staticClass", "style", "key", "ref", "refInFor", "slot", "scopedSlots"].map
    Text.ofString

/-- The rest of a name after the given start. -/
def after? (start name : Text) : Option Text :=
  if start.isPrefixOf name then some (name.drop start.length) else none

/-- `xlinkHref` is written `xlink:href`. -/
def linked? (name : Text) : Option Text :=
  match after? "xlink" name with
  | some (c :: rest) => if c.isUpper then some ("xlink:" ++ c.lower :: rest) else none
  | _ => none

def ofName (name : Text) : Route :=
  if topNames.contains name then .top
  else
    match Bucket.nested? name with
    | some (b, inner) => .nested b inner
    | none =>
      match after? "v-" name with
      | some inner => .directive inner
      | none => .attribute (linked? name)

end Route

namespace Entry

/-- An entry without a name counts as a plain attribute. -/
def route (e : Entry) : Route := (e.name.map Route.ofName).getD (.attribute none)

/-- The entry under another name, which is quoted. -/
def renamed (e : Entry) (name : Text) : Node :=
  ⟨e.place, .objectProperty (.plain (.string name none)) e.value false false⟩

/-- `name` and `value` of a directive. -/
def directive (e : Entry) (name : Text) : Node :=
  let property (key : Text) (value : Node) : Node :=
    .plain (.objectProperty (.plain (.identifier key)) value false false)
  ⟨e.place,
    .objectExpression [property "name" (.plain (.string name none)), property "value" e.value]⟩

/-- The bucket that an entry goes to and the member that it becomes there, unless it stays beside
the buckets. -/
def member? (e : Entry) : Option (Bucket × Node) :=
  match e.route with
  | .top => none
  | .nested b name => some (b, e.renamed name)
  | .directive name => some (.directives, e.directive name)
  | .attribute none => some (.attrs, e.toNode)
  | .attribute (some name) => some (.attrs, e.renamed name)

end Entry

/-- A part of the object: an entry of its own, or a bucket with its members. -/
inductive Section where
  | single (entry : Entry)
  | bucket (bucket : Bucket) (members : List Node)

namespace Section

def isBucket (b : Bucket) : Section → Bool
  | .single _ => false
  | .bucket other _ => other = b

/-- Adds a member to its bucket, which is opened at the end if it is not there yet. -/
def put (b : Bucket) (member : Node) : List Section → List Section
  | [] => [.bucket b [member]]
  | .bucket other members :: rest =>
    if other = b then .bucket b (members ++ [member]) :: rest
    else .bucket other members :: put b member rest
  | s :: rest => s :: put b member rest

def add (sections : List Section) (e : Entry) : List Section :=
  match e.member? with
  | none => sections ++ [.single e]
  | some (b, member) => put b member sections

/-- The sections of a run of entries. -/
def ofEntries (entries : List Entry) : List Section := entries.foldl add []

def container : Bucket → List Node → Node
  | .directives, members => .plain (.arrayExpression members)
  | _, members => .plain (.objectExpression members)

def toNode : Section → Node
  | .single e => e.toNode
  | .bucket b members =>
    .plain (.objectProperty (.plain (.identifier b.name)) (container b members) false false)

end Section

namespace Grouping

/-- The object for a run of entries. -/
def object (g : Grouping) (entries : List Entry) : Node :=
  match g with
  | .buckets => .plain (.objectExpression ((Section.ofEntries entries).map Section.toNode))
  | .flat => .plain (.objectExpression (entries.map Entry.toNode))

/-- Entries without a name can be listed but not sorted. -/
def admits (g : Grouping) (entries : List Entry) : Bool :=
  match g with
  | .buckets => entries.all (·.name.isSome)
  | .flat => true

end Grouping

end Hyperscript.Lowering
