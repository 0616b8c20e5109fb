import Hyperscript.Lowering.Bucket
import Hyperscript.Lowering.Registry

/-!
# Groups of properties

Spreads divide the attributes of a tag into groups, each of which is an object. More than one group
is merged at run time by a helper.
-/
namespace Hyperscript.Lowering

inductive PropGroup where
  /-- A run of named attributes. -/
  | literal (entries : List Entry)
  /-- The object of a spread. -/
  | spread (argument : Node)

namespace Attribute

/-- The entry that a named attribute becomes. -/
def entry (rule : PropRule) (tag : Descriptor) (place : Place) (name : Node)
    (value : Option Node) : Entry :=
  { place, name := classify rule tag (.named place name value), namePlace := name.place,
    value := expression value }

end Attribute

namespace PropGroup

def isSpread : PropGroup → Bool
  | .literal _ => false
  | .spread _ => true

def entries : PropGroup → List Entry
  | .literal entries => entries
  | .spread _ => []

/-- The run that has been read, unless it is empty. -/
def close : List Entry → List PropGroup
  | [] => []
  | entries => [.literal entries]

/-- The groups of the attributes, after a run that has been read so far. -/
def split (rule : PropRule) (tag : Descriptor) :
    List Entry → List Attribute → List PropGroup
  | pending, [] => close pending
  | pending, .spread argument :: rest =>
    close pending ++ .spread argument :: split rule tag [] rest
  | pending, .named place name value :: rest =>
    split rule tag (pending ++ [Attribute.entry rule tag place name value]) rest

/-- The groups of the attributes of a tag. -/
def ofAttributes (rule : PropRule) (tag : Descriptor) (attributes : List Attribute) :
    List PropGroup :=
  split rule tag [] attributes

def expression (grouping : Grouping) : PropGroup → Node
  | .literal entries => grouping.object entries
  | .spread argument => argument

/-- A call of the merging function on the list of all groups. -/
def mergeCall (grouping : Grouping) (groups : List PropGroup) (helper : Text) : Node :=
  .plain (.call (.plain (.identifier helper))
    [.plain (.arrayExpression (groups.map (expression grouping)))] false)

/-- The second argument of a call. The registry is asked only for more than one group. -/
def merge (config : Config) (groups : List PropGroup) (r : Registry) : Node × Registry :=
  match groups with
  | [] => (.plain .null, r)
  | [group] => (group.expression config.grouping, r)
  | _ =>
    let (helper, r) := r.resolve config.mergeModule config.mergeExport config.mergeAlias
    (mergeCall config.grouping groups helper, r)

end PropGroup

end Hyperscript.Lowering
