import FacetedSearch.Keyed
import FacetedSearch.Settings.Scalar
import FacetedSearch.Text.Splitting

/-!
Contract: trees of values that layers of settings are written into, one after the other.

Owns:
- `Tree`, tables of named trees and lists of numbered trees above scalars;
- `Tree.mergedInto`, what a tree makes of the place that it is put in: a table is merged into a
  table, and all else replaces what was there;
- `Assignment` and `Tree.put`, which makes the tables and lists that the path leads through;
- `readPath?`, the paths of texts such as `highlight.pre_tag` and `names[2]`.

Names count in any case.

Does not own: the types of settings.
-/

namespace FacetedSearch.Settings

open Text

/-! ## Trees -/

/-- Values by name and by position. -/
inductive Tree where
  /-- A place of a list that nothing was put in. -/
  | absent
  | scalar (value : Scalar)
  | list (elements : List Tree)
  | table (members : List (String × Tree))

/-- One step of a path. -/
inductive Step where
  | member (name : String)
  /-- A place of a list, counted from the start. A negative number counts on from the end. -/
  | element (position : Int)
deriving DecidableEq, Repr

def lowerName (name : String) : String :=
  String.ofList (toLower name.toList)

namespace Tree

/-- The members of a table; anything else has none. -/
def members : Tree → List (String × Tree)
  | .table members => members
  | _ => []

/-- The elements of a list; anything else has none. -/
def elements : Tree → List Tree
  | .list elements => elements
  | _ => []

mutual

/-- What the place of `present` holds once the tree is put there. An empty table leaves what it
finds. -/
def mergedInto : (tree present : Tree) → Tree
  | .table [], .absent => .table []
  | .table [], present => present
  | .table (member :: rest), present => .table (mergeMembers (member :: rest) present.members)
  | tree, _ => tree

/-- The members `present` once others are merged into them. -/
def mergeMembers : (members present : List (String × Tree)) → List (String × Tree)
  | [], present => present
  | (name, tree) :: rest, present =>
      mergeMembers rest
        (Keyed.insertIn (lowerName name)
          (tree.mergedInto ((Keyed.find?In (lowerName name) present).getD Tree.absent)) present)

end

def indexOf (position : Int) (length : Nat) : Nat :=
  if 0 ≤ position then position.toNat else length + position.natAbs

/-- Some elements with one of them replaced, after empty places if there are too few. -/
def setElement (elements : List Tree) (index : Nat) (tree : Tree) : List Tree :=
  (elements ++ List.replicate (index + 1 - elements.length) Tree.absent).set index tree

/-- The tree with another one put at the end of a path. What is no table or list where the path
needs one makes way for it. -/
def put (tree : Tree) : List Step → (present : Tree) → Tree
  | [], present => tree.mergedInto present
  | .member name :: path, present =>
      let members := present.members
      let inner := (Keyed.find?In (lowerName name) members).getD .absent
      .table (Keyed.insertIn (lowerName name) (put tree path inner) members)
  | .element position :: path, present =>
      let elements := present.elements
      let index := indexOf position elements.length
      .list (setElement elements index (put tree path (elements.getD index .absent)))

end Tree

/-- A tree for the end of a path. -/
structure Assignment where
  path : List Step
  tree : Tree

/-- The tree that some assignments leave, the later ones put onto the earlier ones. -/
def Tree.ofAssignments (assignments : List Assignment) : Tree :=
  assignments.foldl (fun present assignment => assignment.tree.put assignment.path present)
    (.table [])

/-! ## Texts of paths -/

/-- Whether the character may stand in a name of a path. -/
def isPathCharacter (c : Char) : Bool :=
  c.isAlphanum || c == ' ' || c == '_' || c == '-'

/-- Whether the character is a blank or a tab. -/
def isBlankOrTab (c : Char) : Bool :=
  c == ' ' || c == '\t'

/-- The position in a text that ends with its closing bracket. -/
def readPosition? (text : List Char) : Option Step :=
  if text.getLast? = some ']' then
    let inner := text.dropLast.dropWhile isBlankOrTab
    let digits := (inner.reverse.dropWhile isBlankOrTab).reverse
    if digits.head? = some '+' then none
    else (Numeral.readInt? Numeral.minInt64 Numeral.maxInt64 digits).map .element
  else none

/-- The steps of a name and the positions in brackets after it. -/
def readLevel? (text : List Char) : Option (List Step) :=
  match text.takeWhile isPathCharacter, pieces '[' (text.dropWhile isPathCharacter) with
  | c :: name, [] :: positions =>
      (positions.mapM readPosition?).map (.member (String.ofList (c :: name)) :: ·)
  | _, _ => none

def readPath? (text : List Char) : Option (List Step) :=
  ((pieces '.' text).mapM readLevel?).map List.flatten

end FacetedSearch.Settings
