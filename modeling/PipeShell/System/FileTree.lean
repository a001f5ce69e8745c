import PipeShell.Text.Utf8

/-!
# The file tree

Directories, files and links, kept as one map from places to nodes. A place is the list of names
that leads to it from the root; the root itself is always there.
-/

namespace PipeShell

/-- The names on the way from the root. A name is text here: there are no entries whose names are
not valid UTF-8, so that a path can always be shown as it is. -/
abbrev Place := List String

def placeText : Place → String
  | [] => "/"
  | names => String.join (names.map ("/" ++ ·))

structure Permissions where
  read : Bool := true
  write : Bool := true
  execute : Bool := false
  deriving DecidableEq, Repr

inductive Device where
  | null
  | full
  deriving DecidableEq, Repr

inductive Node where
  | directory
  | file (content : Bytes) (permissions : Permissions)
  | link (target : String)
  | device (device : Device)
  | program (name : String)
  deriving DecidableEq, Repr

structure FileTree where
  entries : List (Place × Node) := []
  deriving DecidableEq, Repr

namespace FileTree

def lookup (place : Place) : List (Place × Node) → Option Node
  | [] => none
  | (known, node) :: rest => if known = place then some node else lookup place rest

def replace (place : Place) (node : Node) : List (Place × Node) → List (Place × Node)
  | [] => [(place, node)]
  | (known, old) :: rest =>
    if known = place then (known, node) :: rest else (known, old) :: replace place node rest

def node? (tree : FileTree) (place : Place) : Option Node :=
  if place = [] then some .directory else lookup place tree.entries

def isDirectory (tree : FileTree) (place : Place) : Bool :=
  tree.node? place == some .directory

def put (tree : FileTree) (place : Place) (node : Node) : FileTree :=
  ⟨replace place node tree.entries⟩

def remove (tree : FileTree) (place : Place) : FileTree :=
  ⟨tree.entries.filter fun entry => !place.isPrefixOf entry.1⟩

def putParents (tree : FileTree) (place : Place) : FileTree :=
  (List.range place.length).foldl (fun tree length =>
    let parent := place.take length
    if (tree.node? parent).isNone then tree.put parent .directory else tree) tree

def below (tree : FileTree) (place : Place) : List (Place × Node) :=
  tree.entries.filterMap fun entry =>
    if place.isPrefixOf entry.1 && entry.1 != place then
      some (entry.1.drop place.length, entry.2)
    else none

def names (tree : FileTree) (place : Place) : List String :=
  tree.entries.filterMap fun entry =>
    if place.isPrefixOf entry.1 && entry.1.length = place.length + 1 then entry.1.getLast?
    else none

theorem lookup_replace (place other : Place) (node : Node) (entries : List (Place × Node)) :
    lookup other (replace place node entries) =
      if place = other then some node else lookup other entries := by
  induction entries with
  | nil => simp [replace, lookup]
  | cons entry rest ih => grind [replace, lookup]

theorem node?_put (tree : FileTree) (place other : Place) (node : Node) (below : other ≠ []) :
    (tree.put place node).node? other = if place = other then some node else tree.node? other := by
  simp [node?, put, below, lookup_replace]

end FileTree

end PipeShell
