import Mathlib.Data.Finset.Card
import Mathlib.Data.Finset.Range
import PipeShell.Proofs.System.Processes

/-!
# Opening files

Whether a file can be opened depends on the tree and on the numbers that are left, not on what else
is open. Main statement: in a tree of regular files and directories, opening a file for reading
changes nothing, and otherwise no place but that of the file, which is there afterwards.
-/

namespace PipeShell

/-! ## Numbers that are left -/

namespace Descriptors

def freeBelow (descriptors : Descriptors) (limit : Nat) : Finset Nat :=
  (Finset.range limit).filter fun number => descriptors.stream? number = none

theorem lowestFree_le_of_free (descriptors : Descriptors) {number : Nat}
    (free : descriptors.stream? number = none) : descriptors.lowestFree ≤ number := by
  by_contra lower
  have below := descriptors.lowestFree_le
  have inside : number < descriptors.slots.length + 1 := by omega
  unfold lowestFree at lower
  cases found : (List.range (descriptors.slots.length + 1)).find? fun number =>
      (descriptors.stream? number).isNone with
  | none =>
      have used := List.find?_eq_none.mp found number (List.mem_range.mpr inside)
      simp [free] at used
  | some lowest =>
      rw [found, Option.getD_some] at lower
      obtain ⟨_, _, used⟩ := List.find?_range_eq_some.mp found
      have taken := used number (by omega)
      simp [free] at taken

theorem freeBelow_eq_empty_iff (descriptors : Descriptors) (limit : Nat) :
    descriptors.freeBelow limit = ∅ ↔ limit ≤ descriptors.lowestFree := by
  simp only [freeBelow, Finset.filter_eq_empty_iff, Finset.mem_range]
  constructor
  · intro used
    by_contra lower
    exact used (Nat.lt_of_not_le lower) descriptors.stream?_lowestFree
  · intro high number small free
    have lowest := descriptors.lowestFree_le_of_free free
    omega

theorem freeBelow_place (descriptors : Descriptors) (limit number : Nat) (stream : Stream) :
    (descriptors.place number stream).freeBelow limit =
      (descriptors.freeBelow limit).erase number := by
  ext other
  by_cases same : other = number <;> simp [freeBelow, stream?_place, same]

end Descriptors

/-- How many more streams a process can have open, `none` if there is no limit, and what the system
answers when there are none left. -/
structure Room where
  left : Option Nat := none
  refusal : Errno := .EMFILE
  deriving DecidableEq, Repr

def Room.less (room : Room) : Room := { room with left := room.left.map (· - 1) }

namespace World

def room (world : World) : Room :=
  { left := world.descriptorLimit.map fun limit => (world.process.descriptors.freeBelow limit).card
    refusal := world.descriptorErrno }

variable {world : World}

theorem left_room_eq_zero_iff :
    world.room.left = some 0 ↔
      world.descriptorLimit.any (· ≤ world.process.descriptors.lowestFree) = true := by
  unfold room
  cases world.descriptorLimit with
  | none => simp
  | some limit => simp [Descriptors.freeBelow_eq_empty_iff]

theorem openStream_of_none_left (full : world.room.left = some 0) (stream : Stream) :
    world.openStream stream = .error world.room.refusal := by
  simp only [openStream, left_room_eq_zero_iff.mp full, ↓reduceIte, room]

theorem openStream_of_left (left : world.room.left ≠ some 0) (stream : Stream) :
    world.openStream stream =
      .ok (world.mapDescriptors (·.place world.process.descriptors.lowestFree stream),
        world.process.descriptors.lowestFree) := by
  rw [ne_eq, left_room_eq_zero_iff] at left
  simp only [openStream, left, Bool.false_eq_true, ↓reduceIte]

theorem room_place (left : world.room.left ≠ some 0) (stream : Stream) :
    (world.mapDescriptors (·.place world.process.descriptors.lowestFree stream)).room =
      world.room.less := by
  rw [ne_eq, left_room_eq_zero_iff] at left
  simp only [room, Room.less, mapDescriptors, Option.map_map]
  cases limited : world.descriptorLimit with
  | none => rfl
  | some limit =>
      rw [limited] at left
      have lower : world.process.descriptors.lowestFree < limit := by simpa using left
      have free : world.process.descriptors.lowestFree ∈
          world.process.descriptors.freeBelow limit := by
        simp [Descriptors.freeBelow, lower, Descriptors.stream?_lowestFree]
      simp [Descriptors.freeBelow_place, Finset.card_erase_of_mem free]

end World

namespace FileTree

/-! ## Opening in a tree -/

/-- Opens a file from the directory `here` if there is room: the tree afterwards, and the place of
the file. -/
def openAt (files : FileTree) (here : Place) (room : Room) (mode : OpenMode) (path : String) :
    Except IoFailure (FileTree × Place) :=
  match checkPath path with
  | .error failure => .error failure
  | .ok () =>
    if room.left = some 0 then .error (.system room.refusal)
    else
      match files.walkPath here (World.OpenMode.aim mode) path with
      | .error errno => .error (.system errno)
      | .ok reached => (World.prepareFile files mode reached).mapError .system

theorem left_of_openAt {files : FileTree} {here : Place} {room : Room} {mode : OpenMode}
    {path : String} {result : FileTree × Place}
    (done : files.openAt here room mode path = .ok result) : room.left ≠ some 0 := by
  intro none
  unfold openAt at done
  rw [if_pos none] at done
  split at done <;> cases done

theorem openAt_unlimited {files : FileTree} {here : Place} {room : Room} {mode : OpenMode}
    {path : String} {result : FileTree × Place}
    (done : files.openAt here room mode path = .ok result) :
    files.openAt here {} mode path = .ok result := by
  have some_ := left_of_openAt done
  unfold openAt at done ⊢
  rwa [if_neg some_] at done

/-- There are regular files and directories only. -/
def Plain (files : FileTree) : Prop :=
  ∀ place node, files.node? place = some node →
    node = .directory ∨ ∃ content permissions, node = .file content permissions

/-- What opening a file changes in a tree. -/
inductive Opens (before : FileTree) (place : Place) : OpenMode → FileTree → Prop where
  | read : Opens before place .read before
  | kept {content : Bytes} {permissions : Permissions} :
      before.node? place = some (.file content permissions) → Opens before place .append before
  | emptied {after : FileTree} {content : Bytes} {permissions : Permissions} :
      before.node? place = some (.file content permissions) →
      after.node? place = some (.file [] permissions) →
      (∀ other, other ≠ place → after.node? other = before.node? other) →
      Opens before place .overwrite after
  | created {mode : OpenMode} {after : FileTree} :
      mode = .overwrite ∨ mode = .append →
      before.node? place = none → after.node? place = some (.file [] {}) →
      (∀ other, other ≠ place → after.node? other = before.node? other) →
      Opens before place mode after

variable {files after : FileTree} {place : Place} {node : Node}

theorem node?_put_self (files : FileTree) (node : Node) (below : place ≠ []) :
    (files.put place node).node? place = some node := by
  rw [node?_put _ _ _ _ below, if_pos rfl]

theorem node?_put_of_ne (files : FileTree) (node : Node) {other : Place}
    (different : other ≠ place) : (files.put place node).node? other = files.node? other := by
  by_cases root : other = []
  · simp [node?, root]
  · rw [node?_put _ _ _ _ root, if_neg different.symm]

theorem ne_root_of_file {content : Bytes} {permissions : Permissions}
    (file : files.node? place = some (.file content permissions)) : place ≠ [] := by
  rintro rfl
  cases file

theorem walk_node {aim : WalkAim} {links : Nat} {here : Place} {names : List String}
    {directory : Bool} (walked : walk files aim links here names directory = .ok (.node place node))
    (inside : node ≠ .directory) : files.node? place = some node := by
  fun_induction walk files aim links here names directory with grind

theorem walk_missing {aim : WalkAim} {links : Nat} {here : Place} {names : List String}
    {directory slash : Bool}
    (walked : walk files aim links here names directory = .ok (.missing place slash)) :
    place ≠ [] ∧ files.node? place = none := by
  fun_induction walk files aim links here names directory with grind [List.concat_ne_nil]

def OpenMode.Common (mode : OpenMode) : Prop := mode = .read ∨ mode = .overwrite ∨ mode = .append

variable {mode : OpenMode}

theorem opens_of_missing {known : Place} {slash : Bool} (common : OpenMode.Common mode)
    (below : known ≠ []) (absent : files.node? known = none)
    (done : World.prepareFile files mode (.missing known slash) = .ok (after, place)) :
    files.Opens place mode after := by
  simp only [World.prepareFile] at done
  split at done
  · cases done
  · rename_i notRead
    split at done
    · cases done
    · obtain ⟨rfl, rfl⟩ := Prod.mk.inj (Except.ok.inj done)
      have writes := common.resolve_left notRead
      exact .created writes absent (files.node?_put_self _ below)
        fun other different => files.node?_put_of_ne _ different

theorem opens_of_file {known : Place} {content : Bytes} {permissions : Permissions}
    (common : OpenMode.Common mode) (there : files.node? known = some (.file content permissions))
    (done : World.prepareFile files mode (.node known (.file content permissions)) =
      .ok (after, place)) : files.Opens place mode after := by
  have below := ne_root_of_file there
  simp only [World.prepareFile] at done
  split at done
  · cases done
  · split at done
    · cases done
    · split at done
      · rename_i overwrites
        obtain ⟨rfl, rfl⟩ := Prod.mk.inj (Except.ok.inj done)
        subst overwrites
        exact .emptied there (files.node?_put_self _ below)
          fun other different => files.node?_put_of_ne _ different
      · rename_i keeps
        obtain ⟨rfl, rfl⟩ := Prod.mk.inj (Except.ok.inj done)
        rcases common with rfl | rfl | rfl
        · exact .read
        · exact absurd rfl keeps
        · exact .kept there

theorem opens_of_directory {known : Place} (common : OpenMode.Common mode)
    (done : World.prepareFile files mode (.node known .directory) = .ok (after, place)) :
    files.Opens place mode after := by
  rcases common with rfl | rfl | rfl
  · obtain ⟨rfl, rfl⟩ := Prod.mk.inj (Except.ok.inj done)
    exact .read
  · cases done
  · cases done

/-- What becomes of a tree of files and directories when a file is opened in it. -/
theorem opens_of_openAt {here : Place} {room : Room} {path : String} (plain : files.Plain)
    (common : OpenMode.Common mode)
    (done : files.openAt here room mode path = .ok (after, place)) :
    files.Opens place mode after := by
  unfold openAt at done
  split at done
  · cases done
  · split at done
    · cases done
    · split at done
      · cases done
      · rename_i reached walked
        cases prepared : World.prepareFile files mode reached with
        | error errno =>
            rw [prepared] at done
            cases done
        | ok result =>
            rw [prepared] at done
            obtain rfl := Except.ok.inj done
            cases reached with
            | missing known slash =>
                obtain ⟨below, absent⟩ := walk_missing walked
                exact opens_of_missing common below absent prepared
            | node known node =>
                by_cases directory : node = .directory
                · subst directory
                  exact opens_of_directory common prepared
                · have there := walk_node walked directory
                  obtain same | ⟨content, permissions, rfl⟩ := plain known node there
                  · exact absurd same directory
                  · exact opens_of_file common there prepared

namespace Opens

theorem eq_of_read (opens : files.Opens place .read after) : after = files := by
  cases opens with
  | read => rfl
  | created writes => rcases writes with impossible | impossible <;> cases impossible

theorem plain (opens : files.Opens place mode after) (plain : files.Plain) : after.Plain := by
  cases opens with
  | read => exact plain
  | kept => exact plain
  | emptied before there others | created _ before there others =>
      intro other node found
      by_cases same : other = place
      · subst same
        rw [there] at found
        exact .inr ⟨_, _, (Option.some.inj found).symm⟩
      · exact plain other node (others other same ▸ found)

theorem file (opens : files.Opens place mode after) (writes : mode.writes = true) :
    ∃ content permissions, after.node? place = some (.file content permissions) ∧
      (mode = .append ∨ content = []) := by
  cases opens with
  | read => cases writes
  | kept there => exact ⟨_, _, there, .inl rfl⟩
  | emptied _ there | created _ _ there => exact ⟨_, _, there, .inr rfl⟩

end Opens

end FileTree

end PipeShell
