import LamaOS.Misc.ByteMemory
import Mathlib.Data.List.Induction

/-!
# Directory trees and path strings

The file system that the monitor `exe.c` scans: a finite tree of directories, regular files,
special files and symbolic links. A location is the list of names from the root to a node.
Path strings are resolved component by component as the kernel does it; where a symbolic
link leads is a parameter, and so is which directories can be opened.
-/

namespace LamaOS

/-- The character `/`. -/
def slash : Byte := 0x2F

/-- The directory entry `.`. -/
def dotName : List Byte := [0x2E]

/-- The directory entry `..`. -/
def dotDotName : List Byte := [0x2E, 0x2E]

/-- A file name: 1 to 255 bytes without slash or zero byte, other than `.` and `..`. -/
structure FileName where
  bytes : List Byte
  nonempty : bytes ≠ []
  short : bytes.length ≤ 255
  noSlash : slash ∉ bytes
  noNul : 0 ∉ bytes
  notDot : bytes ≠ dotName
  notDotDot : bytes ≠ dotDotName

/-- A node of the tree. -/
inductive FileNode where
  | regular
  | special
  | symlink
  | directory (entries : List (FileName × FileNode))

namespace FileNode

mutual

/-- The number of directories on the longest way down from a node. -/
def depth : FileNode → Nat
  | directory entries => entriesDepth entries + 1
  | _ => 0

/-- The greatest depth among the entries of a directory. -/
def entriesDepth : List (FileName × FileNode) → Nat
  | [] => 0
  | (_, node) :: entries => max node.depth (entriesDepth entries)

end

theorem depth_le_of_mem {entries : List (FileName × FileNode)} {name : FileName}
    {node : FileNode} (h : (name, node) ∈ entries) : node.depth ≤ entriesDepth entries := by
  induction entries with
  | nil => cases h
  | cons entry entries ih =>
    obtain ⟨name', node'⟩ := entry
    rw [entriesDepth]
    rcases List.mem_cons.mp h with h | h
    · obtain ⟨-, rfl⟩ := Prod.mk.inj h
      exact Nat.le_max_left _ _
    · exact Nat.le_trans (ih h) (Nat.le_max_right _ _)

theorem depth_lt_of_mem {entries : List (FileName × FileNode)} {name : FileName}
    {node : FileNode} (h : (name, node) ∈ entries) : node.depth < (directory entries).depth := by
  rw [depth]
  exact Nat.lt_succ_of_le (depth_le_of_mem h)

/-- The node that an entry of a directory names. -/
def child (node : FileNode) (name : List Byte) : Option FileNode :=
  match node with
  | directory entries => (entries.find? fun entry => entry.1.bytes == name).map Prod.snd
  | _ => none

end FileNode

/-- The names on the way from the root to a node. -/
abbrev Location := List (List Byte)

/-- The node at a location below `root`. -/
def nodeAt (root : FileNode) (loc : Location) : Option FileNode := loc.foldlM FileNode.child root

/-- A file system. The names within a directory differ from each other. -/
structure FileSystem where
  rootEntries : List (FileName × FileNode)
  /-- Whether the process may open the directory at a location. -/
  canOpen : Location → Bool
  /-- The location that the symbolic link at a location leads to, if it leads anywhere. -/
  follow : Location → Option Location
  unique : ∀ loc entries, nodeAt (.directory rootEntries) loc = some (.directory entries) →
    (entries.map fun entry => entry.1.bytes).Nodup

/-- The types of directory entries that matter to the scan. -/
inductive DirentType where
  | reg
  | dir
  | lnk
  | other
  deriving DecidableEq, Repr

/-- `struct dirent`. -/
structure Dirent where
  name : List Byte
  type : DirentType
  deriving DecidableEq, Repr

/-- The directory entry of a node. -/
def direntOf (entry : FileName × FileNode) : Dirent :=
  ⟨entry.1.bytes, match entry.2 with
    | .regular => .reg
    | .special => .other
    | .symlink => .lnk
    | .directory _ => .dir⟩

namespace FileSystem

variable (fs : FileSystem)

/-- The root directory. -/
def root : FileNode := .directory fs.rootEntries

/-- One component of a path, seen from the directory at `loc`. -/
def resolveComponent (loc : Location) (component : List Byte) : Option Location :=
  match nodeAt fs.root loc with
  | some (.directory _) =>
    if component = [] ∨ component = dotName then some loc
    else if component = dotDotName then some loc.dropLast
    else
      match nodeAt fs.root (loc ++ [component]) with
      | some .symlink => fs.follow (loc ++ [component])
      | some _ => some (loc ++ [component])
      | none => none
  | _ => none

/-- The location that an absolute path leads to. -/
def resolve (path : List Byte) : Option Location :=
  (path.splitOn slash).foldlM fs.resolveComponent []

/-- `opendir` and `readdir`: all entries of the directory that a path leads to. -/
def readDirectory (path : List Byte) : Option (List Dirent) :=
  match fs.resolve path with
  | none => none
  | some loc =>
    match nodeAt fs.root loc with
    | some (.directory entries) =>
      if fs.canOpen loc then
        some (⟨dotName, .dir⟩ :: ⟨dotDotName, .dir⟩ :: entries.map direntOf)
      else none
    | _ => none

end FileSystem

/-! ## Locations and their path strings -/

/-- The path string that the scan uses for a location: it starts from `/`, so every path
but the root's begins with two slashes. -/
def pathString (loc : Location) : List Byte := slash :: loc.flatMap fun name => slash :: name

theorem pathString_append (loc : Location) (name : List Byte) :
    pathString (loc ++ [name]) = pathString loc ++ slash :: name := by
  simp [pathString]

theorem pathString_length (loc : Location) :
    (pathString loc).length = (loc.map fun name => name.length + 1).sum + 1 := by
  simp [pathString, List.length_flatMap]

theorem nodeAt_append (root : FileNode) (loc : Location) (name : List Byte) :
    nodeAt root (loc ++ [name]) = (nodeAt root loc).bind fun node => node.child name := by
  simp [nodeAt, List.foldlM_append]

/-- Only directories have children, and a child has a proper name. -/
theorem child_eq_some {node child : FileNode} {name : List Byte}
    (h : node.child name = some child) :
    ∃ entries, node = .directory entries ∧
      ∃ fileName : FileName, fileName.bytes = name ∧ (fileName, child) ∈ entries := by
  cases node with
  | directory entries =>
    refine ⟨entries, rfl, ?_⟩
    obtain ⟨⟨fileName, node⟩, found, rfl⟩ := Option.map_eq_some_iff.mp h
    exact ⟨fileName, by simpa using List.find?_some found, List.mem_of_find?_eq_some found⟩
  | regular => cases h
  | special => cases h
  | symlink => cases h

/-- In a directory without repeated names every entry is found under its name. -/
theorem child_of_mem {entries : List (FileName × FileNode)} {fileName : FileName}
    {node : FileNode} (unique : (entries.map fun entry => entry.1.bytes).Nodup)
    (h : (fileName, node) ∈ entries) :
    (FileNode.directory entries).child fileName.bytes = some node := by
  induction entries with
  | nil => cases h
  | cons entry entries ih =>
    obtain ⟨first, unique⟩ := List.nodup_cons.mp unique
    rcases List.mem_cons.mp h with rfl | h
    · simp [FileNode.child]
    · -- the first entry has another name
      have other : entry.1.bytes ≠ fileName.bytes := fun same =>
        first (List.mem_map.mpr ⟨_, h, same.symm⟩)
      have rest := ih unique h
      simp only [FileNode.child] at rest ⊢
      rw [List.find?_cons_of_neg (by simpa using other), rest]

variable {fs : FileSystem}

/-- An entry of the directory at a location is the node one step further down. -/
theorem nodeAt_entry {loc : Location} {entries : List (FileName × FileNode)} {name : FileName}
    {node : FileNode} (here : nodeAt fs.root loc = some (.directory entries))
    (h : (name, node) ∈ entries) : nodeAt fs.root (loc ++ [name.bytes]) = some node := by
  rw [nodeAt_append, here]
  exact child_of_mem (fs.unique loc entries here) h

/-- A path string leads to its location, unless that is a symbolic link. -/
theorem resolve_pathString {loc : Location} {node : FileNode}
    (h : nodeAt fs.root loc = some node) (real : node ≠ .symlink) :
    fs.resolve (pathString loc) = some loc := by
  induction loc using List.reverseRecOn generalizing node with
  | nil => rfl
  | append_singleton loc name ih =>
    rw [nodeAt_append] at h
    obtain ⟨parent, atParent, isChild⟩ := Option.bind_eq_some_iff.mp h
    obtain ⟨entries, rfl, fileName, rfl, mem⟩ := child_eq_some isChild
    have before := ih atParent (by simp)
    have split : (pathString (loc ++ [fileName.bytes])).splitOn slash =
        (pathString loc).splitOn slash ++ [fileName.bytes] := by
      rw [pathString_append, List.splitOn_append_cons_self,
        List.splitOn_eq_singleton fileName.noSlash]
    have last : fs.resolveComponent loc fileName.bytes = some (loc ++ [fileName.bytes]) := by
      have here : nodeAt fs.root (loc ++ [fileName.bytes]) = some node := by
        rw [nodeAt_append]; exact h
      simp only [FileSystem.resolveComponent, atParent, fileName.nonempty, fileName.notDot,
        fileName.notDotDot, or_self, if_false, here]
    rw [FileSystem.resolve] at before ⊢
    rw [split, List.foldlM_append, before]
    simp [last]

end LamaOS
