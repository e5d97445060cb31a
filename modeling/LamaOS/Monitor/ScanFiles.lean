import LamaOS.Monitor.ScanDirectory
import Mathlib.Data.List.Nodup

/-!
# The files that the scan comes to

As long as the paths that `scan_directory` builds fit their buffer, it analyzes each regular
file once that it can get to through directories it may open, by a path that leads to this
file, and nothing else. Symbolic links and special files are passed over, and so are `.` and
`..`, by which it would come to a file a second time.
-/

namespace LamaOS

namespace FileSystem

variable (fs : FileSystem)

mutual

/-- The locations of the regular files at and below a node, in the order of the entries, as far
as the directories on the way can be opened. -/
def filesAt (loc : Location) : FileNode → List Location
  | .regular => [loc]
  | .directory entries => if fs.canOpen loc then filesIn loc entries else []
  | .special | .symlink => []

/-- The same for entries of the directory at `loc`. -/
def filesIn (loc : Location) : List (FileName × FileNode) → List Location
  | [] => []
  | (name, node) :: entries => filesAt (loc ++ [name.bytes]) node ++ filesIn loc entries

end

/-- Every directory from the one at `loc` on, on the way down to the node at `loc ++ rest`, can
be opened. -/
def OpensTo (loc rest : Location) : Prop :=
  ∀ before name after, rest = before ++ name :: after → fs.canOpen (loc ++ before) = true

/-- Every path that the scan builds fits its buffer: the paths of the regular files and the
subdirectories in the directories that it can open. -/
def PathsFit : Prop :=
  ∀ loc entries name node, Visited fs loc → nodeAt fs.root loc = some (.directory entries) →
    fs.canOpen loc = true → (name, node) ∈ entries →
    (direntOf (name, node)).type = .reg ∨ (direntOf (name, node)).type = .dir →
    (pathString loc).length + 1 + name.bytes.length < pathMax

end FileSystem

variable {fs : FileSystem}

theorem filesIn_eq_flatMap (loc : Location) (entries : List (FileName × FileNode)) :
    fs.filesIn loc entries =
      entries.flatMap fun entry => fs.filesAt (loc ++ [entry.1.bytes]) entry.2 := by
  induction entries with
  | nil => rfl
  | cons entry entries ih =>
    obtain ⟨name, node⟩ := entry
    rw [FileSystem.filesIn, List.flatMap_cons, ih]

theorem opensTo_nil (loc : Location) : fs.OpensTo loc [] := by
  intro before name after split
  cases before with
  | nil => cases split
  | cons first before => cases split

theorem opensTo_cons (loc : Location) (name : List Byte) (rest : Location) :
    fs.OpensTo loc (name :: rest) ↔ fs.canOpen loc = true ∧ fs.OpensTo (loc ++ [name]) rest := by
  constructor
  · intro opens
    constructor
    · have here := opens [] name rest rfl
      rwa [List.append_nil] at here
    · intro before next after split
      have below := opens (name :: before) next after (by rw [split]; rfl)
      rwa [List.append_cons] at below
  · rintro ⟨here, below⟩ before next after split
    cases before with
    | nil => rwa [List.append_nil]
    | cons first before =>
      obtain ⟨rfl, rest'⟩ := List.cons.inj split
      rw [List.append_cons]
      exact below before next after rest'

theorem nodeAt_cons (root : FileNode) (name : List Byte) (rest : Location) :
    nodeAt root (name :: rest) = (root.child name).bind fun node => nodeAt node rest := by
  simp [nodeAt]

/-- Nothing is below a node that is not a directory. -/
theorem nodeAt_leaf {node node' : FileNode} {rest : Location}
    (found : nodeAt node rest = some node') (leaf : ∀ entries, node ≠ .directory entries) :
    node = node' ∧ rest = [] := by
  cases rest with
  | nil => exact ⟨Option.some.inj found, rfl⟩
  | cons name rest =>
    rw [nodeAt_cons] at found
    obtain ⟨child, isChild, -⟩ := Option.bind_eq_some_iff.mp found
    obtain ⟨entries, same, -⟩ := child_eq_some isChild
    exact absurd same (leaf entries)

theorem nodeAt_leaf_ne {node node' : FileNode} {rest : Location}
    (leaf : ∀ entries, node ≠ .directory entries) (other : node ≠ node') :
    nodeAt node rest ≠ some node' := by
  intro found
  obtain ⟨same, -⟩ := nodeAt_leaf found leaf
  exact other same

/-! ## Which locations these are -/

/-- The files below a node are the regular files that can be reached from it through directories
that can be opened. -/
theorem mem_filesAt {loc loc' : Location} {node : FileNode}
    (here : nodeAt fs.root loc = some node) :
    loc' ∈ fs.filesAt loc node ↔
      ∃ rest, loc' = loc ++ rest ∧ nodeAt node rest = some .regular ∧ fs.OpensTo loc rest := by
  induction size : node.depth using Nat.strong_induction_on generalizing loc node with
  | _ n ih =>
  cases node with
  | regular =>
    rw [FileSystem.filesAt, List.mem_singleton]
    constructor
    · rintro rfl
      exact ⟨[], (List.append_nil _).symm, rfl, opensTo_nil _⟩
    · rintro ⟨rest, rfl, file, -⟩
      obtain ⟨-, rfl⟩ := nodeAt_leaf file fun _ => nofun
      exact List.append_nil _
  | special =>
    rw [FileSystem.filesAt]
    constructor
    · intro mem
      cases mem
    · rintro ⟨rest, -, file, -⟩
      exact absurd file (nodeAt_leaf_ne (fun _ => nofun) nofun)
  | symlink =>
    rw [FileSystem.filesAt]
    constructor
    · intro mem
      cases mem
    · rintro ⟨rest, -, file, -⟩
      exact absurd file (nodeAt_leaf_ne (fun _ => nofun) nofun)
  | directory entries =>
    subst size
    rw [FileSystem.filesAt]
    constructor
    · intro mem
      split at mem
      · rename_i opened
        rw [filesIn_eq_flatMap, List.mem_flatMap] at mem
        obtain ⟨⟨name, child⟩, entry, mem⟩ := mem
        have less := FileNode.depth_lt_of_mem entry
        obtain ⟨rest, rfl, file, opens⟩ := (ih _ less (nodeAt_entry here entry) rfl).mp mem
        refine ⟨name.bytes :: rest, (List.append_cons _ _ _).symm, ?_, ?_⟩
        · rw [nodeAt_cons, child_of_mem (fs.unique loc entries here) entry]
          exact file
        · exact (opensTo_cons loc name.bytes rest).mpr ⟨opened, opens⟩
      · cases mem
    · rintro ⟨rest, rfl, file, opens⟩
      cases rest with
      | nil => cases file
      | cons component rest =>
        obtain ⟨opened, opens⟩ := (opensTo_cons loc component rest).mp opens
        rw [nodeAt_cons] at file
        obtain ⟨child, isChild, found⟩ := Option.bind_eq_some_iff.mp file
        obtain ⟨entries', same, name, rfl, entry⟩ := child_eq_some isChild
        obtain rfl := FileNode.directory.inj same
        have less := FileNode.depth_lt_of_mem entry
        rw [if_pos opened, filesIn_eq_flatMap, List.mem_flatMap]
        refine ⟨(name, child), entry, ?_⟩
        exact (ih _ less (nodeAt_entry here entry) rfl).mpr
          ⟨rest, List.append_cons _ _ _, found, opens⟩

/-- No file is met twice: entries of one directory have different names. -/
theorem filesAt_nodup {loc : Location} {node : FileNode} (here : nodeAt fs.root loc = some node) :
    (fs.filesAt loc node).Nodup := by
  induction size : node.depth using Nat.strong_induction_on generalizing loc node with
  | _ n ih =>
  cases node with
  | regular =>
    rw [FileSystem.filesAt]
    exact List.nodup_singleton loc
  | special =>
    rw [FileSystem.filesAt]
    exact List.nodup_nil
  | symlink =>
    rw [FileSystem.filesAt]
    exact List.nodup_nil
  | directory entries =>
    subst size
    rw [FileSystem.filesAt]
    split
    · rw [filesIn_eq_flatMap, List.nodup_flatMap]
      constructor
      · rintro ⟨name, child⟩ mem
        exact ih _ (FileNode.depth_lt_of_mem mem) (nodeAt_entry here mem) rfl
      · have apart : entries.Pairwise fun first second => first.1.bytes ≠ second.1.bytes :=
          List.pairwise_map.mp (fs.unique loc entries here)
        refine apart.imp_of_mem ?_
        rintro ⟨name, child⟩ ⟨name', child'⟩ mem mem' other loc' both both'
        obtain ⟨rest, same, -⟩ := (mem_filesAt (nodeAt_entry here mem)).mp both
        obtain ⟨rest', same', -⟩ := (mem_filesAt (nodeAt_entry here mem')).mp both'
        rw [same, ← List.append_cons, ← List.append_cons] at same'
        exact other (List.cons.inj (List.append_cancel_left same')).1
    · exact List.nodup_nil

/-! ## What the scan does -/

/-- What the scan does with one entry of the directory at a path. -/
def scanEntry (fs : FileSystem) (fuel : Nat) (path : List Byte) (analyzed : List (List Byte))
    (entry : Dirent) : Option (List (List Byte)) :=
  if entry.type = .reg then some (analyzed ++ [joinPath path entry.name])
  else if isSubdirectory entry then
    (scanDirectory fs fuel (joinPath path entry.name)).map (analyzed ++ ·)
  else some analyzed

theorem scanDirectory_closed {fuel : Nat} {path : List Byte}
    (closed : fs.readDirectory path = none) : scanDirectory fs (fuel + 1) path = some [] := by
  rw [scanDirectory, closed]

theorem scanDirectory_opened {fuel : Nat} {path : List Byte} {entries : List Dirent}
    (opened : fs.readDirectory path = some entries) :
    scanDirectory fs (fuel + 1) path = entries.foldlM (scanEntry fs fuel path) [] := by
  rw [scanDirectory, opened]
  rfl

/-- A directory is read by its path string. -/
theorem readDirectory_pathString {loc : Location} {entries : List (FileName × FileNode)}
    (here : nodeAt fs.root loc = some (.directory entries)) :
    fs.readDirectory (pathString loc) =
      if fs.canOpen loc then
        some (⟨dotName, .dir⟩ :: ⟨dotDotName, .dir⟩ :: entries.map direntOf)
      else none := by
  simp only [FileSystem.readDirectory, resolve_pathString here (by simp), here]

theorem isSubdirectory_direntOf (name : FileName) (entries : List (FileName × FileNode)) :
    isSubdirectory (direntOf (name, .directory entries)) = true := by
  have notDot : (name.bytes != dotName) = true := bne_iff_ne.mpr name.notDot
  have notDotDot : (name.bytes != dotDotName) = true := bne_iff_ne.mpr name.notDotDot
  simp [isSubdirectory, direntOf, notDot, notDotDot]

/-- A directory that the scan finds in one it can open is one that it comes to. -/
theorem Visited.entry {loc : Location} {entries sub : List (FileName × FileNode)}
    {name : FileName} (visited : Visited fs loc)
    (here : LamaOS.nodeAt fs.root loc = some (.directory entries))
    (opened : fs.canOpen loc = true) (mem : (name, .directory sub) ∈ entries) :
    Visited fs (loc ++ [name.bytes]) := by
  refine visited.sub ?_
  simp only [FileSystem.subdirectoriesAt, here, opened, if_true]
  refine List.mem_map.mpr ⟨direntOf (name, .directory sub), ?_, rfl⟩
  exact List.mem_filter.mpr ⟨List.mem_map_of_mem mem, rfl⟩

/-- An entry adds the files at and below its node, if the scan of a subdirectory does. -/
theorem scanEntry_node (fit : fs.PathsFit) {loc : Location}
    {entries : List (FileName × FileNode)} (visited : Visited fs loc)
    (here : nodeAt fs.root loc = some (.directory entries)) (opened : fs.canOpen loc = true)
    {fuel : Nat} {name : FileName} {node : FileNode} (mem : (name, node) ∈ entries)
    (down : ∀ sub, node = .directory sub →
      scanDirectory fs fuel (pathString (loc ++ [name.bytes])) =
        some ((fs.filesAt (loc ++ [name.bytes]) node).map pathString))
    (analyzed : List (List Byte)) :
    scanEntry fs fuel (pathString loc) analyzed (direntOf (name, node)) =
      some (analyzed ++ (fs.filesAt (loc ++ [name.bytes]) node).map pathString) := by
  cases node with
  | regular =>
    have short := fit loc entries name .regular visited here opened mem (.inl rfl)
    have path : joinPath (pathString loc) name.bytes = pathString (loc ++ [name.bytes]) := by
      rw [joinPath_of_short short, pathString_append]
    have regular : (direntOf (name, .regular)).type = .reg := rfl
    rw [scanEntry, if_pos regular, FileSystem.filesAt]
    exact congrArg (fun path => some (analyzed ++ [path])) path
  | special =>
    rw [scanEntry, if_neg nofun, if_neg nofun, FileSystem.filesAt, List.map_nil, List.append_nil]
  | symlink =>
    rw [scanEntry, if_neg nofun, if_neg nofun, FileSystem.filesAt, List.map_nil, List.append_nil]
  | directory sub =>
    have short := fit loc entries name (.directory sub) visited here opened mem (.inr rfl)
    have path : joinPath (pathString loc) (direntOf (name, .directory sub)).name =
        pathString (loc ++ [name.bytes]) := by
      rw [pathString_append]
      exact joinPath_of_short short
    rw [scanEntry, if_neg nofun, if_pos (isSubdirectory_direntOf name sub), path, down sub rfl]
    rfl

/-- Entries add the files at and below their nodes, one after the other. -/
theorem foldlM_scanEntry {loc : Location} {fuel : Nat} {entries : List (FileName × FileNode)}
    (each : ∀ entry ∈ entries, ∀ analyzed,
      scanEntry fs fuel (pathString loc) analyzed (direntOf entry) =
        some (analyzed ++ (fs.filesAt (loc ++ [entry.1.bytes]) entry.2).map pathString))
    (analyzed : List (List Byte)) :
    (entries.map direntOf).foldlM (scanEntry fs fuel (pathString loc)) analyzed =
      some (analyzed ++ (fs.filesIn loc entries).map pathString) := by
  induction entries generalizing analyzed with
  | nil => simp [FileSystem.filesIn]
  | cons entry entries ih =>
    obtain ⟨first, later⟩ := List.forall_mem_cons.mp each
    obtain ⟨name, node⟩ := entry
    rw [List.map_cons, List.foldlM_cons, first, Option.bind_eq_bind, Option.bind_some, ih later,
      FileSystem.filesIn, List.map_append, List.append_assoc]

/-- `.` and `..` are passed over. -/
theorem scanEntry_dots (fs : FileSystem) (fuel : Nat) (path : List Byte)
    (analyzed : List (List Byte)) :
    scanEntry fs fuel path analyzed ⟨dotName, .dir⟩ = some analyzed ∧
      scanEntry fs fuel path analyzed ⟨dotDotName, .dir⟩ = some analyzed := by
  constructor
  · rw [scanEntry, if_neg nofun, if_neg (by decide)]
  · rw [scanEntry, if_neg nofun, if_neg (by decide)]

/-- The scan of a directory that it comes to analyzes the files below it. -/
theorem scanDirectory_files (fit : fs.PathsFit) {n : Nat} {loc : Location}
    {entries : List (FileName × FileNode)} (visited : Visited fs loc)
    (here : nodeAt fs.root loc = some (.directory entries))
    (deep : (FileNode.directory entries).depth ≤ n) :
    scanDirectory fs n (pathString loc) =
      some ((fs.filesAt loc (.directory entries)).map pathString) := by
  induction n generalizing loc entries with
  | zero => simp [FileNode.depth] at deep
  | succ n ih =>
    have read := readDirectory_pathString here
    by_cases opened : fs.canOpen loc = true
    · rw [if_pos opened] at read
      rw [scanDirectory_opened read, FileSystem.filesAt, if_pos opened]
      obtain ⟨dot, dotDot⟩ := scanEntry_dots fs n (pathString loc) []
      rw [List.foldlM_cons, dot, Option.bind_eq_bind, Option.bind_some, List.foldlM_cons, dotDot,
        Option.bind_eq_bind, Option.bind_some]
      refine foldlM_scanEntry ?_ []
      rintro ⟨name, node⟩ mem analyzed
      refine scanEntry_node fit visited here opened mem ?_ analyzed
      rintro sub rfl
      have less := FileNode.depth_lt_of_mem mem
      exact ih (visited.entry here opened mem) (nodeAt_entry here mem) (by omega)
    · rw [if_neg opened] at read
      rw [scanDirectory_closed read, FileSystem.filesAt, if_neg opened]
      rfl

/-- Scanning covers every file exactly once. In every file system in which the paths that the
scan builds fit, `scan_directory("/")` comes to its end, and calls `analyze_elf64` once for each
regular file that has no ancestor that cannot be opened, with a path that leads to the file, and
for nothing else. -/
theorem scanDirectory_covers (fs : FileSystem) (fit : fs.PathsFit) :
    ∃ files : List Location,
      scanDirectory fs fs.root.depth [slash] = some (files.map pathString) ∧ files.Nodup ∧
      (∀ loc, loc ∈ files ↔ nodeAt fs.root loc = some .regular ∧
        ∀ before name after, loc = before ++ name :: after → fs.canOpen before = true) ∧
      ∀ loc ∈ files, fs.resolve (pathString loc) = some loc := by
  have here : nodeAt fs.root [] = some fs.root := rfl
  have covered (loc : Location) : loc ∈ fs.filesAt [] fs.root ↔
      nodeAt fs.root loc = some .regular ∧ fs.OpensTo [] loc := by
    rw [mem_filesAt here]
    constructor
    · rintro ⟨rest, rfl, file, opens⟩
      exact ⟨file, opens⟩
    · rintro ⟨file, opens⟩
      exact ⟨loc, rfl, file, opens⟩
  refine ⟨fs.filesAt [] fs.root, ?_, filesAt_nodup here, covered, ?_⟩
  · exact scanDirectory_files fit .root here (Nat.le_refl _)
  · intro loc mem
    exact resolve_pathString ((covered loc).mp mem).1 (by simp)

/-! ## Trees whose paths fit -/

/-- Every step down takes a name of at most 255 bytes and a level of the tree. -/
theorem pathString_length_le {root node : FileNode} {loc : Location}
    (found : nodeAt root loc = some node) :
    (pathString loc).length ≤ 256 * loc.length + 1 ∧ loc.length + node.depth ≤ root.depth := by
  rw [pathString_length]
  induction loc generalizing root with
  | nil =>
    obtain rfl : root = node := Option.some.inj found
    simp
  | cons name rest ih =>
    rw [nodeAt_cons] at found
    obtain ⟨child, isChild, below⟩ := Option.bind_eq_some_iff.mp found
    obtain ⟨entries, rfl, fileName, rfl, mem⟩ := child_eq_some isChild
    obtain ⟨length, depth⟩ := ih below
    have short := fileName.short
    have less := FileNode.depth_le_of_mem mem
    rw [List.map_cons, List.sum_cons, List.length_cons, FileNode.depth]
    constructor
    · omega
    · omega

/-- In a tree of at most 15 levels of directories all paths fit. -/
theorem pathsFit_of_depth (fs : FileSystem) (shallow : fs.root.depth ≤ 15) : fs.PathsFit := by
  intro loc entries name node _ here _ _ _
  obtain ⟨length, depth⟩ := pathString_length_le here
  have short := name.short
  rw [FileNode.depth] at depth
  simp only [pathMax]
  omega

/-- Names do not repeat in a directory, nor below it, if they do not in its entries. -/
theorem unique_directory {entries sub : List (FileName × FileNode)}
    (names : (entries.map fun entry => entry.1.bytes).Nodup)
    (below : ∀ entry ∈ entries, ∀ loc sub, nodeAt entry.2 loc = some (.directory sub) →
      (sub.map fun entry => entry.1.bytes).Nodup) {loc : Location}
    (found : nodeAt (.directory entries) loc = some (.directory sub)) :
    (sub.map fun entry => entry.1.bytes).Nodup := by
  cases loc with
  | nil =>
    obtain rfl : entries = sub := FileNode.directory.inj (Option.some.inj found)
    exact names
  | cons name rest =>
    rw [nodeAt_cons] at found
    obtain ⟨child, isChild, found⟩ := Option.bind_eq_some_iff.mp found
    obtain ⟨entries', same, fileName, -, mem⟩ := child_eq_some isChild
    obtain rfl := FileNode.directory.inj same
    exact below _ mem rest sub found

/-- A name of `n + 1` letters. -/
def letter (n : Fin 255) : FileName := letters (n.val + 1) (Nat.succ_pos n.val) n.isLt

/-- A directory with one regular file. -/
def fileDirectory : FileNode := .directory [(letter 0, .regular)]

/-- A root directory with a file, two directories with a file each and a symbolic link. -/
def sampleEntries : List (FileName × FileNode) :=
  [(letter 0, .regular),
    (letter 1, fileDirectory),
    (letter 2, fileDirectory),
    (letter 3, .symlink)]

theorem fileDirectory_unique {loc : Location} {sub : List (FileName × FileNode)}
    (found : nodeAt fileDirectory loc = some (.directory sub)) :
    (sub.map fun entry => entry.1.bytes).Nodup := by
  refine unique_directory (by decide) ?_ found
  intro entry mem loc sub found
  obtain rfl := List.mem_singleton.mp mem
  exact absurd found (nodeAt_leaf_ne (fun _ same => by cases same) fun same => by cases same)

theorem sampleEntries_unique {loc : Location} {sub : List (FileName × FileNode)}
    (found : nodeAt (.directory sampleEntries) loc = some (.directory sub)) :
    (sub.map fun entry => entry.1.bytes).Nodup := by
  refine unique_directory (by decide) ?_ found
  intro entry mem loc sub found
  simp only [sampleEntries, List.mem_cons, List.not_mem_nil, or_false] at mem
  rcases mem with rfl | rfl | rfl | rfl
  · exact absurd found (nodeAt_leaf_ne (fun _ same => by cases same) fun same => by cases same)
  · exact fileDirectory_unique found
  · exact fileDirectory_unique found
  · exact absurd found (nodeAt_leaf_ne (fun _ same => by cases same) fun same => by cases same)

/-- The second directory cannot be opened, and the link leads back to the root. -/
def sampleSystem : FileSystem where
  rootEntries := sampleEntries
  canOpen := fun loc => loc != [(letter 2).bytes]
  follow := fun _ => some []
  unique := fun _ _ found => sampleEntries_unique found

/-- There the file in the first directory is analyzed, and the one in the second is not. -/
theorem scanDirectory_covers_sample :
    ∃ files : List Location,
      scanDirectory sampleSystem sampleSystem.root.depth [slash] = some (files.map pathString) ∧
      files.Nodup ∧
      [(letter 1).bytes, (letter 0).bytes] ∈ files ∧
      [(letter 2).bytes, (letter 0).bytes] ∉ files := by
  obtain ⟨files, scanned, nodup, covered, -⟩ :=
    scanDirectory_covers sampleSystem (pathsFit_of_depth _ (by decide))
  refine ⟨files, scanned, nodup, (covered _).mpr ⟨rfl, ?_⟩, ?_⟩
  · intro before name after split
    refine bne_iff_ne.mpr ?_
    rintro rfl
    have same := (List.cons.inj split).1
    revert same
    decide
  · intro mem
    have opened := ((covered _).mp mem).2 [_] _ [] rfl
    revert opened
    decide

end LamaOS
