import LamaOS.Misc.CallDepth
import LamaOS.Monitor.FileTree

/-!
# `scan_directory`

The recursive scan of `exe.c`. A path that is longer than the buffer is cut off without
notice, and every path built from a path that fills the buffer is that path again. So the
scan ends, unless such a path happens to name a directory with a subdirectory: then it calls
itself with the same path for ever.
-/

namespace LamaOS

/-- `PATH_MAX`. -/
abbrev pathMax : Nat := 4096

/-- `snprintf(buffer, PATH_MAX, "%s/%s", path, name)`. -/
def joinPath (path name : List Byte) : List Byte := (path ++ slash :: name).take (pathMax - 1)

/-- The entries that `scan_directory` goes down into. -/
def isSubdirectory (entry : Dirent) : Bool :=
  entry.type == .dir && entry.name != dotName && entry.name != dotDotName

/-- `scan_directory(path)` with at most `fuel` calls nested in one another: the paths that
`analyze_elf64` is called with, in order. -/
def scanDirectory (fs : FileSystem) : Nat → List Byte → Option (List (List Byte))
  | 0, _ => none
  | fuel + 1, path =>
    match fs.readDirectory path with
    | none => some []
    | some entries => entries.foldlM (fun analyzed entry =>
        if entry.type = .reg then some (analyzed ++ [joinPath path entry.name])
        else if isSubdirectory entry then
          (scanDirectory fs fuel (joinPath path entry.name)).map (analyzed ++ ·)
        else some analyzed) []

/-! ## The calls the scan makes -/

namespace FileSystem

variable (fs : FileSystem)

/-- The subdirectories in the directory at a location, none if it cannot be opened. -/
def subdirectoriesAt (loc : Location) : List (List Byte) :=
  match nodeAt fs.root loc with
  | some (.directory entries) =>
    if fs.canOpen loc then
      ((entries.map direntOf).filter fun entry => entry.type == .dir).map Dirent.name
    else []
  | _ => []

/-- The subdirectories that the scan finds under a path. -/
def subdirectories (path : List Byte) : List (List Byte) :=
  match fs.readDirectory path with
  | none => []
  | some entries => (entries.filter isSubdirectory).map Dirent.name

/-- The call for `path` calls the scan for `path'`. -/
def ScanCall (path path' : List Byte) : Prop :=
  ∃ name ∈ fs.subdirectories path, path' = joinPath path name

end FileSystem

variable {fs : FileSystem}

/-- A fold whose steps succeed independently of the accumulator. -/
theorem foldlM_isSome {α β : Type} (f : β → α → Option β) (good : α → Prop)
    (step : ∀ b a, (f b a).isSome ↔ good a) (xs : List α) (b : β) :
    (xs.foldlM f b).isSome ↔ ∀ a ∈ xs, good a := by
  induction xs generalizing b with
  | nil => simp
  | cons x xs ih =>
    rw [List.foldlM_cons, List.forall_mem_cons, ← step b x]
    cases f b x with
    | none => simp
    | some b' => simpa using ih b'

/-- The scan ends within `n` nested calls exactly when the recursion does. -/
theorem scanDirectory_isSome (n : Nat) (path : List Byte) :
    (scanDirectory fs n path).isSome ↔ CallDepth.Within fs.ScanCall n path := by
  induction n generalizing path with
  | zero => simp [scanDirectory, CallDepth.Within]
  | succ n ih =>
    simp only [scanDirectory, CallDepth.Within, FileSystem.ScanCall, FileSystem.subdirectories]
    cases fs.readDirectory path with
    | none => simp
    | some entries =>
      dsimp only
      rw [foldlM_isSome _ fun entry => isSubdirectory entry →
        CallDepth.Within fs.ScanCall n (joinPath path entry.name)]
      · constructor
        · rintro all _ ⟨name, named, rfl⟩
          obtain ⟨entry, mem, rfl⟩ := List.mem_map.mp named
          obtain ⟨listed, down⟩ := List.mem_filter.mp mem
          exact all entry listed down
        · intro all entry mem down
          exact all _ ⟨entry.name,
            List.mem_map_of_mem (List.mem_filter.mpr ⟨mem, down⟩), rfl⟩
      · intro analyzed entry
        by_cases regular : entry.type = .reg
        · simp [regular, isSubdirectory]
        · by_cases down : isSubdirectory entry
          · simp [regular, down, ih]
          · simp [regular, down]

/-- A path that fits is built as it should be. -/
theorem joinPath_of_short {path name : List Byte} (h : path.length + 1 + name.length < pathMax) :
    joinPath path name = path ++ slash :: name := by
  rw [joinPath, List.take_of_length_le]
  rw [List.length_append, List.length_cons]
  simp only [pathMax] at *
  omega

/-- A path that fills the buffer takes no further name. -/
theorem joinPath_of_full {path name : List Byte} (h : path.length = pathMax - 1) :
    joinPath path name = path := by
  rw [joinPath, List.take_append_of_le_length (Nat.le_of_eq h.symm), ← h, List.take_length]

/-- What the scan finds under the path string of a location is what is there. -/
theorem subdirectories_pathString {loc : Location} {entries : List (FileName × FileNode)}
    (h : nodeAt fs.root loc = some (.directory entries)) :
    fs.subdirectories (pathString loc) = fs.subdirectoriesAt loc := by
  have proper : ∀ entry ∈ entries.map direntOf,
      isSubdirectory entry = (entry.type == .dir) := by
    intro entry mem
    obtain ⟨⟨name, node⟩, -, rfl⟩ := List.mem_map.mp mem
    have notDot : (name.bytes != dotName) = true := bne_iff_ne.mpr name.notDot
    have notDotDot : (name.bytes != dotDotName) = true := bne_iff_ne.mpr name.notDotDot
    simp only [isSubdirectory, direntOf, notDot, notDotDot, Bool.and_true]
  simp only [FileSystem.subdirectories, FileSystem.readDirectory, FileSystem.subdirectoriesAt,
    resolve_pathString h (by simp), h]
  by_cases opened : fs.canOpen loc
  · have dots : isSubdirectory ⟨dotName, .dir⟩ = false ∧
        isSubdirectory ⟨dotDotName, .dir⟩ = false := by decide
    simp only [opened, if_true, List.filter_cons, dots.1, dots.2, Bool.false_eq_true, if_false]
    rw [List.filter_congr proper]
  · simp [opened]

/-! ## Which directories the scan comes to -/

/-- The directories that can be reached from the root through directories that can be
opened. -/
inductive Visited (fs : FileSystem) : Location → Prop where
  | root : Visited fs []
  | sub {loc : Location} {name : List Byte} (parent : Visited fs loc)
      (listed : name ∈ fs.subdirectoriesAt loc) : Visited fs (loc ++ [name])

/-- A listed subdirectory is a directory, with less depth than the one it is in. -/
theorem nodeAt_of_listed {loc : Location} {name : List Byte}
    (listed : name ∈ fs.subdirectoriesAt loc) :
    ∃ entries sub, nodeAt fs.root loc = some (.directory entries) ∧
      nodeAt fs.root (loc ++ [name]) = some (.directory sub) ∧
      (FileNode.directory sub).depth < (FileNode.directory entries).depth := by
  unfold FileSystem.subdirectoriesAt at listed
  split at listed
  · rename_i entries here
    split at listed
    · obtain ⟨dirent, mem, rfl⟩ := List.mem_map.mp listed
      obtain ⟨mapped, isDir⟩ := List.mem_filter.mp mem
      obtain ⟨⟨fileName, node⟩, entry, rfl⟩ := List.mem_map.mp mapped
      cases node with
      | directory sub =>
        exact ⟨entries, sub, here, nodeAt_entry here entry, FileNode.depth_lt_of_mem entry⟩
      | regular => simp [direntOf] at isDir
      | special => simp [direntOf] at isDir
      | symlink => simp [direntOf] at isDir
    · cases listed
  · cases listed

theorem Visited.nodeAt {loc : Location} (visited : Visited fs loc) :
    ∃ entries, LamaOS.nodeAt fs.root loc = some (.directory entries) := by
  cases visited with
  | root => exact ⟨fs.rootEntries, rfl⟩
  | sub _ listed =>
    obtain ⟨_, sub, _, here, _⟩ := nodeAt_of_listed listed
    exact ⟨sub, here⟩

/-- As long as the path string of a directory does not fill the buffer, the scan gets to the
directory, by that path string. -/
theorem Visited.reached {loc : Location} (visited : Visited fs loc)
    (short : (pathString loc).length < pathMax - 1) :
    Relation.ReflTransGen fs.ScanCall (pathString []) (pathString loc) := by
  induction visited with
  | root => exact .refl
  | @sub loc name parent listed ih =>
    rw [pathString_append, List.length_append, List.length_cons] at short
    obtain ⟨entries, here⟩ := parent.nodeAt
    refine (ih (by omega)).tail ⟨name, ?_, ?_⟩
    · rw [subdirectories_pathString here]
      exact listed
    · rw [pathString_append, joinPath_of_short (by simp only [pathMax] at *; omega)]

/-- Wherever the path to a subdirectory fills the buffer, what the cut path leads to has no
subdirectory, if it is a directory that can be opened at all. -/
def CutPathsHarmless (fs : FileSystem) : Prop :=
  ∀ loc name, Visited fs loc → (pathString loc).length < pathMax - 1 →
    name ∈ fs.subdirectoriesAt loc →
    pathMax - 1 ≤ (pathString loc).length + 1 + name.length →
    fs.subdirectories (joinPath (pathString loc) name) = []

/-- A harmful cut path is scanned from within its own scan. -/
theorem scanDirectory_eq_none (harmful : ¬ CutPathsHarmless fs) (n : Nat) :
    scanDirectory fs n (pathString []) = none := by
  simp only [CutPathsHarmless, not_forall] at harmful
  obtain ⟨loc, name, visited, short, listed, long, some⟩ := harmful
  rw [← Option.not_isSome_iff_eq_none, scanDirectory_isSome]
  intro within
  obtain ⟨entries, here⟩ := visited.nodeAt
  have call : fs.ScanCall (pathString loc) (joinPath (pathString loc) name) :=
    ⟨name, by rw [subdirectories_pathString here]; exact listed, rfl⟩
  have full : (joinPath (pathString loc) name).length = pathMax - 1 := by
    rw [joinPath, List.length_take, List.length_append, List.length_cons]
    omega
  obtain ⟨name', listed'⟩ := List.exists_mem_of_ne_nil _ some
  obtain ⟨m, within'⟩ := CallDepth.within_of_reaches within ((visited.reached short).tail call)
  exact CallDepth.not_within_of_self ⟨name', listed', (joinPath_of_full full).symm⟩ m within'

/-- The calls that the scan makes on a tree without harmful cut paths: `n` bounds the depth
of the directory a call is for; a cut path is the end of its branch. -/
def ScanMeasure (fs : FileSystem) (n : Nat) (path : List Byte) : Prop :=
  (∃ loc node, path = pathString loc ∧ Visited fs loc ∧ path.length < pathMax - 1 ∧
    nodeAt fs.root loc = some node ∧ node.depth ≤ n) ∨
  (0 < n ∧ fs.subdirectories path = [])

theorem scanMeasure_positive (path : List Byte) : ¬ ScanMeasure fs 0 path := by
  rintro (⟨loc, node, rfl, visited, short, here, bound⟩ | ⟨pos, _⟩)
  · obtain ⟨entries, here'⟩ := visited.nodeAt
    obtain rfl := Option.some.inj (here.symm.trans here')
    simp [FileNode.depth] at bound
  · cases pos

theorem scanMeasure_lower (harmless : CutPathsHarmless fs) (n : Nat) (path path' : List Byte)
    (measure : ScanMeasure fs (n + 1) path) (call : fs.ScanCall path path') :
    ScanMeasure fs n path' := by
  obtain ⟨name, found, rfl⟩ := call
  rcases measure with ⟨loc, node, rfl, visited, short, here, bound⟩ | ⟨_, none⟩
  · obtain ⟨entries, here'⟩ := visited.nodeAt
    rw [subdirectories_pathString here'] at found
    obtain ⟨entries, sub, here', below, less⟩ := nodeAt_of_listed found
    obtain rfl := Option.some.inj (here.symm.trans here')
    by_cases fits : (pathString loc).length + 1 + name.length < pathMax - 1
    · left
      refine ⟨loc ++ [name], .directory sub, ?_, visited.sub found, ?_, below, by omega⟩
      · rw [pathString_append, joinPath_of_short (by simp only [pathMax] at *; omega)]
      · rw [joinPath_of_short (by simp only [pathMax] at *; omega), List.length_append,
          List.length_cons]
        omega
    · right
      have positive : 0 < (FileNode.directory sub).depth := Nat.succ_pos _
      exact ⟨by omega, harmless loc name visited short found (by omega)⟩
  · rw [none] at found
    cases found

/-- `scan_directory("/")` ends, with at most as many nested calls as the tree is deep,
exactly when no path that was cut off leads to a directory with a subdirectory. -/
theorem scanDirectory_terminates_iff (fs : FileSystem) :
    (scanDirectory fs fs.root.depth [slash]).isSome ↔ CutPathsHarmless fs := by
  constructor
  · intro ends
    by_contra harmful
    have diverges := scanDirectory_eq_none harmful fs.root.depth
    rw [show pathString [] = [slash] from rfl] at diverges
    rw [diverges] at ends
    cases ends
  · intro harmless
    rw [scanDirectory_isSome]
    apply CallDepth.within_of_measure (ScanMeasure fs) scanMeasure_positive
      (scanMeasure_lower harmless)
    exact .inl ⟨[], fs.root, rfl, .root, by decide, rfl, Nat.le_refl _⟩

/-! ## A path that fills the buffer -/

/-- Directories inside one another, with nothing else in them. -/
def chain : List FileName → FileNode
  | [] => .directory []
  | name :: names => .directory [(name, chain names)]

theorem nodeAt_chain (before after : List FileName) :
    nodeAt (chain (before ++ after)) (before.map FileName.bytes) = some (chain after) := by
  induction before with
  | nil => rfl
  | cons name before ih =>
    simpa [nodeAt, chain, FileNode.child] using ih

theorem chain_eq_directory (names : List FileName) : ∃ entries, chain names = .directory entries := by
  cases names with
  | nil => exact ⟨_, rfl⟩
  | cons name names => exact ⟨_, rfl⟩

theorem chain_unique {names : List FileName} {loc : Location}
    {entries : List (FileName × FileNode)}
    (h : nodeAt (chain names) loc = some (.directory entries)) :
    (entries.map fun entry => entry.1.bytes).Nodup := by
  induction loc generalizing names with
  | nil =>
    cases names with
    | nil =>
      obtain rfl : [] = entries := by simpa [nodeAt, chain] using h
      exact List.nodup_nil
    | cons name names =>
      obtain rfl : [(name, chain names)] = entries := by simpa [nodeAt, chain] using h
      simp
  | cons component loc ih =>
    obtain ⟨child, isChild, rest⟩ := Option.bind_eq_some_iff.mp h
    cases names with
    | nil => cases isChild
    | cons name names =>
      obtain ⟨_, same, _, _, mem⟩ := child_eq_some isChild
      obtain rfl := FileNode.directory.inj same
      obtain ⟨-, rfl⟩ := Prod.mk.inj (List.mem_singleton.mp mem)
      exact ih rest

/-- A file system that holds nothing but a chain of directories, all of which can be
opened. -/
def chainSystem (name : FileName) (names : List FileName) : FileSystem where
  rootEntries := [(name, chain names)]
  canOpen := fun _ => true
  follow := fun _ => none
  unique := fun loc _ h => chain_unique (show nodeAt (chain (name :: names)) loc = _ from h)

section Chain

variable {name : FileName} {names before after : List FileName} {next : FileName}

theorem nodeAt_chainSystem (h : name :: names = before ++ after) :
    nodeAt (chainSystem name names).root (before.map FileName.bytes) = some (chain after) := by
  have root : (chainSystem name names).root = chain (before ++ after) := by rw [← h]; rfl
  rw [root, nodeAt_chain]

theorem subdirectoriesAt_chainSystem (h : name :: names = before ++ next :: after) :
    (chainSystem name names).subdirectoriesAt (before.map FileName.bytes) = [next.bytes] := by
  obtain ⟨entries, isDirectory⟩ := chain_eq_directory after
  have opens (loc : Location) : (chainSystem name names).canOpen loc = true := rfl
  simp [FileSystem.subdirectoriesAt, nodeAt_chainSystem h, opens, chain, isDirectory, direntOf]

theorem visited_chainSystem (h : name :: names = before ++ after) :
    Visited (chainSystem name names) (before.map FileName.bytes) := by
  induction before using List.reverseRecOn generalizing after with
  | nil => exact .root
  | append_singleton before last ih =>
    rw [List.append_assoc, List.singleton_append] at h
    rw [List.map_append, List.map_singleton]
    exact (ih h).sub (by rw [subdirectoriesAt_chainSystem h]; exact List.mem_singleton_self _)

/-- A path that fills the buffer exactly is a harmful cut path if the directory it names has
a subdirectory. -/
theorem chainSystem_harmful (before : List FileName) (next last : FileName)
    (after : List FileName) (h : name :: names = before ++ next :: last :: after)
    (full : (pathString (before.map FileName.bytes)).length + 1 + next.bytes.length =
      pathMax - 1) :
    ¬ CutPathsHarmless (chainSystem name names) := by
  intro harmless
  have h' : name :: names = (before ++ [next]) ++ last :: after := by simp [h]
  have cut : joinPath (pathString (before.map FileName.bytes)) next.bytes =
      pathString ((before ++ [next]).map FileName.bytes) := by
    rw [joinPath_of_short (by rw [full]; decide), List.map_append, List.map_singleton,
      pathString_append]
  have none := harmless (before.map FileName.bytes) next.bytes (visited_chainSystem h)
    (by omega) (by rw [subdirectoriesAt_chainSystem h]; exact List.mem_singleton_self _)
    (Nat.le_of_eq full.symm)
  have here : nodeAt (chainSystem name names).root ((before ++ [next]).map FileName.bytes) =
      some (.directory [(last, chain after)]) := nodeAt_chainSystem h'
  rw [cut, subdirectories_pathString here, subdirectoriesAt_chainSystem h'] at none
  cases none

end Chain

/-- A name of `n` letters `a`. -/
def letters (n : Nat) (positive : 0 < n) (short : n ≤ 255) : FileName where
  bytes := List.replicate n 0x61
  nonempty := by simp; omega
  short := by simpa using short
  noSlash := by simp [slash]
  noNul := by simp
  notDot := fun h => by
    have dot : 0x2E ∈ List.replicate n (0x61 : Byte) := by rw [h]; decide
    simp at dot
  notDotDot := fun h => by
    have dot : 0x2E ∈ List.replicate n (0x61 : Byte) := by rw [h]; decide
    simp at dot

@[simp] theorem letters_length (n : Nat) (positive : 0 < n) (short : n ≤ 255) :
    (letters n positive short).bytes.length = n := List.length_replicate

/-- Fifteen directories with names of 255 bytes and one with a name of 253 bytes inside one
another, the last one with a subdirectory: the path of the last one but one fills the buffer
exactly. -/
def fullPathSystem : FileSystem :=
  chainSystem (letters 255 (by decide) (by decide))
    (List.replicate 14 (letters 255 (by decide) (by decide)) ++
      [letters 253 (by decide) (by decide), letters 1 (by decide) (by decide)])

/-- There the scan does not end. -/
theorem scanDirectory_endless :
    ¬ (scanDirectory fullPathSystem fullPathSystem.root.depth [slash]).isSome := by
  have harmful : ¬ CutPathsHarmless fullPathSystem :=
    chainSystem_harmful (List.replicate 15 (letters 255 (by decide) (by decide)))
      (letters 253 (by decide) (by decide)) (letters 1 (by decide) (by decide)) [] rfl
      (by rw [pathString_length]; simp only [List.map_replicate, letters_length]; rfl)
  rw [Option.not_isSome_iff_eq_none]
  exact scanDirectory_eq_none harmful _

end LamaOS
