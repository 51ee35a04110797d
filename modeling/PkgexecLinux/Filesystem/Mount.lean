import PkgexecLinux.Foundation.Checks
import PkgexecLinux.Filesystem.Admission

/-!
# Directory trees and mounts

A mount shows one directory tree.  Mounts are attached at locations inside other
mounts, and a path is resolved name by name: each location that is reached is
crossed to whatever is attached there, in the order in which it was attached.
The walks follow no symbolic link, as the descriptors of the source are opened; what
the kernel's own resolution makes of a tree with links is added to them later.
-/

namespace PkgexecLinux.Filesystem

open Foundation

/-! ## Trees -/

/-- What a directory tree shows at one name. -/
inductive Tree where
  | directory (identity : Inode) (entries : List (Name × Tree))
  | symlink (identity : Inode) (target : List Char)
  | other (identity : Inode)
  deriving Repr

namespace Tree

def identity : Tree → Inode
  | .directory identity _ | .symlink identity _ | .other identity => identity

def isDirectory : Tree → Bool
  | .directory .. => true
  | .symlink .. | .other _ => false

def entries : Tree → List (Name × Tree)
  | .directory _ entries => entries
  | .symlink .. | .other _ => []

/-- The entry of a directory. -/
def child (tree : Tree) (name : Name) : Option Tree :=
  (tree.entries.find? fun entry => entry.1 = name).map (·.2)

/-- The tree at a relative path, for locations that have been reached. -/
def lookup (tree : Tree) : List Name → Option Tree
  | [] => some tree
  | name :: path => (tree.child name).bind fun child => child.lookup path

/-- Add an entry to the directory at a relative path. -/
def insertAt (name : Name) (entry : Tree) : List Name → Tree → Tree
  | [], .directory identity entries => .directory identity (entries ++ [(name, entry)])
  | first :: path, .directory identity entries =>
      .directory identity (entries.map fun other =>
        if other.1 = first then (other.1, insertAt name entry path other.2) else other)
  | _, .symlink identity target => .symlink identity target
  | _, .other identity => .other identity

def enoent : Nat := 2
def eexist : Nat := 17
def enotdir : Nat := 20
def erofs : Nat := 30
def eloop : Nat := 40

/-- Why a tree cannot be entered as a directory. -/
def notDirectory : Tree → Nat
  | .symlink .. => eloop
  | .directory .. | .other _ => enotdir

/-- The entry of a directory, as a step of a walk without links. -/
def enter (tree : Tree) (name : Name) : Except Nat Tree :=
  if tree.isDirectory then
    match tree.child name with
    | some child => .ok child
    | none => .error enoent
  else
    .error tree.notDirectory

/-- Resolution of a relative path inside one tree, without links. -/
def walk : List Name → Tree → Except Nat Tree
  | [], tree => .ok tree
  | name :: path, tree =>
      match tree.enter name with
      | .ok child => child.walk path
      | .error errno => .error errno

/-- Resolution that must end at a directory. -/
def openDirectory (tree : Tree) (path : List Name) : Except Nat Tree :=
  match tree.walk path with
  | .ok found => if found.isDirectory then .ok found else .error found.notDirectory
  | .error errno => .error errno

end Tree

/-! ## Mounts -/

/-- The mounts of one realization, by what they are for.  The logical paths of an
admission are distinct, so that they name its resources and namespaces. -/
inductive MountId where
  | root
  | resource (path : List Name)
  | scratch
  | devices
  | inputNamespace (path : List Name)
  deriving DecidableEq, Repr

/-- A mount with its attributes. -/
structure Mount where
  tree : Tree
  readOnly : Bool
  noSuid : Bool
  noDev : Bool
  noExec : Bool

structure Location where
  mount : MountId
  path : List Name
  deriving DecidableEq, Repr

/-- The root of a mount. -/
def MountId.top (mount : MountId) : Location := ⟨mount, []⟩

/-- The mounts, detached ones included, and where they are attached, oldest
first. -/
structure Table where
  mounts : MountId → Option Mount
  attachments : List (Location × MountId)

/-- Go to whatever is attached at a location. -/
def cross (attachments : List (Location × MountId)) (location : Location) : Location :=
  attachments.foldl
    (fun location attachment =>
      if attachment.1 = location then attachment.2.top else location)
    location

namespace Table

def empty : Table := ⟨fun _ => none, []⟩

def set (table : Table) (id : MountId) (mount : Mount) : Table :=
  { table with mounts := Function.update table.mounts id (some mount) }

/-- The tree shown at a location. -/
def treeAt (table : Table) (location : Location) : Option Tree :=
  (table.mounts location.mount).bind fun mount => mount.tree.lookup location.path

/-- One step of a walk without links. -/
def enter (table : Table) (location : Location) (name : Name) : Except Nat Location :=
  match table.treeAt location with
  | some tree =>
      match tree.enter name with
      | .ok _ => .ok (cross table.attachments ⟨location.mount, location.path ++ [name]⟩)
      | .error errno => .error errno
  | none => .error Tree.enoent

/-- The walk of a relative path from a location. -/
def walk (table : Table) : List Name → Location → Except Nat Location
  | [], location => .ok location
  | name :: path, location =>
      match table.enter location name with
      | .ok next => table.walk path next
      | .error errno => .error errno

/-- `open_beneath`, from a location and a canonical path. -/
def openBeneath (table : Table) (location : Location) (path : List Name) :
    Except Nat Location :=
  match table.walk path location with
  | .ok found =>
      match table.treeAt found with
      | some tree => if tree.isDirectory then .ok found else .error tree.notDirectory
      | none => .error Tree.enoent
  | .error errno => .error errno

/-- `same_inode`. -/
def sameInode (table : Table) (location : Location) (expected : Inode) : Bool :=
  match table.treeAt location with
  | some tree => tree.isDirectory && tree.identity == expected
  | none => false

/-- Attach a mount at a location, on top of what is there. -/
def attach (table : Table) (id : MountId) (location : Location) : Table :=
  { table with
    attachments := table.attachments ++ [(cross table.attachments location, id)] }

/-- Create a directory entry. -/
def create (table : Table) (location : Location) (name : Name) (entry : Tree) :
    Except Nat Table :=
  match table.mounts location.mount with
  | some mount =>
      match mount.tree.lookup location.path with
      | some parent =>
          match parent.enter name with
          | .ok _ => .error Tree.eexist
          | .error errno =>
              if errno = Tree.enoent then
                if mount.readOnly then .error Tree.erofs
                else
                  .ok (table.set location.mount
                    { mount with tree := Tree.insertAt name entry location.path mount.tree })
              else
                .error errno
      | none => .error Tree.enoent
  | none => .error Tree.enoent

end Table

/-! ## Resolution inside one tree -/

namespace Tree

theorem lookup_concat (tree : Tree) (path : List Name) (name : Name) :
    tree.lookup (path ++ [name]) = (tree.lookup path).bind fun parent => parent.child name := by
  induction path generalizing tree with
  | nil =>
      cases found : tree.child name with
      | none => simp [lookup, found]
      | some child => simp [lookup, found]
  | cons first path ih =>
      rw [List.cons_append, lookup, lookup]
      cases tree.child first with
      | none => rfl
      | some child => exact ih child

theorem enter_eq_ok {tree entry : Tree} {name : Name} :
    tree.enter name = .ok entry ↔ tree.isDirectory = true ∧ tree.child name = some entry := by
  unfold enter
  split
  next directory =>
    cases found : tree.child name with
    | none => simp
    | some child => simp [directory]
  next other => simp [other]

/-- A resolved path is present in the tree. -/
theorem lookup_of_walk {tree found : Tree} {path : List Name}
    (walked : tree.walk path = .ok found) : tree.lookup path = some found := by
  induction path generalizing tree with
  | nil =>
      cases walked
      rfl
  | cons name path ih =>
      simp only [walk] at walked
      split at walked
      next child entered =>
        have present := (enter_eq_ok.mp entered).2
        simp only [lookup, present, Option.bind_some]
        exact ih walked
      next => cases walked

theorem walk_append (tree : Tree) (first second : List Name) :
    tree.walk (first ++ second) = tree.walk first >>= fun middle => middle.walk second := by
  induction first generalizing tree with
  | nil => rfl
  | cons name first ih =>
      simp only [List.cons_append, walk]
      cases tree.enter name with
      | ok child => exact ih child
      | error errno => rfl

/-- Nothing is found below an empty directory. -/
theorem walk_below_empty {tree parent found : Tree} {above path : List Name}
    (reached : tree.walk above = .ok parent) (empty : parent.entries = [])
    (below : above <+: path) (walked : tree.walk path = .ok found) : above = path := by
  rcases below with ⟨rest, rfl⟩
  rw [walk_append, reached] at walked
  cases rest with
  | nil => simp
  | cons name rest =>
      have stops : parent.child name = none := by simp [child, empty]
      have walked : parent.walk (name :: rest) = .ok found := walked
      rw [walk] at walked
      split at walked
      next entry entered =>
        rw [(enter_eq_ok.mp entered).2] at stops
        cases stops
      next => cases walked

theorem openDirectory_eq_ok {tree found : Tree} {path : List Name} :
    tree.openDirectory path = .ok found ↔
      tree.walk path = .ok found ∧ found.isDirectory = true := by
  unfold openDirectory
  cases walked : tree.walk path with
  | error errno => simp
  | ok other =>
      cases directory : other.isDirectory with
      | false =>
          simp only [directory, Bool.false_eq_true, if_false, reduceCtorEq, false_iff, not_and]
          intro same
          cases same
          simp [directory]
      | true =>
          simp only [directory, if_true, Except.ok.injEq]
          constructor
          · intro same
            subst same
            exact ⟨rfl, directory⟩
          · exact fun both => both.1

end Tree

/-! ## Crossing -/

/-- Nothing is attached at the location. -/
def Uncovered (attachments : List (Location × MountId)) (location : Location) : Prop :=
  ∀ attachment ∈ attachments, attachment.1 ≠ location

theorem cross_uncovered {attachments : List (Location × MountId)} {location : Location}
    (free : Uncovered attachments location) : cross attachments location = location := by
  induction attachments with
  | nil => rfl
  | cons attachment attachments ih =>
      have other := free attachment List.mem_cons_self
      rw [cross, List.foldl_cons, if_neg other]
      exact ih fun later member => free later (List.mem_cons_of_mem _ member)

theorem cross_append (first second : List (Location × MountId)) (location : Location) :
    cross (first ++ second) location = cross second (cross first location) := by
  rw [cross, List.foldl_append]
  rfl

/-- What is attached where, without stacking: no location is covered twice, and
nothing covers the root of a mount. -/
structure Unstacked (attachments : List (Location × MountId)) : Prop where
  nodup : (attachments.map (·.1)).Nodup
  inside : ∀ attachment ∈ attachments, attachment.1.path ≠ []

theorem Unstacked.uncovered_top {attachments : List (Location × MountId)}
    (unstacked : Unstacked attachments) (id : MountId) : Uncovered attachments id.top := by
  intro attachment member same
  apply unstacked.inside attachment member
  rw [same]
  rfl

theorem Unstacked.of_append {first second : List (Location × MountId)}
    (unstacked : Unstacked (first ++ second)) : Unstacked first where
  nodup := by
    have nodup := unstacked.nodup
    rw [List.map_append] at nodup
    exact nodup.of_append_left
  inside := by
    intro attachment member
    exact unstacked.inside attachment (List.mem_append_left _ member)

/-- A location that is attached later is not covered before. -/
theorem Unstacked.uncovered_later {first second : List (Location × MountId)}
    {attachment : Location × MountId} (unstacked : Unstacked (first ++ attachment :: second)) :
    Uncovered first attachment.1 := by
  intro earlier member same
  have nodup := unstacked.nodup
  rw [List.map_append, List.nodup_append] at nodup
  exact nodup.2.2 earlier.1 (List.mem_map_of_mem member) attachment.1 (by simp) same

/-- An unstacked attachment is what its location is crossed to. -/
theorem Unstacked.cross_attached {attachments : List (Location × MountId)}
    (unstacked : Unstacked attachments) {location : Location} {id : MountId}
    (attached : (location, id) ∈ attachments) : cross attachments location = id.top := by
  rcases List.append_of_mem attached with ⟨first, second, rfl⟩
  have before := unstacked.uncovered_later
  have top := unstacked.uncovered_top id
  have after : Uncovered second id.top := by
    intro later member
    exact top later (List.mem_append_right _ (List.mem_cons_of_mem _ member))
  rw [cross_append, cross_uncovered before, cross, List.foldl_cons, if_pos rfl]
  exact cross_uncovered after

/-! ## Resolution across mounts -/

namespace Table

variable {table : Table}

theorem walk_append (first second : List Name) (location : Location) :
    table.walk (first ++ second) location =
      table.walk first location >>= fun middle => table.walk second middle := by
  induction first generalizing location with
  | nil => rfl
  | cons name first ih =>
      simp only [List.cons_append, walk]
      cases table.enter location name with
      | ok next => exact ih next
      | error errno => rfl

theorem enter_of_tree {location : Location} {tree : Tree} (name : Name)
    (shown : table.treeAt location = some tree) :
    table.enter location name = (tree.enter name).map fun _ =>
      cross table.attachments ⟨location.mount, location.path ++ [name]⟩ := by
  simp only [enter, shown]
  cases tree.enter name with
  | ok child => rfl
  | error errno => rfl

theorem enter_ok {location next : Location} {name : Name}
    (entered : table.enter location name = .ok next) :
    (∃ tree entry, table.treeAt location = some tree ∧ tree.enter name = .ok entry) ∧
      next = cross table.attachments ⟨location.mount, location.path ++ [name]⟩ := by
  unfold enter at entered
  split at entered
  next tree shown =>
    split at entered
    next entry found =>
      cases entered
      exact ⟨⟨tree, entry, shown, found⟩, rfl⟩
    next => cases entered
  next => cases entered

theorem walk_cons_ok {location found : Location} {name : Name} {path : List Name}
    (walked : table.walk (name :: path) location = .ok found) :
    ∃ next, table.enter location name = .ok next ∧ table.walk path next = .ok found := by
  rw [walk] at walked
  split at walked
  next next entered => exact ⟨next, entered, walked⟩
  next => cases walked

theorem openBeneath_eq_ok {location found : Location} {path : List Name} :
    table.openBeneath location path = .ok found ↔
      table.walk path location = .ok found ∧
        ∃ tree, table.treeAt found = some tree ∧ tree.isDirectory = true := by
  constructor
  · intro opened
    unfold openBeneath at opened
    split at opened
    next other walked =>
      split at opened
      next tree shown =>
        split at opened
        next directory =>
          cases opened
          exact ⟨walked, tree, shown, directory⟩
        next => cases opened
      next => cases opened
    next => cases opened
  · rintro ⟨walked, tree, shown, directory⟩
    simp only [openBeneath, walked, shown, directory, if_true]

theorem create_ok {after : Table} {location : Location} {name : Name} {entry : Tree}
    (created : table.create location name entry = .ok after) :
    ∃ mount, table.mounts location.mount = some mount ∧ mount.readOnly = false ∧
      after = table.set location.mount
        { mount with tree := Tree.insertAt name entry location.path mount.tree } := by
  unfold create at created
  split at created
  next mount mounted =>
    split at created
    next parent shown =>
      split at created
      next => cases created
      next =>
        split at created
        next =>
          split at created
          next => cases created
          next writable =>
            cases created
            exact ⟨mount, mounted, by simpa using writable, rfl⟩
        next => cases created
    next => cases created
  next => cases created

@[simp] theorem set_mounts_self (id : MountId) (mount : Mount) :
    (table.set id mount).mounts id = some mount := by
  simp [set]

theorem set_mounts_ne {id other : MountId} (mount : Mount) (different : other ≠ id) :
    (table.set id mount).mounts other = table.mounts other := by
  simp [set, different]

@[simp] theorem set_attachments (id : MountId) (mount : Mount) :
    (table.set id mount).attachments = table.attachments := rfl

@[simp] theorem attach_mounts (id : MountId) (location : Location) :
    (table.attach id location).mounts = table.mounts := rfl

@[simp] theorem attach_attachments (id : MountId) (location : Location) :
    (table.attach id location).attachments =
      table.attachments ++ [(cross table.attachments location, id)] := rfl

theorem treeAt_top {id : MountId} {mount : Mount} (mounted : table.mounts id = some mount) :
    table.treeAt id.top = some mount.tree := by
  rw [treeAt, MountId.top, mounted]
  rfl

/-- A path that meets no mount is resolved in the tree it starts in. -/
theorem walk_uncovered {id : MountId} {mount : Mount} (mounted : table.mounts id = some mount)
    {start : List Name} {tree : Tree} (shown : mount.tree.lookup start = some tree)
    (path : List Name)
    (free : ∀ initial, initial <+: path → initial ≠ [] →
      Uncovered table.attachments ⟨id, start ++ initial⟩) :
    table.walk path ⟨id, start⟩ = (tree.walk path).map fun _ => ⟨id, start ++ path⟩ := by
  induction path generalizing start tree with
  | nil => simp [walk, Tree.walk, Except.map]
  | cons name path ih =>
      have here : table.treeAt ⟨id, start⟩ = some tree := by
        simp only [treeAt, mounted, Option.bind_some, shown]
      simp only [walk, enter_of_tree name here, Tree.walk]
      cases entered : tree.enter name with
      | error errno => rfl
      | ok child =>
          have present : mount.tree.lookup (start ++ [name]) = some child := by
            rw [Tree.lookup_concat, shown]
            exact (Tree.enter_eq_ok.mp entered).2
          have stays := cross_uncovered (free [name] (by simp) (by simp))
          have deeper := ih present (by
            intro initial below nonempty
            have longer := free (name :: initial) (by simpa using below) (by simp)
            simpa using longer)
          rw [List.append_assoc, List.singleton_append] at deeper
          rw [stays, ← deeper]
          rfl

/-- A path whose ancestors meet no mount is crossed to what is attached at it. -/
theorem walk_cross {id : MountId} {mount : Mount} (mounted : table.mounts id = some mount)
    {path : List Name} (nonempty : path ≠ []) {found : Tree}
    (present : mount.tree.walk path = .ok found)
    (free : ∀ initial, initial <+: path → initial ≠ [] → initial ≠ path →
      Uncovered table.attachments ⟨id, initial⟩) :
    table.walk path id.top = .ok (cross table.attachments ⟨id, path⟩) := by
  rcases List.eq_nil_or_concat' path with isEmpty | ⟨above, name, rfl⟩
  · exact absurd isEmpty nonempty
  · rw [Tree.walk_append, bind_eq_ok] at present
    rcases present with ⟨parent, reached, inside⟩
    have atTop : mount.tree.lookup [] = some mount.tree := rfl
    have stays : table.walk above ⟨id, []⟩ = .ok ⟨id, above⟩ := by
      rw [walk_uncovered mounted atTop above, reached]
      · rfl
      · intro initial below notEmpty
        apply free initial (below.trans (List.prefix_append _ _)) notEmpty
        rintro rfl
        have shorter := below.length_le
        rw [List.length_append, List.length_singleton] at shorter
        omega
    have shown : table.treeAt ⟨id, above⟩ = some parent := by
      rw [treeAt, mounted]
      exact Tree.lookup_of_walk reached
    have entered : ∃ entry, parent.enter name = .ok entry := by
      rw [Tree.walk] at inside
      split at inside
      next entry found => exact ⟨entry, found⟩
      next => cases inside
    rcases entered with ⟨entry, entered⟩
    rw [walk_append, bind_eq_ok]
    refine ⟨⟨id, above⟩, stays, ?_⟩
    rw [walk, enter_of_tree name shown, entered]
    rfl

/-- A new name in the root directory of a mount. -/
theorem create_top {id : MountId} {mount : Mount} (mounted : table.mounts id = some mount)
    {identity : Inode} {entries : List (Name × Tree)}
    (directory : mount.tree = .directory identity entries) (writable : mount.readOnly = false)
    {name : Name} (fresh : name ∉ entries.map (·.1)) (entry : Tree) :
    table.create id.top name entry = .ok (table.set id
      { mount with tree := .directory identity (entries ++ [(name, entry)]) }) := by
  have absent : mount.tree.child name = none := by
    rw [directory, Tree.child, Option.map_eq_none_iff, List.find?_eq_none]
    intro other member same
    apply fresh
    have same : other.1 = name := by simpa using same
    rw [← same]
    exact List.mem_map_of_mem member
  have missing : mount.tree.enter name = .error Tree.enoent := by
    rw [Tree.enter, absent, directory]
    rfl
  have inserted : Tree.insertAt name entry [] mount.tree =
      .directory identity (entries ++ [(name, entry)]) := by
    rw [directory]
    rfl
  simp only [create, MountId.top, mounted, Tree.lookup, missing, if_true, writable,
    Bool.false_eq_true, if_false, inserted]

end Table

end PkgexecLinux.Filesystem
