import PkgexecLinux.Foundation.PathWalk
import PkgexecLinux.Filesystem.Path

/-!
# Path resolution

How the kernel resolves the text of a path in a tree with symbolic links: every component is
looked up in a directory that can be searched, and at most forty links are followed.
-/

namespace PkgexecLinux.Filesystem

open Foundation.PathWalk

/-- An object of a filesystem tree.  Permissions are those of the caller. -/
inductive Node where
  | directory (searchable writable : Bool) (entries : List (Name × Node))
  | file (executable writable : Bool)
  | symlink (target : List Char)

namespace Node

/-- The entry of a directory. -/
def lookup (name : Name) (entries : List (Name × Node)) : Option Node :=
  (entries.find? fun entry => entry.1 == name).map (·.2)

def entry (name : Name) : Node → Option Node
  | .directory _ _ entries => lookup name entries
  | .file .. | .symlink _ => none

/-- The object at a location, which is given by the names that lead to it. -/
def at? (root : Node) : List Name → Option Node
  | [] => some root
  | name :: names => (root.entry name).bind fun node => node.at? names

def isDirectory : Node → Bool
  | .directory .. => true
  | .file .. | .symlink _ => false

def isSymlink : Node → Bool
  | .symlink _ => true
  | .directory .. | .file .. => false

end Node

namespace Errno

def enoent : Nat := 2
def eacces : Nat := 13
def enotdir : Nat := 20
def enametoolong : Nat := 36
def eloop : Nat := 40

end Errno

/-- A component of a path as the kernel takes it: the empty one after a last separator, `.`,
`..` and names. -/
def component (name : Name) : Component Name :=
  if name = [] then .separator
  else if name = Path.dot then .current
  else if name = Path.dotDot then .parent
  else .entry name

/-- The components of a text. -/
def componentsOf (text : List Char) : List (Component Name) :=
  (Path.parse text).components.map component

def isAbsolute (text : List Char) : Bool := text.head? == some '/'

/-- What the target of a symbolic link stands for. -/
def linkTarget (text : List Char) : Target Name := ⟨isAbsolute text, componentsOf text⟩

/-- The kernel's limit on links followed in one resolution. -/
def linkLimit : Nat := 40

def faults : Faults Nat where
  closed := Errno.eacces
  notDirectory := Errno.enotdir
  loop := Errno.eloop

namespace Node

def sight : Node → Sight Name
  | .directory searchable _ _ => .directory searchable
  | .file .. => .other
  | .symlink target => .link (linkTarget target)

/-- What stands at each location of a tree. -/
def view (root : Node) : View Name Nat := fun location =>
  match root.at? location with
  | some node => .ok node.sight
  | none => .error Errno.enoent

theorem view_eq_ok {root : Node} {location : List Name} {sight : Sight Name} :
    root.view location = .ok sight ↔
      ∃ node, root.at? location = some node ∧ node.sight = sight := by
  rw [view]
  cases root.at? location with
  | none => simp
  | some node => simp

theorem unlinked_of_at {root node : Node} {location : List Name}
    (found : root.at? location = some node) (unlinked : node.isSymlink = false)
    (target : Target Name) : root.view location ≠ .ok (.link target) := by
  intro linked
  obtain ⟨other, present, same⟩ := view_eq_ok.mp linked
  cases found.symm.trans present
  cases node with
  | symlink => cases unlinked
  | directory | file => cases same

end Node

/-- Resolution of an absolute path. -/
def resolve (root : Node) (follow : Bool) (text : List Char) : Except Nat (Resolution Name) :=
  (walk faults root.view follow linkLimit [] (componentsOf text)).result

/-- Components that are names lead where the names say. -/
theorem push_component {location : List Name} {name : Name} (named : name ≠ []) :
    push location (component name) = Path.push location name := by
  rw [component, if_neg named, Path.push]
  split_ifs <;> rfl

theorem foldl_push_components {names : List Name} (named : ∀ name ∈ names, name ≠ [])
    (start : List Name) : (names.map component).foldl push start = names.foldl Path.push start := by
  induction names generalizing start with
  | nil => rfl
  | cons name names ih =>
      rw [List.map_cons, List.foldl_cons, List.foldl_cons,
        push_component (named name List.mem_cons_self)]
      exact ih (fun other member => named other (List.mem_cons_of_mem _ member)) _

theorem component_plain {name : Name} (named : name ≠ []) (plain : Path.Plain name) :
    component name = .entry name := by
  rw [component, if_neg named, if_neg plain.1, if_neg plain.2]

theorem map_component_plain {names : List Name} (named : ∀ name ∈ names, name ≠ [])
    (plain : ∀ name ∈ names, Path.Plain name) : names.map component = names.map .entry :=
  List.map_congr_left fun name member => component_plain (named name member) (plain name member)

end PkgexecLinux.Filesystem
