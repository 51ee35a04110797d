import Mathlib.Data.Char
import Mathlib.Data.List.Lex
import PkgexecLinux.Foundation.Searching
import PkgexecLinux.Interpreter.Binding

/-!
# The interpreters of a backend

`make` sorts the bindings it is given by all of their fields, refuses neighbours
with one identity and keeps the sorted table; `find_interpreter` searches that
table by the identity alone.  Identities and digests are the library's: only
their order is known, the identities' is linear.
-/

namespace PkgexecLinux.Interpreter.Configuration

open Foundation

/-- `interpreter_binding`, over the types of its fields. -/
structure InterpreterBinding (Identity Executable Digest : Type) where
  identity : Identity
  executable : Executable
  contentDigest : Digest
  deriving DecidableEq, Repr

/-- `host_supervisor_backend` and `isolated_backend`. -/
structure Backend (Report Identity Executable Digest : Type) where
  report : Report
  interpreters : List (InterpreterBinding Identity Executable Digest)
  deriving DecidableEq, Repr

variable {Report Identity Executable Digest : Type} [LinearOrder Identity]

/-- The order of bindings, `operator<`: the fields in their order, tied. -/
def InterpreterBinding.order (Identity : Type) [LinearOrder Identity]
    (paths : Comparison Executable) (digests : Comparison Digest) :
    Comparison (InterpreterBinding Identity Executable Digest) :=
  ((Comparison.linear Identity).tie (paths.tie digests)).on fun binding =>
    (binding.identity, binding.executable, binding.contentDigest)

variable {paths : Comparison Executable} {digests : Comparison Digest}

/-! ## The table of `make` -/

/-- Two neighbours with one identity. -/
def hasDuplicate : List (InterpreterBinding Identity Executable Digest) → Bool
  | first :: second :: rest =>
      decide (first.identity = second.identity) || hasDuplicate (second :: rest)
  | _ => false

/-- The checks of `make`: the table that the backend keeps. -/
def checkInterpreters (std : StdSort (InterpreterBinding.order Identity paths digests))
    (interpreters : List (InterpreterBinding Identity Executable Digest)) :
    Except Failure (List (InterpreterBinding Identity Executable Digest)) :=
  if interpreters.isEmpty then
    .error ⟨.invalidValue, "at least one exact interpreter binding is required"⟩
  else
    let sorted := std.sort interpreters
    if hasDuplicate sorted then .error ⟨.duplicateInterpreter, "duplicate interpreter identity"⟩
    else .ok sorted

/-- A backend from its bindings and the report that probes the host. -/
def makeBackend (std : StdSort (InterpreterBinding.order Identity paths digests))
    (probe : Except Failure Report)
    (interpreters : List (InterpreterBinding Identity Executable Digest)) :
    Except Failure (Backend Report Identity Executable Digest) := do
  let sorted ← checkInterpreters std interpreters
  let report ← probe
  return ⟨report, sorted⟩

/-- The two probes of the host. -/
structure Probes (Report : Type) where
  probe : Except Failure Report
  probeIsolated : Except Failure Report

/-- `host_supervisor_backend::make`. -/
def hostSupervisorMake (std : StdSort (InterpreterBinding.order Identity paths digests))
    (probes : Probes Report) :
    List (InterpreterBinding Identity Executable Digest) →
      Except Failure (Backend Report Identity Executable Digest) :=
  makeBackend std probes.probe

/-- `isolated_backend::make`. -/
def isolatedMake (std : StdSort (InterpreterBinding.order Identity paths digests))
    (probes : Probes Report) :
    List (InterpreterBinding Identity Executable Digest) →
      Except Failure (Backend Report Identity Executable Digest) :=
  makeBackend std probes.probeIsolated

inductive BackendKind where
  | hostSupervisor
  | isolated
  deriving DecidableEq, Repr

namespace BackendKind

def make (kind : BackendKind) (std : StdSort (InterpreterBinding.order Identity paths digests))
    (probes : Probes Report) :
    List (InterpreterBinding Identity Executable Digest) →
      Except Failure (Backend Report Identity Executable Digest) :=
  match kind with
  | .hostSupervisor => hostSupervisorMake std probes
  | .isolated => isolatedMake std probes

def probe (kind : BackendKind) (probes : Probes Report) : Except Failure Report :=
  match kind with
  | .hostSupervisor => probes.probe
  | .isolated => probes.probeIsolated

/-- The bindings get past the checks of `make`, which keeps `table`: what is left to
decide is the probe. -/
def Keeps (kind : BackendKind) (std : StdSort (InterpreterBinding.order Identity paths digests))
    (interpreters table : List (InterpreterBinding Identity Executable Digest)) : Prop :=
  ∀ (Report : Type) (probes : Probes Report), kind.make std probes interpreters =
    (kind.probe probes).map fun report => ⟨report, table⟩

end BackendKind

/-- `find_interpreter`. -/
def findInterpreter (values : List (InterpreterBinding Identity Executable Digest))
    (identity : Identity) : Option (InterpreterBinding Identity Executable Digest) :=
  match values[lowerBound (fun binding => decide (binding.identity < identity)) values]? with
  | none => none
  | some found => if found.identity = identity then some found else none

/-! ## The order of a table -/

/-- The identities of a table increase. -/
def Increasing (table : List (InterpreterBinding Identity Executable Digest)) : Prop :=
  table.Pairwise fun left right => left.identity < right.identity

section Tables

variable {table : List (InterpreterBinding Identity Executable Digest)}
variable (std : StdSort (InterpreterBinding.order Identity paths digests))
variable (given : List (InterpreterBinding Identity Executable Digest))

theorem identity_le_of_mayPrecede {left right : InterpreterBinding Identity Executable Digest}
    (before : (InterpreterBinding.order Identity paths digests).MayPrecede left right) :
    left.identity ≤ right.identity := by
  simp only [Comparison.MayPrecede, InterpreterBinding.order, Comparison.on, Comparison.tie,
    Comparison.linear, Bool.or_eq_false_iff, decide_eq_false_iff_not] at before
  exact not_lt.mp before.1

theorem sort_identity_le :
    (std.sort given).Pairwise fun left right => left.identity ≤ right.identity :=
  (std.ordered given).imp identity_le_of_mayPrecede

/-- In an ordered table the neighbours tell about all pairs. -/
theorem hasDuplicate_eq_false_iff
    (ordered : table.Pairwise fun left right => left.identity ≤ right.identity) :
    hasDuplicate table = false ↔ Increasing table := by
  fun_induction hasDuplicate table with
  | case1 first second rest ih =>
      have below := (List.pairwise_cons.mp ordered).1
      have later := (List.pairwise_cons.mp ordered).2
      rw [Bool.or_eq_false_iff, decide_eq_false_iff_not, ih later]
      constructor
      · rintro ⟨distinct, increasing⟩
        have step := lt_of_le_of_ne (below second List.mem_cons_self) distinct
        refine List.pairwise_cons.mpr ⟨?_, increasing⟩
        intro binding member
        rcases List.mem_cons.mp member with rfl | member
        · exact step
        · exact step.trans ((List.pairwise_cons.mp increasing).1 binding member)
      · intro increasing
        rcases List.pairwise_cons.mp increasing with ⟨above, increasing⟩
        exact ⟨(above second List.mem_cons_self).ne, increasing⟩
  | case2 table short =>
      match table with
      | [] => simp [Increasing]
      | [only] => simp [Increasing]
      | first :: second :: rest => exact absurd rfl (short first second rest)

theorem increasing_iff_nodup
    (ordered : table.Pairwise fun left right => left.identity ≤ right.identity) :
    Increasing table ↔ (table.map (·.identity)).Nodup := by
  rw [List.Nodup, List.pairwise_map]
  constructor
  · intro increasing
    exact increasing.imp fun below => below.ne
  · intro distinct
    exact ordered.imp₂ (fun _ _ le ne => lt_of_le_of_ne le ne) distinct

theorem sort_increasing_iff :
    Increasing (std.sort given) ↔ (given.map (·.identity)).Nodup := by
  rw [increasing_iff_nodup (sort_identity_le std given)]
  exact ((std.perm given).map _).nodup_iff

/-- The loop over the sorted bindings compares every two of those given. -/
theorem hasDuplicate_sort :
    hasDuplicate (std.sort given) = !decide (given.map (·.identity)).Nodup := by
  have single := (hasDuplicate_eq_false_iff (sort_identity_le std given)).trans
    (sort_increasing_iff std given)
  by_cases distinct : (given.map (·.identity)).Nodup
  · rw [single.mpr distinct, decide_eq_true distinct, Bool.not_true]
  · rw [decide_eq_false distinct, Bool.not_false]
    exact Bool.eq_true_of_not_eq_false fun absent => distinct (single.mp absent)

/-- The checks, by what they ask of the given bindings. -/
theorem checkInterpreters_spec :
    checkInterpreters std given = .ok table ↔
      given ≠ [] ∧ (given.map (·.identity)).Nodup ∧ table = std.sort given := by
  simp only [checkInterpreters, hasDuplicate_sort, List.isEmpty_iff]
  by_cases present : given = []
  · simp [present]
  · by_cases distinct : (given.map (·.identity)).Nodup
    · simp [present, distinct, eq_comm]
    · simp [present, distinct]

/-- Increasing tables of the same bindings are equal. -/
theorem Increasing.eq_of_perm
    {left right : List (InterpreterBinding Identity Executable Digest)}
    (increasing : Increasing left) (other : Increasing right) (perm : left.Perm right) :
    left = right := by
  apply List.Perm.eq_of_pairwise _ increasing other perm
  intro first second _ _ below above
  exact absurd above below.asymm

/-- Neither what is refused nor the table depends on the order. -/
theorem checkInterpreters_perm
    (std again : StdSort (InterpreterBinding.order Identity paths digests))
    {given other : List (InterpreterBinding Identity Executable Digest)}
    (perm : given.Perm other) : checkInterpreters std given = checkInterpreters again other := by
  have distinct := (perm.map (·.identity)).nodup_iff
  have empty : given = [] ↔ other = [] := by
    rw [← List.length_eq_zero_iff, perm.length_eq, List.length_eq_zero_iff]
  simp only [checkInterpreters, hasDuplicate_sort, List.isEmpty_iff, empty, distinct]
  by_cases unique : (other.map (·.identity)).Nodup
  · have same : std.sort given = again.sort other := by
      apply Increasing.eq_of_perm
      · exact (sort_increasing_iff std given).mpr (distinct.mpr unique)
      · exact (sort_increasing_iff again other).mpr unique
      · exact (std.perm given).trans (perm.trans (again.perm other).symm)
    rw [same]
  · simp only [unique, decide_false, Bool.not_false, if_true]

/-! ## The lookup -/

theorem Increasing.partitioned (increasing : Increasing table) (identity : Identity) :
    Partitioned (fun binding => decide (binding.identity < identity)) table := by
  apply increasing.imp
  intro left right below hit
  rw [decide_eq_true_eq] at *
  exact below.trans hit

/-- The binary search finds what a scan would. -/
theorem findInterpreter_eq (increasing : Increasing table) (identity : Identity) :
    findInterpreter table identity =
      (table.dropWhile fun binding => decide (binding.identity < identity)).head?.filter
        fun found => decide (found.identity = identity) := by
  rw [← drop_lowerBound (increasing.partitioned identity), List.head?_drop, findInterpreter]
  split
  next absent => rw [absent, Option.filter_none]
  next found present =>
    rw [present, Option.filter_some]
    simp only [decide_eq_true_eq]

theorem findInterpreter_spec (increasing : Increasing table) (identity : Identity)
    (binding : InterpreterBinding Identity Executable Digest) :
    findInterpreter table identity = some binding ↔
      binding ∈ table ∧ binding.identity = identity := by
  rw [findInterpreter_eq increasing]
  induction table with
  | nil => simp
  | cons first rest ih =>
      rcases List.pairwise_cons.mp increasing with ⟨above, increasing⟩
      rw [List.dropWhile_cons]
      split
      next below =>
        rw [decide_eq_true_eq] at below
        rw [ih increasing, List.mem_cons]
        constructor
        · rintro ⟨member, same⟩
          exact ⟨Or.inr member, same⟩
        · rintro ⟨rfl | member, same⟩
          · exact absurd same below.ne
          · exact ⟨member, same⟩
      next notBelow =>
        rw [decide_eq_true_eq, not_lt] at notBelow
        rw [List.head?_cons, Option.filter_eq_some_iff, decide_eq_true_eq, List.mem_cons,
          Option.some.injEq]
        constructor
        · rintro ⟨rfl, same⟩
          exact ⟨Or.inl rfl, same⟩
        · rintro ⟨rfl | member, same⟩
          · exact ⟨rfl, same⟩
          · exact absurd (above binding member) (by rw [same]; exact notBelow.not_gt)

theorem BackendKind.make_eq (kind : BackendKind) (probes : Probes Report) :
    kind.make std probes given = makeBackend std (kind.probe probes) given := by
  cases kind <;> rfl

theorem BackendKind.keeps_iff {kind : BackendKind} :
    kind.Keeps std given table ↔ checkInterpreters std given = .ok table := by
  constructor
  · intro keeps
    have made := keeps Unit ⟨.ok (), .ok ()⟩
    have probed : kind.probe ⟨.ok (), .ok ()⟩ = .ok () := by cases kind <;> rfl
    rw [make_eq, probed] at made
    rcases bind_eq_ok.mp made with ⟨sorted, kept, built⟩
    cases built
    exact kept
  · intro kept Report probes
    rw [make_eq, makeBackend, kept]
    cases kind.probe probes <;> rfl

end Tables

/-- The lookup is exact: whatever the order of the given bindings, they are accepted exactly
when there are some and no two have one identity, and then every identity leads to the one
given binding that has it. -/
theorem interpreterLookup_exact (kind : BackendKind)
    (std : StdSort (InterpreterBinding.order Identity paths digests))
    (given : List (InterpreterBinding Identity Executable Digest)) :
    ((∃ table, kind.Keeps std given table) ↔
        given ≠ [] ∧ (given.map (·.identity)).Nodup) ∧
      (∀ table, kind.Keeps std given table → ∀ identity,
        (∀ binding, findInterpreter table identity = some binding ↔
          (binding ∈ given ∧ binding.identity = identity) ∧
            ∀ other ∈ given, other.identity = identity → other = binding) ∧
        (findInterpreter table identity = none ↔
          ∀ binding ∈ given, binding.identity ≠ identity)) ∧
      ∀ (again : StdSort (InterpreterBinding.order Identity paths digests)) (other : List _),
        given.Perm other → ∀ (Report : Type) (probes : Probes Report),
          kind.make again probes other = kind.make std probes given := by
  refine ⟨?_, ?_, ?_⟩
  · simp only [BackendKind.keeps_iff, checkInterpreters_spec]
    constructor
    · rintro ⟨_, present, distinct, _⟩
      exact ⟨present, distinct⟩
    · rintro ⟨present, distinct⟩
      exact ⟨_, present, distinct, rfl⟩
  · intro table keeps identity
    rw [BackendKind.keeps_iff, checkInterpreters_spec] at keeps
    rcases keeps with ⟨_, distinct, rfl⟩
    have increasing := (sort_increasing_iff std given).mpr distinct
    have found : ∀ binding, findInterpreter (std.sort given) identity = some binding ↔
        binding ∈ given ∧ binding.identity = identity := by
      intro binding
      rw [findInterpreter_spec increasing, (std.perm given).mem_iff]
    constructor
    · intro binding
      rw [found]
      constructor
      · rintro ⟨member, same⟩
        refine ⟨⟨member, same⟩, ?_⟩
        intro other present equal
        exact List.inj_on_of_nodup_map distinct present member (equal.trans same.symm)
      · exact And.left
    · rw [Option.eq_none_iff_forall_not_mem]
      constructor
      · intro absent binding member same
        exact absent binding ((found binding).mpr ⟨member, same⟩)
      · intro absent binding present
        rcases (found binding).mp present with ⟨member, same⟩
        exact absent binding member same
  · intro again other perm Report probes
    rw [BackendKind.make_eq, BackendKind.make_eq, makeBackend, makeBackend,
      checkInterpreters_perm std again perm]

/-- Bindings with numbers for fields. -/
def numbered : Comparison (InterpreterBinding Nat Nat Nat) :=
  InterpreterBinding.order Nat (Comparison.linear Nat) (Comparison.linear Nat)

theorem interpreterLookup_exact_unsorted :
    ∃ table, BackendKind.isolated.Keeps (StdSort.insertion numbered) [⟨7, 1, 0⟩, ⟨3, 2, 0⟩] table ∧
      findInterpreter table 3 = some ⟨3, 2, 0⟩ ∧ findInterpreter table 5 = none := by
  have lookup := interpreterLookup_exact .isolated (StdSort.insertion numbered)
    [⟨7, 1, 0⟩, ⟨3, 2, 0⟩]
  rcases lookup.1.mpr ⟨by simp, by decide⟩ with ⟨table, keeps⟩
  refine ⟨table, keeps, ?_, ?_⟩
  · exact ((lookup.2.1 table keeps 3).1 _).mpr ⟨by decide, by decide⟩
  · exact (lookup.2.1 table keeps 5).2.mpr (by decide)

/-! ## The bindings of inspected files -/

/-- A binding with the texts of its identity and digest. -/
def configured (binding : Binding) : InterpreterBinding Hex Filesystem.Path Hex :=
  ⟨binding.identity, binding.executable, binding.contentDigest⟩

/-- Paths compare by their components. -/
def bindingOrder : Comparison (InterpreterBinding Hex Filesystem.Path Hex) :=
  InterpreterBinding.order Hex
    ((Comparison.linear (List Filesystem.Name)).on Filesystem.Path.components)
    (Comparison.linear Hex)

theorem precedes_iff (left right : Binding) :
    left.precedes right = true ↔ bindingOrder.MayPrecede (configured left) (configured right) := by
  simp only [Binding.precedes, bindingOrder, InterpreterBinding.order, Comparison.MayPrecede,
    Comparison.on, Comparison.tie, Comparison.linear, configured, Bool.or_eq_true,
    Bool.and_eq_true, Bool.or_eq_false_iff, Bool.and_eq_false_imp, decide_eq_true_eq,
    decide_eq_false_iff_not, Bool.not_eq_true', beq_iff_eq, not_lt]
  rcases lt_trichotomy left.identity right.identity with below | same | above
  · simp [below, below.le, below.ne, below.not_ge]
  · rcases lt_trichotomy left.executable.components right.executable.components
      with before | level | after
    · simp [same, before, before.le, before.not_ge]
    · simp [same, level]
    · simp [same, after.not_gt, after.ne', after.not_ge]
  · simp [above.not_gt, above.ne', above.not_ge]

theorem insertionSort_configured (given : List Binding) :
    (given.insertionSort fun left right => left.precedes right).map configured =
      (StdSort.insertion bindingOrder).sort (given.map configured) := by
  apply List.map_insertionSort
  intro left _ right _
  exact precedes_iff left right

theorem hasDuplicate_configured (table : List Binding) :
    hasDuplicate (table.map configured) = Interpreter.hasDuplicate table := by
  fun_induction Interpreter.hasDuplicate table with
  | case1 first second rest ih =>
      rw [← ih]
      by_cases same : first.identity = second.identity
      · simp [hasDuplicate, configured, same]
      · simp [hasDuplicate, configured, same]
  | case2 table short =>
      match table with
      | [] => rfl
      | [only] => rfl
      | first :: second :: rest => exact absurd rfl (short first second rest)

/-- The checks of a backend of inspected bindings are those above. -/
theorem make_configured (given : List Binding) :
    checkInterpreters (StdSort.insertion bindingOrder) (given.map configured) =
      (Interpreter.make given).map (List.map configured) := by
  unfold checkInterpreters Interpreter.make
  simp only [← insertionSort_configured, hasDuplicate_configured, List.isEmpty_iff,
    List.map_eq_nil_iff]
  split
  · rfl
  · split <;> rfl

theorem findInterpreter_configured {table : List Binding}
    (increasing : Increasing (table.map configured)) (identity : Hex) :
    findInterpreter (table.map configured) identity =
      (Interpreter.findInterpreter table identity).map configured := by
  have scan : table.dropWhile
      ((fun binding => (Comparison.linear Hex).less binding.identity identity) ∘ configured) =
        table.dropWhile fun binding => decide (binding.identity < identity) := by
    congr 1
    funext binding
    exact decide_eq_decide.mpr Iff.rfl
  rw [findInterpreter_eq increasing, List.dropWhile_map, List.head?_map,
    Interpreter.findInterpreter]
  simp only [Comparison.linear] at scan
  rw [scan]
  cases table.dropWhile fun binding => decide (binding.identity < identity) with
  | nil => rfl
  | cons found others =>
      by_cases same : found.identity = identity
      · simp [configured, same]
      · simp [configured, same]

/-- A backend finds the binding it was given under the requested identity, and no other. -/
theorem findInterpreter_given {hash : IncrementalHash} (backend : Interpreter.Backend hash)
    (requested : Hex) (binding : Binding) :
    Interpreter.findInterpreter backend.interpreters requested = some binding ↔
      binding ∈ backend.given ∧ binding.identity = requested := by
  have injective : Function.Injective configured := by
    rintro ⟨_, _, _⟩ ⟨_, _, _⟩ same
    cases same
    rfl
  have kept := make_configured backend.given
  rw [backend.made] at kept
  rcases (checkInterpreters_spec _ _).mp kept with ⟨_, distinct, table⟩
  have increasing : Increasing (backend.interpreters.map configured) := by
    rw [table]
    exact (sort_increasing_iff _ _).mpr distinct
  have perm : (backend.interpreters.map configured).Perm (backend.given.map configured) := by
    rw [table]
    exact (StdSort.insertion bindingOrder).perm _
  have spec := findInterpreter_spec increasing requested (configured binding)
  rw [findInterpreter_configured increasing, perm.mem_iff, List.mem_map_of_injective injective,
    Option.map_eq_some_iff] at spec
  rw [show binding.identity = (configured binding).identity from rfl, ← spec]
  constructor
  · intro found
    exact ⟨binding, found, rfl⟩
  · rintro ⟨other, found, same⟩
    rw [found, injective same]

/-- An inspection computes the identity of a binding from its digest. -/
theorem identity_of_inspected {hash : IncrementalHash} {binding : Binding}
    (inspected : Inspected hash binding) :
    interpreterIdentity hash binding.contentDigest = .ok binding.identity := by
  rcases inspected with ⟨strerror, worlds, reads, text, bound⟩
  unfold inspect at bound
  split at bound
  · cases bound
  split at bound
  · cases bound
  dsimp only at bound
  split at bound
  · cases bound
  split at bound
  · cases bound
  split at bound
  · cases bound
  split at bound
  · cases bound
  split at bound
  · cases bound
  next computed =>
    cases bound
    exact computed

/-- An execution admits a file exactly if one of the given bindings has the requested identity,
its path opens to that file, which is regular, and reading it gives the digest of the
binding.  The comparison of identities never decides. -/
theorem admitInterpreter_iff {hash : IncrementalHash} {strerror : UInt32 → String}
    (backend : Interpreter.Backend hash) (requested : Hex) (world : World)
    (reads : List ReadAnswer) (inode : Supervisor.Inode) :
    admitInterpreter hash strerror backend.interpreters requested world reads = .ok inode ↔
      ∃ binding ∈ backend.given, binding.identity = requested ∧
        world.openFile binding.executable = .ok inode ∧ inode.kind = .regular ∧
        digestFd hash strerror inode reads = .ok binding.contentDigest := by
  rw [admitInterpreter_eq_ok]
  constructor
  · rintro ⟨binding, present, opened, regular, digest, _⟩
    rcases (findInterpreter_given backend requested binding).mp present with ⟨member, same⟩
    exact ⟨binding, member, same, opened, regular, digest⟩
  · rintro ⟨binding, member, same, opened, regular, digest⟩
    have present := (findInterpreter_given backend requested binding).mpr ⟨member, same⟩
    have computed := identity_of_inspected (backend.inspected binding member)
    exact ⟨binding, present, opened, regular, digest, computed⟩

end PkgexecLinux.Interpreter.Configuration
