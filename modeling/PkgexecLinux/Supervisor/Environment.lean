import PkgexecLinux.Filesystem.HostShape
import PkgexecLinux.Foundation.Assignments
import PkgexecLinux.Process.Stat

/-!
# The environment of the program

`make_environment` writes a request's environment policy as assignments, and `pointers` makes
a vector of C strings of them.  The program reads that vector with `getenv`.  What it reads
there is the policy again exactly when no text of the policy contains what C strings and
search paths are delimited by; in any case nothing but the policy's variables is there.
-/

namespace PkgexecLinux.Supervisor

open Foundation
open Filesystem (MountPoint)
open Process (decimal signed scanLong scanLong_signed)

/-- What `make_environment` reads of a request's environment policy. -/
structure EnvironmentPolicy where
  executableSearchPath : List MountPoint
  homeDirectory : MountPoint
  temporaryDirectory : MountPoint
  parallelism : Nat
  sourceDateEpoch : Option Int
  additionalVariables : List Assignment

/-- `join_path`. -/
def joinPath (values : List MountPoint) : List Char :=
  values.foldl (fun result value =>
    (if result.isEmpty then result else result ++ [':']) ++ value.text) []

/-- `make_environment`. -/
def makeEnvironment (policy : EnvironmentPolicy) : List (List Char) :=
  ["PATH=".toList ++ joinPath policy.executableSearchPath,
   "HOME=".toList ++ policy.homeDirectory.text,
   "LANG=C.UTF-8".toList,
   "LC_ALL=C.UTF-8".toList,
   "TZ=UTC".toList,
   "TMPDIR=".toList ++ policy.temporaryDirectory.text,
   "PKGEXEC_JOBS=".toList ++ decimal policy.parallelism] ++
  (match policy.sourceDateEpoch with
   | some epoch => ["SOURCE_DATE_EPOCH=".toList ++ signed epoch]
   | none => []) ++
  policy.additionalVariables.map fun additional =>
    additional.name ++ ['='] ++ additional.value

/-- `pointers`. -/
def pointers (values : List (List Char)) : List (Option (List Char)) :=
  values.map some ++ [none]

/-- The argument vector that `execute_backend` builds. -/
def programArguments (executable material : List Char) : List (Option (List Char)) :=
  [some executable, some "-c".toList, some material, some "pkgexec".toList, none]

/-! ## Reading -/

/-- The names that the supervisor assigns itself. -/
def assignedNames : List (List Char) :=
  ["PATH".toList, "HOME".toList, "LANG".toList, "LC_ALL".toList, "TZ".toList, "TMPDIR".toList,
   "PKGEXEC_JOBS".toList, "SOURCE_DATE_EPOCH".toList]

/-- What a program takes from its environment. -/
structure Reading where
  searchPath : List (List Char)
  home : List Char
  temporary : List Char
  jobs : Int
  epoch : Option Int
  additional : List Assignment

/-- A text that is a number. -/
def readNumber (text : List Char) : Option Int :=
  match scanLong text with
  | some (number, []) => some number
  | _ => none

def readEnvironment (environment : List (Option (List Char))) : Option Reading := do
  let entries := readVector environment
  let path ← lookup "PATH".toList entries
  let home ← lookup "HOME".toList entries
  let temporary ← lookup "TMPDIR".toList entries
  let jobs ← (lookup "PKGEXEC_JOBS".toList entries).bind readNumber
  let epoch := (lookup "SOURCE_DATE_EPOCH".toList entries).bind readNumber
  let additional := (assignments entries).filter fun assignment =>
    !assignedNames.contains assignment.name
  some ⟨path.splitOn ':', home, temporary, jobs, epoch, additional⟩

namespace EnvironmentPolicy

variable (policy : EnvironmentPolicy)

/-- What the policy says, for the program to read. -/
def reading : Reading where
  searchPath := policy.executableSearchPath.map MountPoint.text
  home := policy.homeDirectory.text
  temporary := policy.temporaryDirectory.text
  jobs := policy.parallelism
  epoch := policy.sourceDateEpoch
  additional := policy.additionalVariables

/-- No text of the policy contains what it will be delimited by, and no additional variable
has a name that the supervisor assigns. -/
structure Legible : Prop where
  searched : policy.executableSearchPath ≠ []
  directories : ∀ directory ∈ policy.executableSearchPath,
    ':' ∉ directory.text ∧ nul ∉ directory.text
  home : nul ∉ policy.homeDirectory.text
  temporary : nul ∉ policy.temporaryDirectory.text
  additional : ∀ assignment ∈ policy.additionalVariables,
    assignment.Plain ∧ assignment.name ∉ assignedNames

/-- The assignments to the names of the supervisor. -/
def assigned : List Assignment :=
  [⟨"PATH".toList, joinPath policy.executableSearchPath⟩,
   ⟨"HOME".toList, policy.homeDirectory.text⟩,
   ⟨"LANG".toList, "C.UTF-8".toList⟩,
   ⟨"LC_ALL".toList, "C.UTF-8".toList⟩,
   ⟨"TZ".toList, "UTC".toList⟩,
   ⟨"TMPDIR".toList, policy.temporaryDirectory.text⟩,
   ⟨"PKGEXEC_JOBS".toList, decimal policy.parallelism⟩] ++
  (policy.sourceDateEpoch.map fun epoch =>
    Assignment.mk "SOURCE_DATE_EPOCH".toList (signed epoch)).toList

end EnvironmentPolicy

/-! ## The assignments of the block -/

variable {policy : EnvironmentPolicy}

theorem makeEnvironment_eq : makeEnvironment policy =
    (policy.assigned ++ policy.additionalVariables).map Assignment.text := by
  have added : (policy.additionalVariables.map fun additional =>
      additional.name ++ ['='] ++ additional.value) =
      policy.additionalVariables.map Assignment.text := by
    apply List.map_congr_left
    intro additional _
    rw [Assignment.text, List.append_assoc, List.singleton_append]
  rw [List.map_append, ← added, makeEnvironment, EnvironmentPolicy.assigned]
  cases policy.sourceDateEpoch <;> rfl

theorem names_assigned : policy.assigned.map Assignment.name =
    if policy.sourceDateEpoch.isSome then assignedNames else assignedNames.dropLast := by
  rw [EnvironmentPolicy.assigned]
  cases policy.sourceDateEpoch <;> rfl

theorem name_mem_assignedNames {assignment : Assignment}
    (member : assignment ∈ policy.assigned) : assignment.name ∈ assignedNames := by
  have named := List.mem_map_of_mem (f := Assignment.name) member
  rw [names_assigned] at named
  split at named
  · exact named
  · exact List.dropLast_subset _ named

theorem assignedNames_plain : ∀ name ∈ assignedNames, '=' ∉ name ∧ nul ∉ name := by
  decide

theorem assigned_nodup : (policy.assigned.map Assignment.name).Nodup := by
  have all : assignedNames.Nodup := by decide
  rw [names_assigned]
  split
  · exact all
  · exact all.sublist (List.dropLast_sublist _)

/-- What the program receives, as assignments. -/
theorem assignments_delivered :
    assignments (readVector (pointers (makeEnvironment policy))) =
      policy.assigned.map Assignment.cut ++
        policy.additionalVariables.filterMap fun additional =>
          Assignment.ofText (cString additional.text) := by
  have own : (policy.assigned.filterMap fun assignment =>
      Assignment.ofText (cString assignment.text)) = policy.assigned.map Assignment.cut := by
    rw [List.filterMap_eq_map_iff_forall_eq_some]
    intro assignment member
    have plain := assignedNames_plain _ (name_mem_assignedNames member)
    exact Assignment.ofText_cut plain.1 plain.2
  rw [pointers, readVector_terminated, makeEnvironment_eq, assignments, List.map_map,
    List.filterMap_map, List.filterMap_append, ← own]
  rfl

/-- The vector that the program finds its environment in. -/
def delivered (policy : EnvironmentPolicy) : List (List Char) :=
  readVector (pointers (makeEnvironment policy))

theorem lookup_delivered {name : List Char} (plain : '=' ∉ name) :
    lookup name (delivered policy) =
      ((policy.assigned.map Assignment.cut ++
        policy.additionalVariables.filterMap fun additional =>
          Assignment.ofText (cString additional.text)).find? fun assignment =>
            assignment.name == name).map Assignment.value := by
  rw [lookup_eq plain, delivered, assignments_delivered]

/-- No additional variable takes the place of what the supervisor assigns. -/
theorem lookup_assigned (assignment : Assignment) (member : assignment ∈ policy.assigned) :
    lookup assignment.name (delivered policy) = some (cString assignment.value) := by
  have distinct : ((policy.assigned.map Assignment.cut).map Assignment.name).Nodup := by
    rw [List.map_map]
    exact assigned_nodup
  have found := find?_name distinct (List.mem_map_of_mem (f := Assignment.cut) member)
    (policy.additionalVariables.filterMap fun additional =>
      Assignment.ofText (cString additional.text))
  rw [lookup_delivered (assignedNames_plain _ (name_mem_assignedNames member)).1]
  exact congrArg (Option.map Assignment.value) found

/-- A name that is not the supervisor's is an additional variable's. -/
theorem lookup_additional {name value : List Char} (plain : '=' ∉ name)
    (found : lookup name (delivered policy) = some value) :
    (∃ assignment ∈ policy.assigned, assignment.name = name) ∨
      ∃ additional ∈ policy.additionalVariables,
        Assignment.ofText (cString additional.text) = some ⟨name, value⟩ := by
  rw [lookup_delivered plain, Option.map_eq_some_iff] at found
  rcases found with ⟨assignment, found, rfl⟩
  have named : assignment.name = name := by simpa using List.find?_some found
  rcases List.mem_append.mp (List.mem_of_find?_eq_some found) with own | other
  · rcases List.mem_map.mp own with ⟨source, member, rfl⟩
    exact .inl ⟨source, member, named⟩
  · rcases List.mem_filterMap.mp other with ⟨additional, member, read⟩
    refine .inr ⟨additional, member, ?_⟩
    rw [read, ← named]

theorem filter_delivered : ((assignments (delivered policy)).filter fun assignment =>
      !assignedNames.contains assignment.name) = policy.additionalVariables ↔
    ∀ assignment ∈ policy.additionalVariables,
      assignment.Plain ∧ assignment.name ∉ assignedNames := by
  have own : ((policy.assigned.map Assignment.cut).filter fun assignment =>
      !assignedNames.contains assignment.name) = [] := by
    rw [List.filter_eq_nil_iff]
    intro cut member
    rcases List.mem_map.mp member with ⟨assignment, source, rfl⟩
    have named := name_mem_assignedNames source
    simp [Assignment.cut, named]
  have back : ∀ assignment : Assignment,
      ((Assignment.ofText (cString assignment.text)).filter fun assignment =>
        !assignedNames.contains assignment.name) = some assignment ↔
        assignment.Plain ∧ assignment.name ∉ assignedNames := by
    intro assignment
    rw [Option.filter_eq_some_iff, Assignment.ofText_cString_text]
    simp
  have mapped := List.filterMap_eq_map_iff_forall_eq_some (l := policy.additionalVariables)
    (f := fun additional => (Assignment.ofText (cString additional.text)).filter fun assignment =>
      !assignedNames.contains assignment.name) (g := id)
  rw [List.map_id] at mapped
  rw [delivered, assignments_delivered, List.filter_append, own, List.nil_append,
    List.filter_filterMap, mapped]
  exact forall₂_congr fun assignment _ => back assignment

/-! ## The values -/

/-- The separator goes before every directory but the first: no directory has an empty
text. -/
theorem joinPath_eq (values : List MountPoint) :
    joinPath values = [':'].intercalate (values.map MountPoint.text) := by
  have nonempty : ∀ value : MountPoint, value.text ≠ [] := by
    intro value empty
    have absolute := value.absolute
    rw [empty] at absolute
    cases absolute
  have further : ∀ (values : List MountPoint) (result : List Char), result ≠ [] →
      values.foldl (fun result value =>
        (if result.isEmpty then result else result ++ [':']) ++ value.text) result =
        [':'].intercalate (result :: values.map MountPoint.text) := by
    intro values
    induction values with
    | nil =>
        intro result _
        rw [List.map_nil, List.intercalate_singleton]
        rfl
    | cons value values ih =>
        intro result started
        have pushed : (if result.isEmpty then result else result ++ [':']) = result ++ [':'] := by
          rw [if_neg (by simpa using started)]
        rw [List.foldl_cons, pushed, ih _ (by simp), List.map_cons, List.intercalate_cons_cons]
        cases values with
        | nil => simp
        | cons next values => simp [List.intercalate_cons_cons]
  cases values with
  | nil => rfl
  | cons value values =>
      rw [joinPath, List.foldl_cons, List.map_cons]
      exact further values value.text (nonempty value)

theorem readNumber_signed (number : Int) : readNumber (signed number) = some number := by
  have scanned : scanLong (' ' :: (signed number ++ [])) = some (number, []) :=
    scanLong_signed number (by simp)
  rw [List.append_nil] at scanned
  have spaced : scanLong (signed number) = scanLong (' ' :: signed number) := by
    rw [scanLong, scanLong, List.dropWhile_cons_of_pos (by decide)]
  rw [readNumber, spaced, scanned]

theorem cString_signed (number : Int) : cString (signed number) = signed number :=
  cString_eq_self.mpr (Process.signed_plain number (by decide) (by decide))

theorem readEnvironment_delivered :
    readEnvironment (pointers (makeEnvironment policy)) = some
      { searchPath := (cString (joinPath policy.executableSearchPath)).splitOn ':'
        home := cString policy.homeDirectory.text
        temporary := cString policy.temporaryDirectory.text
        jobs := policy.parallelism
        epoch := (lookup "SOURCE_DATE_EPOCH".toList (delivered policy)).bind readNumber
        additional := (assignments (delivered policy)).filter fun assignment =>
          !assignedNames.contains assignment.name } := by
  have path : lookup "PATH".toList (delivered policy) =
      some (cString (joinPath policy.executableSearchPath)) :=
    lookup_assigned ⟨"PATH".toList, joinPath policy.executableSearchPath⟩
      (by simp [EnvironmentPolicy.assigned])
  have home : lookup "HOME".toList (delivered policy) =
      some (cString policy.homeDirectory.text) :=
    lookup_assigned ⟨"HOME".toList, policy.homeDirectory.text⟩
      (by simp [EnvironmentPolicy.assigned])
  have temporary : lookup "TMPDIR".toList (delivered policy) =
      some (cString policy.temporaryDirectory.text) :=
    lookup_assigned ⟨"TMPDIR".toList, policy.temporaryDirectory.text⟩
      (by simp [EnvironmentPolicy.assigned])
  have jobs : lookup "PKGEXEC_JOBS".toList (delivered policy) =
      some (cString (decimal policy.parallelism)) :=
    lookup_assigned ⟨"PKGEXEC_JOBS".toList, decimal policy.parallelism⟩
      (by simp [EnvironmentPolicy.assigned])
  have number : readNumber (cString (decimal policy.parallelism)) =
      some (policy.parallelism : Int) := by
    have read := readNumber_signed (policy.parallelism : Int)
    rw [← cString_signed] at read
    exact read
  rw [delivered] at path home temporary jobs
  rw [readEnvironment, path, home, temporary, jobs]
  simp only [Option.bind_eq_bind, Option.bind_some, number]
  rfl

theorem epoch_delivered
    (additional : ∀ assignment ∈ policy.additionalVariables,
      assignment.Plain ∧ assignment.name ∉ assignedNames) :
    (lookup "SOURCE_DATE_EPOCH".toList (delivered policy)).bind readNumber =
      policy.sourceDateEpoch := by
  cases dated : policy.sourceDateEpoch with
  | some epoch =>
      have member : Assignment.mk "SOURCE_DATE_EPOCH".toList (signed epoch) ∈ policy.assigned := by
        simp [EnvironmentPolicy.assigned, dated]
      have found := lookup_assigned _ member
      rw [found, Option.bind_some, cString_signed, readNumber_signed]
  | none =>
      cases found : lookup "SOURCE_DATE_EPOCH".toList (delivered policy) with
      | none => rfl
      | some value =>
          exfalso
          rcases lookup_additional (by decide) found with own | ⟨other, member, read⟩
          · rcases own with ⟨assignment, member, named⟩
            have listed := List.mem_map_of_mem (f := Assignment.name) member
            rw [named, names_assigned, dated] at listed
            revert listed
            decide
          · have plain := additional other member
            rw [Assignment.ofText_cString_text.mpr plain.1] at read
            injection read with same
            have reserved : "SOURCE_DATE_EPOCH".toList ∈ assignedNames := by decide
            rw [same] at plain
            exact plain.2 reserved

theorem readEnvironment_eq_reading :
    readEnvironment (pointers (makeEnvironment policy)) = some policy.reading ↔
      policy.Legible := by
  have searched := splitOn_cString ':' (policy.executableSearchPath.map MountPoint.text)
    (by decide)
  rw [← joinPath_eq] at searched
  rw [readEnvironment_delivered, EnvironmentPolicy.reading, Option.some_inj, Reading.mk.injEq,
    searched, cString_eq_self, cString_eq_self, filter_delivered]
  constructor
  · rintro ⟨⟨some, directories⟩, home, temporary, _, _, additional⟩
    exact ⟨by simpa using some, fun directory member =>
      directories directory.text (List.mem_map_of_mem member), home, temporary, additional⟩
  · intro legible
    have directories : ∀ field ∈ policy.executableSearchPath.map MountPoint.text,
        ':' ∉ field ∧ nul ∉ field := by
      intro field member
      rcases List.mem_map.mp member with ⟨directory, listed, rfl⟩
      exact legible.directories directory listed
    exact ⟨⟨by simpa using legible.searched, directories⟩, legible.home, legible.temporary, rfl,
      epoch_delivered legible.additional, legible.additional⟩

theorem readVector_arguments (executable material : List Char) :
    readVector (programArguments executable material) =
      [cString executable, "-c".toList, cString material, "pkgexec".toList] := by
  rfl

/-- The program reads the policy exactly when it is legible; in every case it finds what the
supervisor assigns under the supervisor's names, and nothing else but the additional
variables.  Its argument vector is the one that was meant exactly when neither the executable
path nor the program text holds a NUL. -/
theorem environment_exact (policy : EnvironmentPolicy) (executable material : List Char) :
    (readEnvironment (pointers (makeEnvironment policy)) = some policy.reading ↔
      policy.Legible) ∧
    (∀ assignment ∈ policy.assigned,
      lookup assignment.name (readVector (pointers (makeEnvironment policy))) =
        some (cString assignment.value)) ∧
    (∀ name value, '=' ∉ name →
      lookup name (readVector (pointers (makeEnvironment policy))) = some value →
        (∃ assignment ∈ policy.assigned, assignment.name = name) ∨
          ∃ additional ∈ policy.additionalVariables,
            Assignment.ofText (cString additional.text) = some ⟨name, value⟩) ∧
    (readVector (programArguments executable material) =
        [executable, "-c".toList, material, "pkgexec".toList] ↔
      nul ∉ executable ∧ nul ∉ material) := by
  refine ⟨readEnvironment_eq_reading, lookup_assigned,
    fun _ _ plain found => lookup_additional plain found, ?_⟩
  rw [readVector_arguments, ← cString_eq_self, ← cString_eq_self]
  simp

end PkgexecLinux.Supervisor
