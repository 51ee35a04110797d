import PkgexecLinux.Foundation.Directories
import PkgexecLinux.Foundation.Runs

/-!
# The scratch directory of an admission

An `isolated_admission` owns a scratch directory, which `make_scratch` makes and which
is removed once: by `verify_parent_cleanup`, by its destructor or by an assignment
over it, whichever comes first.  Objects are moved from one variable to another, and
an object that has been moved from owns nothing.
-/

namespace PkgexecLinux.Filesystem

open Foundation Foundation.Directories

/-! ## One admission -/

/-- The directories of a scratch area: what `mkdtemp` makes, and `root` in it. -/
inductive ScratchDir where
  | top (scratch : Nat)
  | root (scratch : Nat)
  deriving DecidableEq, Repr

namespace ScratchDir

def children : ScratchDir → List ScratchDir
  | .top scratch => [.root scratch]
  | .root _ => []

/-- The area that a directory is part of. -/
def scratch : ScratchDir → Nat
  | .top scratch | .root scratch => scratch

/-- The removals of `make_scratch` and `verify_parent_cleanup`, in their order. -/
def order (scratch : Nat) : List ScratchDir := [.root scratch, .top scratch]

theorem order_nodup (scratch : Nat) : (order scratch).Nodup := by
  simp [order]

theorem mem_order {dir : ScratchDir} {area : Nat} : dir ∈ order area ↔ dir.scratch = area := by
  cases dir <;> simp [order, ScratchDir.scratch]

end ScratchDir

/-- `scratch_`, none if the path is empty, and `cleanup_attempted_`. -/
structure AdmissionScratch where
  scratch : Option Nat
  attempted : Bool
  deriving DecidableEq, Repr

/-- Which directory the kernel refuses to remove, and why. -/
abbrev Refusals := ScratchDir → Option Refusal

namespace AdmissionScratch

/-- An object that has been moved from. -/
def movedFrom : AdmissionScratch := ⟨none, true⟩

/-- `verify_parent_cleanup`: its answer, the object and the directories after it. -/
def verifyParentCleanup (refuses : Refusals) (admission : AdmissionScratch)
    (dirs : ScratchDir → Bool) : Bool × AdmissionScratch × (ScratchDir → Bool) :=
  if admission.attempted then (admission.scratch.isNone, admission, dirs)
  else
    match admission.scratch with
    | none => (true, ⟨none, true⟩, dirs)
    | some scratch =>
        match removeAll ScratchDir.children refuses (ScratchDir.order scratch) dirs with
        | (none, left) => (true, ⟨none, true⟩, left)
        | (some _, left) => (false, ⟨some scratch, true⟩, left)

/-- `cleanup_best_effort`. -/
def cleanupBestEffort (refuses : Refusals) (admission : AdmissionScratch)
    (dirs : ScratchDir → Bool) : AdmissionScratch × (ScratchDir → Bool) :=
  if !admission.attempted && admission.scratch.isSome then
    (verifyParentCleanup refuses admission dirs).2
  else
    (admission, dirs)

/-- The object still has its directory to remove. -/
def pending (admission : AdmissionScratch) : Option Nat :=
  if admission.attempted then none else admission.scratch

/-- What a cleanup does with the object's directory.  The path is kept if the removal has
failed. -/
inductive Cleaned (refuses : Refusals) (admission : AdmissionScratch) (dirs : ScratchDir → Bool) :
    Bool → AdmissionScratch → (ScratchDir → Bool) → Prop where
  | idle : admission.pending = none → Cleaned refuses admission dirs admission.scratch.isNone
      ⟨admission.scratch, true⟩ dirs
  | removed (scratch : Nat) (left : ScratchDir → Bool) : admission.pending = some scratch →
      left = (removeAll ScratchDir.children refuses (ScratchDir.order scratch) dirs).2 →
      (∀ dir, dir.scratch = scratch → left dir = false) →
      Cleaned refuses admission dirs true ⟨none, true⟩ left
  | refused (scratch : Nat) (left : ScratchDir → Bool) (dir : ScratchDir) :
      admission.pending = some scratch →
      left = (removeAll ScratchDir.children refuses (ScratchDir.order scratch) dirs).2 →
      dir.scratch = scratch → left dir = true →
      Cleaned refuses admission dirs false ⟨some scratch, true⟩ left

theorem verifyParentCleanup_spec (refuses : Refusals) (admission : AdmissionScratch)
    (dirs : ScratchDir → Bool) :
    Cleaned refuses admission dirs (verifyParentCleanup refuses admission dirs).1
      (verifyParentCleanup refuses admission dirs).2.1
      (verifyParentCleanup refuses admission dirs).2.2 := by
  rcases admission with ⟨scratch, attempted⟩
  cases attempted with
  | true => exact .idle rfl
  | false =>
      cases scratch with
      | none => exact .idle rfl
      | some scratch =>
          have truthful := @removeAll_eq_none_iff _ _ ScratchDir.children refuses
            (ScratchDir.order scratch) dirs (ScratchDir.order_nodup scratch)
          simp only [verifyParentCleanup, Bool.false_eq_true, if_false]
          cases outcome : removeAll ScratchDir.children refuses (ScratchDir.order scratch) dirs with
          | mk failed left =>
              rw [outcome] at truthful
              have same : left = (removeAll ScratchDir.children refuses
                  (ScratchDir.order scratch) dirs).2 := by rw [outcome]
              cases failed with
              | none =>
                  refine .removed scratch left rfl same ?_
                  intro dir mine
                  exact truthful.mp rfl dir (ScratchDir.mem_order.mpr mine)
              | some failure =>
                  have remains : ¬ ∀ dir ∈ ScratchDir.order scratch, left dir = false := by
                    intro gone
                    cases truthful.mpr gone
                  simp only [not_forall] at remains
                  rcases remains with ⟨dir, member, there⟩
                  exact .refused scratch left dir rfl same (ScratchDir.mem_order.mp member)
                    (eq_true_of_ne_false there)

/-- `cleanup_best_effort` is a cleanup that forgets the answer. -/
theorem cleanupBestEffort_spec (refuses : Refusals) (admission : AdmissionScratch)
    (dirs : ScratchDir → Bool) :
    ∃ answer after, Cleaned refuses admission dirs answer after
      (cleanupBestEffort refuses admission dirs).2 := by
  rw [cleanupBestEffort]
  split
  next => exact ⟨_, _, verifyParentCleanup_spec refuses admission dirs⟩
  next idle =>
    refine ⟨admission.scratch.isNone, ⟨admission.scratch, true⟩, .idle ?_⟩
    rcases admission with ⟨scratch, attempted⟩
    cases attempted with
    | true => rfl
    | false =>
        cases scratch with
        | none => rfl
        | some scratch => simp at idle

section Cleaning

variable {refuses : Refusals} {admission after : AdmissionScratch} {dirs left : ScratchDir → Bool}
  {answer : Bool}

/-- What a cleanup has removed of an area. -/
theorem Cleaned.left_eq (cleaned : admission.Cleaned refuses dirs answer after left) :
    admission.pending = none ∧ left = dirs ∨ ∃ scratch, admission.pending = some scratch ∧
      left = (removeAll ScratchDir.children refuses (ScratchDir.order scratch) dirs).2 := by
  cases cleaned with
  | idle nothing => exact .inl ⟨nothing, rfl⟩
  | removed scratch _ mine same => exact .inr ⟨scratch, mine, same⟩
  | refused scratch _ _ mine same => exact .inr ⟨scratch, mine, same⟩

/-- A cleanup removes directories of the object's own area only. -/
theorem Cleaned.other (cleaned : admission.Cleaned refuses dirs answer after left)
    {dir : ScratchDir} (other : admission.pending ≠ some dir.scratch) : left dir = dirs dir := by
  rcases cleaned.left_eq with ⟨_, rfl⟩ | ⟨scratch, mine, rfl⟩
  · rfl
  · apply removeAll_of_notMem
    intro member
    rw [ScratchDir.mem_order] at member
    exact other (mine.trans (congrArg some member.symm))

theorem Cleaned.fewer (cleaned : admission.Cleaned refuses dirs answer after left)
    {dir : ScratchDir} (there : left dir = true) : dirs dir = true := by
  rcases cleaned.left_eq with ⟨_, rfl⟩ | ⟨scratch, _, rfl⟩
  · exact there
  · exact present_of_removeAll there

theorem Cleaned.settled (cleaned : admission.Cleaned refuses dirs answer after left) :
    after.pending = none := by
  cases cleaned <;> rfl

/-- Both directories of an area are removed if the kernel refuses nothing. -/
theorem removeAll_order (free : ∀ dir, refuses dir = none) (scratch : Nat)
    (dirs : ScratchDir → Bool) (dir : ScratchDir) (mine : dir.scratch = scratch) :
    (removeAll ScratchDir.children refuses (ScratchDir.order scratch) dirs).2 dir = false := by
  apply removeAll_clears ?_ (fun dir _ => free dir) dir (ScratchDir.mem_order.mpr mine)
  intro early parent late split child member
  left
  match early with
  | [] =>
      cases split
      cases member
  | [_] =>
      cases split
      rw [ScratchDir.children, List.mem_singleton] at member
      exact List.mem_singleton.mpr member
  | _ :: _ :: early => simp [ScratchDir.order] at split

/-- `verify_parent_cleanup` tells the truth, and goes on telling it: it answers true exactly
if nothing of the area that the object holds exists afterwards, it changes nothing of any
other area, and every later call gives the same answer and removes nothing, whatever the
kernel refuses then and whatever exists by then. -/
theorem verifyParentCleanup_truthful (refuses : Refusals) {admission : AdmissionScratch}
    {scratch : Nat} (mine : admission.pending = some scratch) (dirs : ScratchDir → Bool) :
    ((verifyParentCleanup refuses admission dirs).1 = true ↔
      ∀ dir, dir.scratch = scratch → (verifyParentCleanup refuses admission dirs).2.2 dir = false) ∧
    (∀ dir, dir.scratch ≠ scratch →
      (verifyParentCleanup refuses admission dirs).2.2 dir = dirs dir) ∧
    ∀ later present, verifyParentCleanup later
      (verifyParentCleanup refuses admission dirs).2.1 present =
        ((verifyParentCleanup refuses admission dirs).1,
          (verifyParentCleanup refuses admission dirs).2.1, present) := by
  have cleaned := verifyParentCleanup_spec refuses admission dirs
  have other := @cleaned.other
  generalize verifyParentCleanup refuses admission dirs = outcome at cleaned other ⊢
  rcases outcome with ⟨answer, after, left⟩
  refine ⟨?_, ?_, ?_⟩
  · cases cleaned with
    | idle nothing =>
        rw [mine] at nothing
        cases nothing
    | removed area _ held _ gone =>
        rw [mine] at held
        cases held
        exact ⟨fun _ => gone, fun _ => rfl⟩
    | refused area _ dir held _ part there =>
        rw [mine] at held
        cases held
        refine ⟨nofun, fun gone => ?_⟩
        exact absurd (gone dir part) (ne_false_of_eq_true there)
  · intro dir apart
    apply other
    rw [mine]
    rintro ⟨⟩
    exact apart rfl
  · intro later present
    cases cleaned with
    | idle nothing =>
        rw [mine] at nothing
        cases nothing
    | removed => rfl
    | refused => rfl

end Cleaning

/-- A scratch directory that someone is using: the removal of the upper one fails. -/
theorem verifyParentCleanup_truthful_busy :
    pending ⟨some 3, false⟩ = some 3 ∧
      (verifyParentCleanup (fun dir => if dir = .top 3 then some ⟨16, by decide⟩ else none)
        ⟨some 3, false⟩ (fun _ => true)).2.2 (.root 4) = true := by
  refine ⟨rfl, ?_⟩
  exact (verifyParentCleanup_truthful _ rfl _).2.1 (.root 4) (by decide)

end AdmissionScratch

/-! ## The life of the objects -/

/-- The objects by their variables, and the directories.  `made` are the areas that have been
made so far, and `abandoned` those of which a cleanup has left something behind. -/
structure ScratchStore where
  objects : Nat → Option AdmissionScratch
  dirs : ScratchDir → Bool
  made : List Nat
  abandoned : List Nat

/-- What is done with the objects. -/
inductive ScratchOperation where
  /-- `make_scratch` and the constructor; `prepared` says that `chmod` and `mkdir`
  succeed. -/
  | construct (object scratch : Nat) (prepared : Bool)
  | moveConstruct (source target : Nat)
  | moveAssign (source target : Nat)
  | verify (object : Nat)
  | destroy (object : Nat)
  /-- Someone else removes a directory. -/
  | vanish (dir : ScratchDir)
  deriving DecidableEq, Repr

/-- The object whose directory an operation may remove. -/
def ScratchOperation.subject : ScratchOperation → Option Nat
  | .moveAssign _ target => some target
  | .verify object | .destroy object => some object
  | .construct .. | .moveConstruct .. | .vanish _ => none

/-- An operation, and the removals that the kernel refuses during it. -/
structure ScratchAct where
  operation : ScratchOperation
  refusals : List (ScratchDir × Refusal)

def ScratchAct.refuses (act : ScratchAct) : Refusals := fun dir =>
  (act.refusals.find? fun entry => entry.1 == dir).map (·.2)

namespace ScratchStore

def initial : ScratchStore := ⟨fun _ => none, fun _ => false, [], []⟩

/-- Something of an area exists. -/
def remains (dirs : ScratchDir → Bool) (scratch : Nat) : Bool :=
  dirs (.top scratch) || dirs (.root scratch)

/-- Record the area of a cleanup that has left something behind. -/
def note (scratch : Option Nat) (left : ScratchDir → Bool) (abandoned : List Nat) : List Nat :=
  match scratch with
  | some scratch => if remains left scratch then scratch :: abandoned else abandoned
  | none => abandoned

/-- What `mkdtemp` makes. -/
def addTop (dirs : ScratchDir → Bool) (scratch : Nat) : ScratchDir → Bool :=
  Function.update dirs (.top scratch) true

/-- The whole area. -/
def addArea (dirs : ScratchDir → Bool) (scratch : Nat) : ScratchDir → Bool :=
  Function.update (addTop dirs scratch) (.root scratch) true

/-- `make_scratch`.  If the area cannot be prepared, what has been made is removed. -/
def makeScratch (refuses : Refusals) (scratch : Nat) (prepared : Bool) (dirs : ScratchDir → Bool) :
    Option AdmissionScratch × (ScratchDir → Bool) :=
  if prepared then (some ⟨some scratch, false⟩, addArea dirs scratch)
  else
    (none, (removeAll ScratchDir.children refuses (ScratchDir.order scratch)
      (addTop dirs scratch)).2)

/-- A variable with an object, or without if none has been made, and a new area. -/
def enlarge (store : ScratchStore) (object scratch : Nat) (new : Option AdmissionScratch)
    (dirs : ScratchDir → Bool) (abandoned : List Nat) : ScratchStore where
  objects := Function.update store.objects object new
  dirs := dirs
  made := scratch :: store.made
  abandoned := abandoned

/-- Replace an object after a cleanup. -/
def settle (store : ScratchStore) (object : Nat) (old : AdmissionScratch)
    (new : Option AdmissionScratch) (left : ScratchDir → Bool) : ScratchStore :=
  { store with
    objects := Function.update store.objects object new
    dirs := left
    abandoned := note old.pending left store.abandoned }

/-- Give a variable an object, and leave the other moved from. -/
def moveOut (store : ScratchStore) (source target : Nat) (moved : AdmissionScratch) :
    ScratchStore :=
  { store with
    objects := Function.update (Function.update store.objects target (some moved)) source
      (some .movedFrom) }

/-- One operation; none where the program could not make it.  `mkdtemp` makes a directory
where there is none. -/
def step (act : ScratchAct) (store : ScratchStore) : Option ScratchStore :=
  match act.operation with
  | .construct object scratch prepared =>
      if (store.objects object).isSome || store.dirs (.top scratch) then none
      else
        let outcome := makeScratch act.refuses scratch prepared store.dirs
        some (store.enlarge object scratch outcome.1 outcome.2
          (note (if prepared then none else some scratch) outcome.2 store.abandoned))
  | .moveConstruct source target =>
      match store.objects source, store.objects target with
      | some moved, none => some (store.moveOut source target moved)
      | _, _ => none
  | .moveAssign source target =>
      match store.objects source, store.objects target with
      | some moved, some old =>
          if source = target then some store
          else
            let left := (old.cleanupBestEffort act.refuses store.dirs).2
            some ((store.settle target old none left).moveOut source target moved)
      | _, _ => none
  | .verify object =>
      match store.objects object with
      | some admission =>
          let outcome := admission.verifyParentCleanup act.refuses store.dirs
          some (store.settle object admission (some outcome.2.1) outcome.2.2)
      | none => none
  | .destroy object =>
      match store.objects object with
      | some admission =>
          some (store.settle object admission none
            (admission.cleanupBestEffort act.refuses store.dirs).2)
      | none => none
  | .vanish dir =>
      if store.dirs dir && dir.children.all (fun child => !store.dirs child) then
        some { store with dirs := Function.update store.dirs dir false }
      else
        none

/-- `mkdtemp` draws a name that has not been drawn before.  The library promises one that is
not there now. -/
def freshNames (store : ScratchStore) (act : ScratchAct) : Bool :=
  match act.operation with
  | .construct _ scratch _ => !store.made.contains scratch
  | _ => true

theorem notMem_of_freshNames {store : ScratchStore} {act : ScratchAct}
    (fresh : freshNames store act = true) {object scratch : Nat} {prepared : Bool}
    (operation : act.operation = .construct object scratch prepared) : scratch ∉ store.made := by
  simpa [freshNames, operation] using fresh

/-- Everything an operation can do. -/
inductive Event (store : ScratchStore) (act : ScratchAct) : ScratchStore → Prop where
  | construct (object scratch : Nat) : act.operation = .construct object scratch true →
      store.objects object = none → store.dirs (.top scratch) = false →
      Event store act (store.enlarge object scratch (some ⟨some scratch, false⟩)
        (addArea store.dirs scratch) store.abandoned)
  | unprepared (object scratch : Nat) (left : ScratchDir → Bool) :
      act.operation = .construct object scratch false →
      store.objects object = none → store.dirs (.top scratch) = false →
      left = (removeAll ScratchDir.children act.refuses (ScratchDir.order scratch)
        (addTop store.dirs scratch)).2 →
      Event store act (store.enlarge object scratch none left
        (note (some scratch) left store.abandoned))
  | moveConstruct (source target : Nat) (moved : AdmissionScratch) :
      act.operation = .moveConstruct source target → store.objects source = some moved →
      store.objects target = none → Event store act (store.moveOut source target moved)
  | selfAssign (object : Nat) : act.operation = .moveAssign object object → Event store act store
  | moveAssign (source target : Nat) (moved old after : AdmissionScratch) (answer : Bool)
      (left : ScratchDir → Bool) : act.operation = .moveAssign source target →
      source ≠ target → store.objects source = some moved → store.objects target = some old →
      old.Cleaned act.refuses store.dirs answer after left →
      Event store act ((store.settle target old none left).moveOut source target moved)
  | verify (object : Nat) (admission after : AdmissionScratch) (answer : Bool)
      (left : ScratchDir → Bool) : act.operation = .verify object →
      store.objects object = some admission →
      admission.Cleaned act.refuses store.dirs answer after left →
      Event store act (store.settle object admission (some after) left)
  | destroy (object : Nat) (admission after : AdmissionScratch) (answer : Bool)
      (left : ScratchDir → Bool) : act.operation = .destroy object →
      store.objects object = some admission →
      admission.Cleaned act.refuses store.dirs answer after left →
      Event store act (store.settle object admission none left)
  | vanish (dir : ScratchDir) : act.operation = .vanish dir →
      Event store act { store with dirs := Function.update store.dirs dir false }

theorem step_spec {act : ScratchAct} {store next : ScratchStore}
    (taken : step act store = some next) : Event store act next := by
  rcases act with ⟨operation, refusals⟩
  cases operation with
  | construct object scratch prepared =>
      simp only [step] at taken
      split at taken
      next => cases taken
      next possible =>
        rw [Bool.or_eq_true, not_or, Option.not_isSome_iff_eq_none, Bool.not_eq_true] at possible
        cases taken
        cases prepared with
        | true => exact .construct object scratch rfl possible.1 possible.2
        | false => exact .unprepared object scratch _ rfl possible.1 possible.2 rfl
  | moveConstruct source target =>
      simp only [step] at taken
      split at taken
      next moved here free =>
        cases taken
        exact .moveConstruct source target moved rfl here free
      next => cases taken
  | moveAssign source target =>
      simp only [step] at taken
      split at taken
      next moved old here there =>
        split at taken
        next same =>
          cases taken
          subst same
          exact .selfAssign source rfl
        next apart =>
          cases taken
          rcases old.cleanupBestEffort_spec (ScratchAct.refuses ⟨_, refusals⟩) store.dirs with
            ⟨answer, after, cleaned⟩
          exact .moveAssign source target moved old after answer _ rfl apart here there cleaned
      next => cases taken
  | verify object =>
      simp only [step] at taken
      split at taken
      next admission here =>
        cases taken
        exact .verify object admission _ _ _ rfl here
          (admission.verifyParentCleanup_spec (ScratchAct.refuses ⟨_, refusals⟩) store.dirs)
      next => cases taken
  | destroy object =>
      simp only [step] at taken
      split at taken
      next admission here =>
        cases taken
        rcases admission.cleanupBestEffort_spec (ScratchAct.refuses ⟨_, refusals⟩) store.dirs with
          ⟨answer, after, cleaned⟩
        exact .destroy object admission after answer _ rfl here cleaned
      next => cases taken
  | vanish dir =>
      simp only [step] at taken
      split at taken
      next =>
        cases taken
        exact .vanish dir rfl
      next => cases taken

/-! ## Every directory is accounted for -/

/-- The object of the variable has still to remove the area. -/
def Holds (store : ScratchStore) (object scratch : Nat) : Prop :=
  ∃ admission, store.objects object = some admission ∧ admission.pending = some scratch

/-- An area is held by one object at most, and what exists of an area that no object holds
has been left behind by a cleanup. -/
structure Accounted (store : ScratchStore) : Prop where
  single : ∀ object other scratch, store.Holds object scratch → store.Holds other scratch →
    object = other
  known : ∀ object scratch, store.Holds object scratch → scratch ∈ store.made
  existing : ∀ dir, store.dirs dir = true → dir.scratch ∈ store.made
  covered : ∀ dir, store.dirs dir = true →
    (∃ object, store.Holds object dir.scratch) ∨ dir.scratch ∈ store.abandoned

theorem accounted_initial : initial.Accounted := by
  constructor <;> simp [initial, Holds]

theorem mem_note {scratch : Option Nat} {left : ScratchDir → Bool} {abandoned : List Nat}
    {area : Nat} (member : area ∈ abandoned) : area ∈ note scratch left abandoned := by
  rw [note.eq_def]
  split
  · split
    · exact List.mem_cons_of_mem _ member
    · exact member
  · exact member

theorem mem_note_of_remains {left : ScratchDir → Bool} {abandoned : List Nat} {dir : ScratchDir}
    (there : left dir = true) : dir.scratch ∈ note (some dir.scratch) left abandoned := by
  have some' : remains left dir.scratch = true := by
    cases dir <;> simp_all [remains, ScratchDir.scratch]
  simp [note, some']

section Steps

variable {store next : ScratchStore} {act : ScratchAct}

theorem settle_self (store : ScratchStore) (object : Nat) (old : AdmissionScratch)
    (new : Option AdmissionScratch) (left : ScratchDir → Bool) :
    (store.settle object old new left).objects object = new :=
  Function.update_self _ _ _

theorem settle_of_ne (store : ScratchStore) {object other : Nat} (old : AdmissionScratch)
    (new : Option AdmissionScratch) (left : ScratchDir → Bool) (apart : other ≠ object) :
    (store.settle object old new left).objects other = store.objects other :=
  Function.update_of_ne apart _ _

/-- Replacing an object after its cleanup. -/
theorem Accounted.settle (accounted : store.Accounted) {refuses : Refusals} {object : Nat}
    {admission after : AdmissionScratch} {answer : Bool} {left : ScratchDir → Bool}
    (here : store.objects object = some admission)
    (cleaned : admission.Cleaned refuses store.dirs answer after left)
    {new : Option AdmissionScratch} (idle : ∀ value, new = some value → value.pending = none) :
    (store.settle object admission new left).Accounted := by
  have held : ∀ other scratch, (store.settle object admission new left).Holds other scratch →
      store.Holds other scratch := by
    rintro other scratch ⟨value, there, mine⟩
    by_cases same : other = object
    · subst same
      rw [settle_self] at there
      rw [idle value there] at mine
      cases mine
    · rw [settle_of_ne _ _ _ _ same] at there
      exact ⟨value, there, mine⟩
  refine ⟨?_, ?_, ?_, ?_⟩
  · intro first second scratch holds also
    exact accounted.single first second scratch (held _ _ holds) (held _ _ also)
  · intro other scratch holds
    exact accounted.known other scratch (held _ _ holds)
  · intro dir there
    exact accounted.existing dir (cleaned.fewer there)
  · intro dir there
    rcases accounted.covered dir (cleaned.fewer there) with ⟨other, value, found, mine⟩ | left
    · by_cases same : other = object
      · -- The area of the object itself is noted if it still exists.
        subst same
        rw [here] at found
        cases found
        right
        rw [ScratchStore.settle, mine]
        exact mem_note_of_remains there
      · left
        refine ⟨other, value, ?_, mine⟩
        rw [settle_of_ne _ _ _ _ same]
        exact found
    · exact .inr (mem_note left)

/-- Moving an object to a variable that holds nothing. -/
theorem Accounted.moveOut (accounted : store.Accounted) {source target : Nat}
    {moved : AdmissionScratch} (here : store.objects source = some moved)
    (apart : source ≠ target) (free : store.objects target = none) :
    (store.moveOut source target moved).Accounted := by
  -- Who holds an area after the move held it before, or is the target of what the source held.
  have held : ∀ object scratch, (store.moveOut source target moved).Holds object scratch ↔
      (object = target ∧ moved.pending = some scratch) ∨
        (object ≠ target ∧ object ≠ source ∧ store.Holds object scratch) := by
    intro object scratch
    by_cases isSource : object = source
    · subst isSource
      simp [Holds, ScratchStore.moveOut, apart, AdmissionScratch.movedFrom,
        AdmissionScratch.pending]
    · by_cases isTarget : object = target
      · subst isTarget
        simp [Holds, ScratchStore.moveOut, Function.update_of_ne isSource]
      · simp [Holds, ScratchStore.moveOut, isSource, isTarget]
  have source_holds : ∀ scratch, moved.pending = some scratch → store.Holds source scratch :=
    fun scratch mine => ⟨moved, here, mine⟩
  refine ⟨?_, ?_, accounted.existing, ?_⟩
  · intro object other scratch holds also
    rcases (held object scratch).mp holds with ⟨rfl, mine⟩ | ⟨_, notSource, old⟩
    · rcases (held other scratch).mp also with ⟨rfl, _⟩ | ⟨_, notSource, old⟩
      · rfl
      · exact absurd (accounted.single _ _ _ old (source_holds scratch mine)) notSource
    · rcases (held other scratch).mp also with ⟨rfl, mine⟩ | ⟨_, _, also⟩
      · exact absurd (accounted.single _ _ _ old (source_holds scratch mine)) notSource
      · exact accounted.single _ _ _ old also
  · intro object scratch holds
    rcases (held object scratch).mp holds with ⟨_, mine⟩ | ⟨_, _, old⟩
    · exact accounted.known source scratch (source_holds scratch mine)
    · exact accounted.known object scratch old
  · intro dir there
    rcases accounted.covered dir there with ⟨object, holds⟩ | left
    · left
      by_cases isSource : object = source
      · subst isSource
        rcases holds with ⟨value, found, mine⟩
        rw [here] at found
        cases found
        exact ⟨target, (held target dir.scratch).mpr (.inl ⟨rfl, mine⟩)⟩
      · have notTarget : object ≠ target := by
          rintro rfl
          rcases holds with ⟨value, found, _⟩
          rw [free] at found
          cases found
        exact ⟨object, (held object dir.scratch).mpr (.inr ⟨notTarget, isSource, holds⟩)⟩
    · exact .inr left

/-- The directories of other areas. -/
theorem addTop_of_ne {dirs : ScratchDir → Bool} {scratch : Nat} {dir : ScratchDir}
    (apart : dir.scratch ≠ scratch) : addTop dirs scratch dir = dirs dir := by
  apply Function.update_of_ne
  rintro rfl
  exact apart rfl

theorem addArea_of_ne {dirs : ScratchDir → Bool} {scratch : Nat} {dir : ScratchDir}
    (apart : dir.scratch ≠ scratch) : addArea dirs scratch dir = dirs dir := by
  rw [addArea, Function.update_of_ne, addTop_of_ne apart]
  rintro rfl
  exact apart rfl

theorem addArea_of_present {dirs : ScratchDir → Bool} {dir : ScratchDir} (scratch : Nat)
    (there : dirs dir = true) : addArea dirs scratch dir = true := by
  by_cases isRoot : dir = .root scratch
  · rw [addArea, isRoot, Function.update_self]
  · rw [addArea, Function.update_of_ne isRoot]
    by_cases isTop : dir = .top scratch
    · rw [addTop, isTop, Function.update_self]
    · rw [addTop, Function.update_of_ne isTop]
      exact there

/-- A new area that nobody has held before. -/
theorem Accounted.enlarge (accounted : store.Accounted) {object scratch : Nat}
    {new : Option AdmissionScratch} {dirs : ScratchDir → Bool} {abandoned : List Nat}
    (free : store.objects object = none) (fresh : scratch ∉ store.made)
    (own : ∀ value area, new = some value → value.pending = some area → area = scratch)
    (former : ∀ dir, dir.scratch ≠ scratch → dirs dir = store.dirs dir)
    (kept : ∀ area ∈ store.abandoned, area ∈ abandoned)
    (covered : ∀ dir, dir.scratch = scratch → dirs dir = true →
      (∃ value, new = some value ∧ value.pending = some scratch) ∨ scratch ∈ abandoned) :
    (store.enlarge object scratch new dirs abandoned).Accounted := by
  have held : ∀ other area, (store.enlarge object scratch new dirs abandoned).Holds other area ↔
      (other = object ∧ ∃ value, new = some value ∧ value.pending = some area) ∨
        (other ≠ object ∧ store.Holds other area) := by
    intro other area
    by_cases same : other = object
    · subst same
      simp [Holds, ScratchStore.enlarge]
    · simp [Holds, ScratchStore.enlarge, same]
  refine ⟨?_, ?_, ?_, ?_⟩
  · intro first second area holds also
    rcases (held first area).mp holds with ⟨rfl, value, made, mine⟩ | ⟨_, old⟩
    · rcases (held second area).mp also with ⟨rfl, _⟩ | ⟨_, old⟩
      · rfl
      · rw [own value area made mine] at old
        exact absurd (accounted.known second scratch old) fresh
    · rcases (held second area).mp also with ⟨rfl, value, made, mine⟩ | ⟨_, also⟩
      · rw [own value area made mine] at old
        exact absurd (accounted.known first scratch old) fresh
      · exact accounted.single _ _ _ old also
  · intro other area holds
    rcases (held other area).mp holds with ⟨_, value, made, mine⟩ | ⟨_, old⟩
    · rw [own value area made mine]
      exact List.mem_cons_self
    · exact List.mem_cons_of_mem _ (accounted.known other area old)
  · intro dir there
    by_cases mine : dir.scratch = scratch
    · rw [mine]
      exact List.mem_cons_self
    · exact List.mem_cons_of_mem _ (accounted.existing dir ((former dir mine).symm.trans there))
  · intro dir there
    by_cases mine : dir.scratch = scratch
    · rcases covered dir mine there with held' | left
      · left
        rw [mine]
        exact ⟨object, (held object scratch).mpr (.inl ⟨rfl, held'⟩)⟩
      · right
        rw [mine]
        exact left
    · rcases accounted.covered dir ((former dir mine).symm.trans there) with ⟨other, holds⟩ | left
      · left
        refine ⟨other, (held other _).mpr (.inr ⟨?_, holds⟩)⟩
        rintro rfl
        rcases holds with ⟨value, found, _⟩
        rw [free] at found
        cases found
      · exact .inr (kept _ left)

theorem Accounted.step (accounted : store.Accounted) (fresh : freshNames store act = true)
    (event : Event store act next) : next.Accounted := by
  cases event with
  | construct object scratch operation free =>
      apply accounted.enlarge free (notMem_of_freshNames fresh operation)
      · rintro value area ⟨⟩ mine
        exact (Option.some.inj mine).symm
      · intro dir apart
        exact addArea_of_ne apart
      · intro area member
        exact member
      · intro dir mine there
        exact .inl ⟨_, rfl, rfl⟩
  | unprepared object scratch left operation free _ same =>
      apply accounted.enlarge free (notMem_of_freshNames fresh operation)
      · intro value area made
        cases made
      · intro dir apart
        rw [same, removeAll_of_notMem fun member => apart (ScratchDir.mem_order.mp member),
          addTop_of_ne apart]
      · intro area member
        exact mem_note member
      · intro dir mine there
        right
        rw [← mine]
        exact mem_note_of_remains there
  | moveConstruct source target moved _ here free =>
      apply accounted.moveOut here ?_ free
      rintro rfl
      rw [here] at free
      cases free
  | selfAssign => exact accounted
  | moveAssign source target moved old after answer left _ apart here there cleaned =>
      have settled : (store.settle target old none left).Accounted :=
        accounted.settle there cleaned nofun
      apply settled.moveOut ?_ apart (settle_self ..)
      rw [settle_of_ne _ _ _ _ apart]
      exact here
  | verify object admission after answer left _ here cleaned =>
      apply accounted.settle here cleaned
      rintro value ⟨⟩
      exact cleaned.settled
  | destroy object admission after answer left _ here cleaned =>
      exact accounted.settle here cleaned nofun
  | vanish dir =>
      have fewer : ∀ other, Function.update store.dirs dir false other = true →
          store.dirs other = true := by
        intro other there
        by_cases same : other = dir
        · rw [same, Function.update_self] at there
          cases there
        · rwa [Function.update_of_ne same] at there
      exact ⟨accounted.single, accounted.known,
        fun other there => accounted.existing other (fewer other there),
        fun other there => accounted.covered other (fewer other there)⟩

theorem accounted_run (run : Reaches ScratchStore.step freshNames initial store) :
    store.Accounted :=
  run.preserves Accounted
    (fun _ _ _ accounted fresh taken => accounted.step fresh (step_spec taken)) accounted_initial

/-- What disappears in one step is of the area that the object of the operation holds, or has
been removed by someone else. -/
theorem vanished_of_event (accounted : store.Accounted) (fresh : freshNames store act = true)
    (event : Event store act next) {dir : ScratchDir} (before : store.dirs dir = true)
    (after : next.dirs dir = false) :
    act.operation = .vanish dir ∨
      ∃ object, act.operation.subject = some object ∧ store.Holds object dir.scratch := by
  have kept : ∀ {refuses : Refusals} {admission settled : AdmissionScratch} {answer : Bool}
      {left : ScratchDir → Bool} (object : Nat), store.objects object = some admission →
      admission.Cleaned refuses store.dirs answer settled left → left dir = false →
      store.Holds object dir.scratch := by
    intro refuses admission settled answer left object here cleaned gone
    refine ⟨admission, here, ?_⟩
    by_contra other
    rw [cleaned.other other, before] at gone
    cases gone
  cases event with
  | construct object scratch operation =>
      have grows := addArea_of_present scratch before
      rw [show addArea store.dirs scratch dir = false from after] at grows
      cases grows
  | unprepared object scratch left operation _ _ same =>
      have apart : dir.scratch ≠ scratch := by
        intro mine
        exact notMem_of_freshNames fresh operation (mine ▸ accounted.existing dir before)
      have stays : left dir = store.dirs dir := by
        rw [same, removeAll_of_notMem fun member => apart (ScratchDir.mem_order.mp member),
          addTop_of_ne apart]
      rw [show left dir = false from after, before] at stays
      cases stays
  | moveConstruct =>
      rw [show store.dirs dir = false from after] at before
      cases before
  | selfAssign =>
      rw [after] at before
      cases before
  | moveAssign source target moved old _ _ left operation apart here there cleaned =>
      exact .inr ⟨target, by rw [operation]; rfl, kept target there cleaned after⟩
  | verify object admission _ _ left operation here cleaned =>
      exact .inr ⟨object, by rw [operation]; rfl, kept object here cleaned after⟩
  | destroy object admission _ _ left operation here cleaned =>
      exact .inr ⟨object, by rw [operation]; rfl, kept object here cleaned after⟩
  | vanish gone operation =>
      left
      by_cases same : dir = gone
      · rw [same]
        exact operation
      · have stays : store.dirs dir = false := by
          rw [← Function.update_of_ne same false store.dirs]
          exact after
        rw [stays] at before
        cases before

/-- The kernel refuses no removal. -/
def unrefused (_ : ScratchStore) (act : ScratchAct) : Bool := act.refusals.isEmpty

theorem refuses_of_unrefused (free : unrefused store act = true) (dir : ScratchDir) :
    act.refuses dir = none := by
  rw [ScratchAct.refuses, List.isEmpty_iff.mp free]
  rfl

theorem remains_removeAll (free : unrefused store act = true) (scratch : Nat)
    (dirs : ScratchDir → Bool) :
    remains (removeAll ScratchDir.children act.refuses (ScratchDir.order scratch) dirs).2
      scratch = false := by
  have gone := AdmissionScratch.removeAll_order (refuses_of_unrefused free) scratch dirs
  rw [remains, gone (.top scratch) rfl, gone (.root scratch) rfl]
  rfl

theorem note_of_cleaned {admission after : AdmissionScratch} {answer : Bool}
    {left : ScratchDir → Bool} (free : unrefused store act = true)
    (cleaned : admission.Cleaned act.refuses store.dirs answer after left) :
    note admission.pending left store.abandoned = store.abandoned := by
  rcases cleaned.left_eq with ⟨nothing, _⟩ | ⟨scratch, mine, rfl⟩
  · rw [nothing]
    rfl
  · simp only [mine, note, remains_removeAll free, Bool.false_eq_true, if_false]

/-- Without a refusal no cleanup leaves anything behind. -/
theorem abandoned_of_event (free : unrefused store act = true) (event : Event store act next) :
    next.abandoned = store.abandoned := by
  cases event with
  | construct | moveConstruct | selfAssign | vanish => rfl
  | unprepared object scratch left _ _ _ same =>
      subst same
      simp only [ScratchStore.enlarge, note, remains_removeAll free, Bool.false_eq_true, if_false]
  | moveAssign _ _ _ _ _ _ _ _ _ _ _ cleaned => exact note_of_cleaned free cleaned
  | verify _ _ _ _ _ _ _ cleaned => exact note_of_cleaned free cleaned
  | destroy _ _ _ _ _ _ _ cleaned => exact note_of_cleaned free cleaned

theorem abandoned_run (run : Reaches ScratchStore.step unrefused initial store) :
    store.abandoned = [] := by
  apply run.preserves (fun store => store.abandoned = []) ?_ rfl
  intro before act after none free taken
  rw [abandoned_of_event free (step_spec taken), none]

end Steps

/-- The scratch directories over every sequence of constructions, moves, verifications and
destructions in which no name is drawn twice.  One object at most has an area to remove, an
operation removes nothing but the area of its own object, so that an object that was moved from
or verified touches nothing, and what is left without an object has been left by a removal that
the kernel refused; where it refuses none, nothing is left when the objects are gone. -/
theorem scratch_accounted {store : ScratchStore}
    (run : Reaches step freshNames initial store) :
    (∀ object other scratch, store.Holds object scratch → store.Holds other scratch →
      object = other) ∧
    (∀ act next dir, freshNames store act = true → step act store = some next →
      store.dirs dir = true → next.dirs dir = false → act.operation = .vanish dir ∨
        ∃ object, act.operation.subject = some object ∧ store.Holds object dir.scratch) ∧
    (∀ dir, store.dirs dir = true →
      (∃ object, store.Holds object dir.scratch) ∨ dir.scratch ∈ store.abandoned) ∧
    (Reaches step unrefused initial store → (∀ object, store.objects object = none) →
      ∀ dir, store.dirs dir = false) := by
  have accounted := accounted_run run
  refine ⟨accounted.single, ?_, accounted.covered, ?_⟩
  · intro act next dir fresh taken before after
    exact vanished_of_event accounted fresh (step_spec taken) before after
  · intro free dead dir
    apply eq_false_of_ne_true
    intro there
    rcases accounted.covered dir there with ⟨object, admission, found, _⟩ | left
    · rw [dead object] at found
      cases found
    · rw [abandoned_run free] at left
      cases left

/-- An admission is made, moved and destroyed while its directory is in use. -/
def busyLife : List ScratchAct :=
  [⟨.construct 0 7 true, []⟩, ⟨.moveConstruct 0 1, []⟩, ⟨.destroy 0, []⟩,
    ⟨.destroy 1, [(.top 7, ⟨16, by decide⟩)]⟩]

theorem scratch_accounted_busy :
    ∃ store : ScratchStore, store.dirs (.top 7) = true ∧ store.dirs (.root 7) = false ∧
      ((∃ object, store.Holds object 7) ∨ 7 ∈ store.abandoned) := by
  have played : ((replay step freshNames busyLife initial).any fun store =>
      store.dirs (.top 7) && !store.dirs (.root 7)) = true := by
    decide
  rcases exists_reached played with ⟨store, run, test⟩
  simp only [Bool.and_eq_true, Bool.not_eq_true'] at test
  exact ⟨store, test.1, test.2, (scratch_accounted run).2.2.1 (.top 7) test.1⟩

end ScratchStore

end PkgexecLinux.Filesystem
