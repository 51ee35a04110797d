import Mathlib.Data.List.Induction
import PkgexecLinux.Process.Closing
import PkgexecLinux.Process.Group
import PkgexecLinux.Process.Stat

/-!
# Reading the process directory

`process_ids` takes the names in `/proc` that are numbers for process ids.  The scans of the
group are modelled on the ids themselves, one `readdir` for each (`Listing`); on a process
directory the two levels agree, whatever happens to the processes meanwhile.  In a directory
that holds other numbers the last of them decides: `strtol` reports in `errno`, where the
function looks for a failure of `readdir` afterwards.
-/

namespace PkgexecLinux.Process

open Kernel

/-- `numeric_name`. -/
def numericName (name : List Char) : Bool := !name.isEmpty && name.all Char.isDigit

/-- `LONG_MAX`. -/
def longMax : Int := 9223372036854775807

/-- `LONG_MIN`. -/
def longMin : Int := -9223372036854775808

/-- `ERANGE`. -/
def outOfRange : Nat := 34

/-- `strtol` to the base ten: the value, what follows the number, and `errno`. -/
def strtol (errno : Nat) (text : List Char) : Int × List Char × Nat :=
  match scanLong text with
  | none => (0, text, errno)
  | some (value, rest) =>
      if longMax < value then (longMax, rest, outOfRange)
      else if value < longMin then (longMin, rest, outOfRange)
      else (value, rest, errno)

/-- Local state of `process_ids`, with the position of its directory stream. -/
structure DirectoryScan where
  offset : Nat
  errno : Nat
  result : List Nat
  deriving DecidableEq, Repr

inductive DirectoryStep where
  | more (scan : DirectoryScan)
  | finished (ids : List Nat)
  | failed
  deriving DecidableEq, Repr

/-- How one `readdir` ends.  `grown` is whether there is memory for `push_back`, `closed`
whether `closedir` succeeds. -/
inductive DirectoryRead where
  /-- An entry that is not a process's. -/
  | other (name : List Char) (grown : Bool)
  /-- The entry of the next process, or the end of the directory. -/
  | next (grown closed : Bool)
  | refused (errno : Nat) (closed : Bool)
  deriving DecidableEq, Repr

/-- One `readdir`, with the processes at that moment. -/
structure DirectoryReading where
  table : ProcessTable
  state : LeaderState
  read : DirectoryRead
  deriving DecidableEq, Repr

namespace DirectoryScan

/-- With `errno` set to zero. -/
def start : DirectoryScan := ⟨0, 0, []⟩

/-- The body of the loop. -/
def inspect (scan : DirectoryScan) (name : List Char) (grown : Bool) : DirectoryStep :=
  if numericName name then
    match strtol 0 name with
    | (value, rest, errno) =>
        if errno = 0 ∧ rest = [] ∧ 0 < value ∧ value ≤ intMax then
          if grown then
            .more { scan with errno := errno, result := scan.result ++ [value.toNat] }
          else
            .failed
        else
          .more { scan with errno := errno }
  else
    .more scan

/-- After the loop. -/
def close (scan : DirectoryScan) (saved : Nat) (closed : Bool) : DirectoryStep :=
  if closed && saved == 0 then .finished scan.result else .failed

/-- `readdir` leaves `errno` alone unless it fails. -/
def step (scan : DirectoryScan) (reading : DirectoryReading) : DirectoryStep :=
  match reading.read with
  | .other name grown => scan.inspect name grown
  | .next grown closed =>
      match reading.table.next reading.state scan.offset with
      | some pid => { scan with offset := pid }.inspect (decimal pid) grown
      | none => scan.close scan.errno closed
  | .refused errno closed => scan.close errno closed

def run (scan : DirectoryScan) : List DirectoryReading → DirectoryStep
  | [] => .more scan
  | reading :: readings =>
      match scan.step reading with
      | .more later => later.run readings
      | .finished ids => .finished ids
      | .failed => .failed

end DirectoryScan

/-- `process_ids`, up to the end of the readings. -/
def processIds (opened : Bool) (readings : List DirectoryReading) : DirectoryStep :=
  if opened then DirectoryScan.start.run readings else .failed

/-! ## On the ids -/

/-- `EBADF`. -/
def badDescriptor : Nat := 9

namespace Listing

/-- The answer that stands for a reading; none if no process's entry is read. -/
def answer (listing : Listing) (reading : DirectoryReading) : Option Answer :=
  match reading.read with
  | .other _ _ => none
  | .next grown closed =>
      match reading.table.next reading.state listing.cursor with
      | some _ => some (if grown then .done else .exhausted)
      | none => some (if closed then .done else .refused badDescriptor)
  | .refused errno _ => some (.refused errno)

def run (listing : Listing) : List DirectoryReading → ListingStep
  | [] => .more listing
  | reading :: readings =>
      match listing.answer reading with
      | none => listing.run readings
      | some answer =>
          match listing.step reading.table reading.state answer with
          | .more later => later.run readings
          | .finished ids => .finished ids
          | .failed => .failed

end Listing

def DirectoryScan.listing (scan : DirectoryScan) : Listing := ⟨scan.offset, scan.result⟩

/-- What the scans of the group see of a step. -/
def DirectoryStep.listing : DirectoryStep → ListingStep
  | .more scan => .more scan.listing
  | .finished ids => .finished ids
  | .failed => .failed

/-- The directory is the kernel's: ids are positive and fit into `pid_t`, and no other name
is a number. -/
structure DirectoryReading.Procfs (reading : DirectoryReading) : Prop where
  ids : ∀ pid ∈ reading.table.listed reading.state, 0 < pid ∧ (pid : Int) ≤ intMax
  others : ∀ name grown, reading.read = .other name grown → numericName name = false
  errors : ∀ errno closed, reading.read = .refused errno closed → errno ≠ 0

/-! ## Names that are numbers -/

/-- The number that a numeric name writes. -/
def nameNumber (name : List Char) : Nat := Nat.ofDigitChars 10 name 0

theorem scanLong_numeric {name : List Char} (numeric : numericName name = true) :
    scanLong name = some ((nameNumber name : Int), []) := by
  rw [numericName, Bool.and_eq_true, List.all_eq_true] at numeric
  rcases numeric with ⟨nonempty, digits⟩
  have taken : name.takeWhile Char.isDigit = name := List.takeWhile_eq_self_iff.mpr digits
  have dropped : name.dropWhile Char.isDigit = [] := List.dropWhile_eq_nil_iff.mpr digits
  have scanned : scanDigits 1 name = some ((nameNumber name : Int), []) := by
    have written : name ≠ [] := by simpa using nonempty
    rw [scanDigits, taken, dropped, if_neg written, Int.one_mul]
    rfl
  cases name with
  | nil => cases nonempty
  | cons digit name =>
      have isDigit : digit.isDigit = true := digits digit List.mem_cons_self
      have notSpace : isSpace digit = false := by
        by_contra space
        simp only [isSpace, Bool.not_eq_false, Bool.or_eq_true, beq_iff_eq] at space
        rcases space with ((((rfl | rfl) | rfl) | rfl) | rfl) | rfl <;> revert isDigit <;> decide
      have kept : (digit :: name).dropWhile isSpace = digit :: name := by
        rw [List.dropWhile_cons_of_neg (by simp [notSpace])]
      rw [scanLong, kept]
      split
      next minus =>
        cases minus
        exact absurd isDigit (by decide)
      next plus =>
        cases plus
        exact absurd isDigit (by decide)
      next => exact scanned

theorem strtol_numeric {name : List Char} (numeric : numericName name = true) (errno : Nat) :
    strtol errno name = if (nameNumber name : Int) ≤ longMax then
      ((nameNumber name : Int), [], errno) else (longMax, [], outOfRange) := by
  have least : longMin ≤ 0 := by decide
  have above : ¬(nameNumber name : Int) < longMin := by omega
  rw [strtol, scanLong_numeric numeric]
  by_cases fits : (nameNumber name : Int) ≤ longMax
  · rw [if_pos fits]
    simp only
    rw [if_neg (by omega), if_neg above]
  · rw [if_neg fits]
    simp only
    rw [if_pos (by omega)]

theorem numericName_decimal (number : Nat) : numericName (decimal number) = true := by
  have nonempty : decimal number ≠ [] := Nat.toDigits_ne_nil
  rw [numericName, Bool.and_eq_true, List.all_eq_true]
  exact ⟨by simpa using nonempty, fun _ member => isDigit_decimal member⟩

theorem nameNumber_decimal (number : Nat) : nameNumber (decimal number) = number := by
  simp [nameNumber, decimal]

/-- The id that a name is taken for. -/
def nameId (name : List Char) : Option Nat :=
  if numericName name ∧ 0 < nameNumber name ∧ (nameNumber name : Int) ≤ intMax then
    some (nameNumber name)
  else
    none

/-- What a name leaves in `errno`. -/
def nameErrno (errno : Nat) (name : List Char) : Nat :=
  if numericName name then
    if (nameNumber name : Int) ≤ longMax then 0 else outOfRange
  else
    errno

namespace DirectoryScan

variable {scan : DirectoryScan} {name : List Char}

theorem inspect_eq (grown : Bool) (granted : (nameId name).isSome → grown = true) :
    scan.inspect name grown = .more { scan with
      errno := nameErrno scan.errno name
      result := scan.result ++ (nameId name).toList } := by
  have bounds : intMax ≤ longMax := by decide
  rw [inspect, nameErrno]
  by_cases numeric : numericName name = true
  · rw [if_pos numeric, if_pos numeric, strtol_numeric numeric]
    by_cases fits : (nameNumber name : Int) ≤ longMax
    · rw [if_pos fits, if_pos fits]
      dsimp only
      by_cases taken : 0 < nameNumber name ∧ (nameNumber name : Int) ≤ intMax
      · have shown : nameId name = some (nameNumber name) := if_pos ⟨numeric, taken⟩
        have room : grown = true := granted (by rw [shown]; rfl)
        rw [if_pos ⟨rfl, rfl, by omega, taken.2⟩, if_pos room, shown]
        rfl
      · have hidden : nameId name = none := if_neg fun all => taken all.2
        rw [if_neg (by omega), hidden, Option.toList_none, List.append_nil]
    · have hidden : nameId name = none :=
        if_neg fun all => fits (Int.le_trans all.2.2 bounds)
      have raised : outOfRange ≠ 0 := by decide
      rw [if_neg fits, if_neg fits]
      dsimp only
      rw [if_neg fun all => raised all.1, hidden, Option.toList_none, List.append_nil]
  · have hidden : nameId name = none := if_neg fun all => numeric all.1
    rw [if_neg numeric, if_neg numeric, hidden, Option.toList_none, List.append_nil]

theorem inspect_exhausted (taken : (nameId name).isSome) :
    scan.inspect name false = .failed := by
  rw [Option.isSome_iff_exists] at taken
  rcases taken with ⟨id, found⟩
  rw [nameId] at found
  split at found
  next all =>
    have bounds : intMax ≤ longMax := by decide
    rcases all with ⟨numeric, positive, small⟩
    rw [inspect, if_pos numeric, strtol_numeric numeric, if_pos (Int.le_trans small bounds)]
    dsimp only
    rw [if_pos ⟨rfl, rfl, by omega, small⟩, if_neg (by decide)]
  next => cases found

end DirectoryScan

/-! ## The two levels -/

/-- A reading of a process directory is a reading of the ids. -/
theorem step_listing {scan : DirectoryScan} {reading : DirectoryReading}
    (procfs : reading.Procfs) (clean : scan.errno = 0) :
    (∀ later, scan.step reading = .more later → later.errno = 0) ∧
      (scan.step reading).listing = match scan.listing.answer reading with
        | none => .more scan.listing
        | some answer => scan.listing.step reading.table reading.state answer := by
  rcases reading with ⟨table, state, read⟩
  cases read with
  | other name grown =>
      have plain : ¬numericName name = true := by
        rw [procfs.others name grown rfl]
        decide
      have stepped : scan.step ⟨table, state, .other name grown⟩ = .more scan := if_neg plain
      rw [stepped]
      refine ⟨?_, rfl⟩
      intro later more
      cases more
      exact clean
  | next grown closed =>
      cases given : table.next state scan.offset with
      | none =>
          have stepped : scan.step ⟨table, state, .next grown closed⟩ = scan.close 0 closed := by
            simp [DirectoryScan.step, given, clean]
          have answered : scan.listing.answer ⟨table, state, .next grown closed⟩ =
              some (if closed then .done else .refused badDescriptor) := by
            simp [Listing.answer, DirectoryScan.listing, given]
          rw [stepped, answered]
          cases closed with
          | true =>
              refine ⟨fun _ more => (by cases more), ?_⟩
              simp [DirectoryScan.close, DirectoryStep.listing, DirectoryScan.listing,
                Listing.step, given]
          | false => exact ⟨fun _ more => (by cases more), rfl⟩
      | some pid =>
          have member : pid ∈ table.listed state :=
            (List.mem_filter.mp (List.min?_mem given)).1
          have bounds := procfs.ids pid member
          have taken : nameId (decimal pid) = some pid := by
            rw [nameId, nameNumber_decimal, if_pos ⟨numericName_decimal pid, bounds⟩]
          have errno : nameErrno scan.errno (decimal pid) = 0 := by
            have fits : (pid : Int) ≤ longMax := Int.le_trans bounds.2 (by decide)
            rw [nameErrno, if_pos (numericName_decimal pid), nameNumber_decimal, if_pos fits]
          have stepped : scan.step ⟨table, state, .next grown closed⟩ =
              { scan with offset := pid }.inspect (decimal pid) grown := by
            simp [DirectoryScan.step, given]
          have answered : scan.listing.answer ⟨table, state, .next grown closed⟩ =
              some (if grown then .done else .exhausted) := by
            simp [Listing.answer, DirectoryScan.listing, given]
          rw [stepped, answered]
          cases grown with
          | true =>
              rw [DirectoryScan.inspect_eq true (fun _ => rfl), taken]
              constructor
              · intro later more
                cases more
                exact errno
              · simp [DirectoryStep.listing, DirectoryScan.listing, Listing.step, given]
          | false =>
              rw [DirectoryScan.inspect_exhausted (by rw [taken]; rfl)]
              exact ⟨fun _ more => (by cases more), rfl⟩
  | refused errno closed =>
      have real := procfs.errors errno closed rfl
      have stepped : scan.step ⟨table, state, .refused errno closed⟩ = .failed := by
        simp [DirectoryScan.step, DirectoryScan.close, real]
      rw [stepped]
      exact ⟨fun _ more => (by cases more), rfl⟩

theorem run_listing {scan : DirectoryScan} {readings : List DirectoryReading}
    (procfs : ∀ reading ∈ readings, reading.Procfs) (clean : scan.errno = 0) :
    (scan.run readings).listing = scan.listing.run readings := by
  induction readings generalizing scan with
  | nil => rfl
  | cons reading readings ih =>
      have rest : ∀ other ∈ readings, other.Procfs :=
        fun other member => procfs other (List.mem_cons_of_mem _ member)
      rcases step_listing (procfs reading List.mem_cons_self) clean with ⟨kept, agreed⟩
      rw [DirectoryScan.run, Listing.run]
      cases answered : scan.listing.answer reading with
      | none =>
          rw [answered] at agreed
          cases stepped : scan.step reading with
          | more later =>
              rw [stepped] at agreed
              have same : later.listing = scan.listing := by injection agreed
              rw [← same]
              exact ih rest (kept later stepped)
          | finished ids =>
              rw [stepped] at agreed
              cases agreed
          | failed =>
              rw [stepped] at agreed
              cases agreed
      | some answer =>
          rw [answered] at agreed
          dsimp only at agreed ⊢
          rw [← agreed]
          cases stepped : scan.step reading with
          | more later => exact ih rest (kept later stepped)
          | finished ids => rfl
          | failed => rfl

/-! ## What a listing holds -/

/-- The listing has every id up to its position that was listed all the time. -/
theorem listed_of_finished {pid : Nat} {readings : List DirectoryReading} {listing : Listing}
    {ids : List Nat} (present : ∀ reading ∈ readings, pid ∈ reading.table.listed reading.state)
    (covered : listing.cursor < pid ∨ pid ∈ listing.result)
    (finished : listing.run readings = .finished ids) : pid ∈ ids := by
  induction readings generalizing listing with
  | nil => cases finished
  | cons reading readings ih =>
      have rest : ∀ other ∈ readings, pid ∈ other.table.listed other.state :=
        fun other member => present other (List.mem_cons_of_mem _ member)
      have listed := present reading List.mem_cons_self
      rw [Listing.run] at finished
      cases answered : listing.answer reading with
      | none =>
          rw [answered] at finished
          exact ih rest covered finished
      | some answer =>
          rw [answered] at finished
          dsimp only at finished
          cases given : reading.table.next reading.state listing.cursor with
          | none =>
              have before : pid ∈ listing.result := by
                rcases covered with ahead | before
                · have empty := List.min?_eq_none_iff.mp given
                  have inside : pid ∈ (reading.table.listed reading.state).filter fun other =>
                      decide (listing.cursor < other) :=
                    List.mem_filter.mpr ⟨listed, decide_eq_true ahead⟩
                  rw [empty] at inside
                  cases inside
                · exact before
              cases answer <;> simp [Listing.step, given] at finished <;>
                exact finished ▸ before
          | some next =>
              have later : next < pid ∨ pid ∈ listing.result ++ [next] := by
                rcases covered with ahead | before
                · have least := (List.min?_eq_some_iff.mp given).2 pid
                    (List.mem_filter.mpr ⟨listed, decide_eq_true ahead⟩)
                  rcases Nat.lt_or_eq_of_le least with above | same
                  · exact .inl above
                  · exact .inr (by simp [same])
                · exact .inr (List.mem_append_left _ before)
              have ended : Listing.run ⟨next, listing.result ++ [next]⟩ readings =
                  .finished ids := by
                cases answer <;> simp [Listing.step, given] at finished <;> exact finished
              exact ih rest later ended

/-- The listing has nothing that was not listed. -/
theorem finished_listed {pid : Nat} {readings : List DirectoryReading} {listing : Listing}
    {ids : List Nat} (finished : listing.run readings = .finished ids) (member : pid ∈ ids) :
    pid ∈ listing.result ∨ ∃ reading ∈ readings, pid ∈ reading.table.listed reading.state := by
  induction readings generalizing listing with
  | nil => cases finished
  | cons reading readings ih =>
      have later : ∀ next : Listing, next.run readings = .finished ids →
          pid ∈ next.result ∨ ∃ other ∈ reading :: readings,
            pid ∈ other.table.listed other.state := by
        intro next ended
        rcases ih ended with before | ⟨other, present, listed⟩
        · exact .inl before
        · exact .inr ⟨other, List.mem_cons_of_mem _ present, listed⟩
      rw [Listing.run] at finished
      cases answered : listing.answer reading with
      | none =>
          rw [answered] at finished
          exact later listing finished
      | some answer =>
          rw [answered] at finished
          dsimp only at finished
          cases given : reading.table.next reading.state listing.cursor with
          | none =>
              left
              cases answer <;> simp [Listing.step, given] at finished <;>
                exact finished ▸ member
          | some next =>
              have listed : next ∈ reading.table.listed reading.state :=
                (List.mem_filter.mp (List.min?_mem given)).1
              have grown : pid ∈ listing.result ++ [next] →
                  pid ∈ listing.result ∨ ∃ other ∈ reading :: readings,
                    pid ∈ other.table.listed other.state := by
                intro inside
                rcases List.mem_append.mp inside with before | same
                · exact .inl before
                · rw [List.mem_singleton.mp same]
                  exact .inr ⟨reading, List.mem_cons_self, listed⟩
              have ended : Listing.run ⟨next, listing.result ++ [next]⟩ readings =
                  .finished ids := by
                cases answer <;> simp [Listing.step, given] at finished <;> exact finished
              rcases later _ ended with inside | found
              · exact grown inside
              · exact .inr found

/-! ## Any directory -/

/-- `readdir` has gone through these names. -/
def readNames (table : ProcessTable) (state : LeaderState) (names : List (List Char)) :
    List DirectoryReading :=
  names.map fun name => ⟨table, state, .other name true⟩

theorem run_names (table : ProcessTable) (state : LeaderState) (names : List (List Char))
    (rest : List DirectoryReading) (scan : DirectoryScan) :
    scan.run (readNames table state names ++ rest) =
      DirectoryScan.run { scan with
        errno := names.foldl nameErrno scan.errno
        result := scan.result ++ names.filterMap nameId } rest := by
  induction names generalizing scan with
  | nil => simp [readNames]
  | cons name names ih =>
      have stepped : scan.step ⟨table, state, .other name true⟩ = .more { scan with
          errno := nameErrno scan.errno name
          result := scan.result ++ (nameId name).toList } :=
        DirectoryScan.inspect_eq true fun _ => rfl
      rw [readNames, List.map_cons, List.cons_append, DirectoryScan.run, stepped]
      dsimp only
      rw [← readNames, ih, List.foldl_cons, List.filterMap_cons]
      cases nameId name <;> simp

/-- The last name that is a number is one for `strtol`. -/
def lastFits (names : List (List Char)) : Bool :=
  match (names.filter numericName).getLast? with
  | some name => decide ((nameNumber name : Int) ≤ longMax)
  | none => true

theorem lastFits_append (names : List (List Char)) (name : List Char) :
    lastFits (names ++ [name]) = if numericName name then
      decide ((nameNumber name : Int) ≤ longMax) else lastFits names := by
  rw [lastFits, List.filter_append]
  by_cases numeric : numericName name = true
  · rw [if_pos numeric, List.filter_cons_of_pos numeric, List.filter_nil, List.getLast?_concat]
  · rw [if_neg numeric, List.filter_cons_of_neg numeric, List.filter_nil, List.append_nil]
    rfl

theorem foldl_nameErrno (names : List (List Char)) :
    names.foldl nameErrno 0 = if lastFits names then 0 else outOfRange := by
  induction names using List.reverseRecOn with
  | nil => rfl
  | append_singleton names name ih =>
      rw [List.foldl_append, List.foldl_cons, List.foldl_nil, ih, nameErrno, lastFits_append]
      by_cases numeric : numericName name = true
      · rw [if_pos numeric, if_pos numeric]
        simp
      · rw [if_neg numeric, if_neg numeric]

/-- On process directories `process_ids` is the listing that the scans of the group make, over
every change of the processes between two of its calls: it has every id that was there all the
time, and none that was never there.  In any directory it takes the names that are ids, and
fails if the last name that is a number is beyond the range of `strtol`. -/
theorem processIds_refines :
    (∀ readings : List DirectoryReading, (∀ reading ∈ readings, reading.Procfs) →
      (processIds true readings).listing = Listing.start.run readings ∧
      ∀ ids, processIds true readings = .finished ids →
        (∀ pid, (∀ reading ∈ readings, pid ∈ reading.table.listed reading.state) → pid ∈ ids) ∧
        ∀ pid ∈ ids, ∃ reading ∈ readings, pid ∈ reading.table.listed reading.state) ∧
    ∀ (names : List (List Char)) (table : ProcessTable) (state : LeaderState) (closed : Bool),
      table.listed state = [] →
      processIds true (readNames table state names ++ [⟨table, state, .next true closed⟩]) =
        if closed && lastFits names then .finished (names.filterMap nameId) else .failed := by
  constructor
  · intro readings procfs
    have agreed : (processIds true readings).listing = Listing.start.run readings :=
      run_listing procfs rfl
    refine ⟨agreed, ?_⟩
    intro ids ended
    rw [ended] at agreed
    have finished : Listing.start.run readings = .finished ids := agreed.symm
    constructor
    · intro pid present
      cases readings with
      | nil => cases finished
      | cons reading readings =>
          have listed := present reading List.mem_cons_self
          have positive := ((procfs reading List.mem_cons_self).ids pid listed).1
          exact listed_of_finished present (.inl positive) finished
    · intro pid member
      rcases finished_listed finished member with before | found
      · cases before
      · exact found
  · intro names table state closed empty
    have ended : table.next state 0 = none := by
      rw [ProcessTable.next, empty]
      rfl
    rw [processIds, if_pos rfl, run_names, DirectoryScan.run, DirectoryScan.step]
    simp only [DirectoryScan.start, ended, foldl_nameErrno, DirectoryScan.close, List.nil_append]
    cases closed <;> cases lastFits names <;> rfl

/-- The leader 100, its member 101 and, unless it is too early, 102. -/
def forkingTable (forked : Bool) : ProcessTable :=
  ⟨100, ⟨101, 100, true, true, 0⟩ :: if forked then [⟨102, 100, true, true, 1⟩] else [], 2⟩

/-- The directory is read to its end, and the member forks on the way. -/
def forkingReadings : List DirectoryReading :=
  readNames (forkingTable false) .running [['s', 'e', 'l', 'f']] ++
    [⟨forkingTable false, .running, .next true true⟩,
      ⟨forkingTable false, .running, .next true true⟩,
      ⟨forkingTable true, .running, .next true true⟩,
      ⟨forkingTable true, .running, .next true true⟩]

theorem processIds_refines_forking :
    processIds true forkingReadings = .finished [100, 101, 102] ∧
      Listing.start.run forkingReadings = .finished [100, 101, 102] ∧ 101 ∈ [100, 101, 102] := by
  have procfs : ∀ reading ∈ forkingReadings, reading.Procfs := by
    intro reading member
    simp only [forkingReadings, readNames, List.map_cons, List.map_nil, List.cons_append,
      List.nil_append, List.mem_cons, List.not_mem_nil, or_false] at member
    rcases member with rfl | rfl | rfl | rfl | rfl <;>
      refine ⟨by decide, ?_, ?_⟩ <;> rintro _ _ ⟨⟩
    rfl
  have ended : processIds true forkingReadings = .finished [100, 101, 102] := by decide
  rcases processIds_refines.1 forkingReadings procfs with ⟨agreed, listed⟩
  refine ⟨ended, agreed ▸ congrArg DirectoryStep.listing ended, (listed _ ended).1 101 ?_⟩
  decide

/-- A number beyond every `long` behind the last process. -/
example : processIds true (readNames ⟨7, [], 0⟩ .gone
    ["self".toList, "12".toList, "99999999999999999999".toList] ++
      [⟨⟨7, [], 0⟩, .gone, .next true true⟩]) = .failed := by
  decide

end PkgexecLinux.Process
