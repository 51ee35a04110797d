import Mathlib.Data.List.TakeWhile

/-!
# Reading a process's group

`process_group_of` takes the group from the first line of `/proc/<pid>/stat`,
after the last closing parenthesis of that line.  The kernel writes the name of
the process between parentheses as it stands, and a process may put any
character into its name.  A name without a line feed is read over; one with a
line feed ends the line, and what it says before that is taken for the fields.
-/

namespace PkgexecLinux.Process

/-- The fields of a `stat` file besides the process id and the group. -/
structure StatFields where
  comm : List Char
  state : Char
  parent : Nat
  rest : List Char
  plainState : state ≠ ')' ∧ state ≠ '\n'
  plainRest : ')' ∉ rest ∧ '\n' ∉ rest

def decimal (number : Nat) : List Char := Nat.toDigits 10 number

/-- `%d`. -/
def signed : Int → List Char
  | .ofNat number => decimal number
  | .negSucc number => '-' :: decimal (number + 1)

/-- The fields that follow the name. -/
def StatFields.tail (fields : StatFields) (group : Nat) : List Char :=
  ' ' :: fields.state :: ' ' :: (decimal fields.parent ++
    ' ' :: (decimal group ++ ' ' :: fields.rest))

/-- The text of `/proc/<pid>/stat`. -/
def statText (pid : Nat) (fields : StatFields) (group : Nat) : List Char :=
  decimal pid ++ ' ' :: '(' :: (fields.comm ++ ')' :: fields.tail group) ++ ['\n']

/-! ## The parser -/

/-- `std::getline`. -/
def firstLine (text : List Char) : Option (List Char) :=
  if text = [] then none else some (text.takeWhile fun character => character != '\n')

/-- What follows the last closing parenthesis. -/
def afterLast : List Char → Option (List Char)
  | [] => none
  | character :: text =>
      match afterLast text with
      | some tail => some tail
      | none => if character = ')' then some text else none

def isSpace (character : Char) : Bool :=
  character == ' ' || character == '\t' || character == '\n' || character == '\r' ||
    character == Char.ofNat 11 || character == Char.ofNat 12

/-- Digits as `%ld` takes them. -/
def scanDigits (sign : Int) (text : List Char) : Option (Int × List Char) :=
  if text.takeWhile Char.isDigit = [] then none
  else some (sign * Nat.ofDigitChars 10 (text.takeWhile Char.isDigit) 0,
    text.dropWhile Char.isDigit)

/-- `%ld` of `sscanf`. -/
def scanLong (text : List Char) : Option (Int × List Char) :=
  match text.dropWhile isSpace with
  | '-' :: digits => scanDigits (-1) digits
  | '+' :: digits => scanDigits 1 digits
  | digits => scanDigits 1 digits

/-- The group in the text of a `stat` file, as `process_group_of` parses it. -/
def parseGroup (text : List Char) : Option Nat := do
  let line ← firstLine text
  let tail ← afterLast line
  match tail with
  | _ :: _ :: fields =>
      let (_, fields) ← scanLong fields
      let (group, _) ← scanLong fields
      if 0 < group ∧ group ≤ 2147483647 then some group.toNat else none
  | _ => none

/-! ## Numbers and lines -/

theorem isDigit_decimal {number : Nat} {character : Char} (member : character ∈ decimal number) :
    character.isDigit = true :=
  Nat.isDigit_of_mem_toDigits (by decide) (by decide) member

theorem afterLast_append {text tail : List Char} (plain : ')' ∉ tail) :
    afterLast (text ++ ')' :: tail) = some tail := by
  have absent : ∀ {plainText : List Char}, ')' ∉ plainText → afterLast plainText = none := by
    intro plainText missing
    induction plainText with
    | nil => rfl
    | cons character plainText ih =>
        rw [List.mem_cons, not_or] at missing
        simp [afterLast, ih missing.2, Ne.symm missing.1]
  induction text with
  | nil => simp [afterLast, absent plain]
  | cons character text ih => simp [afterLast, ih]

theorem firstLine_append {line : List Char} (plain : '\n' ∉ line) :
    firstLine (line ++ ['\n']) = some line := by
  have all : ∀ character ∈ line, (character != '\n') = true := by
    intro character member
    simp only [bne_iff_ne, ne_eq]
    rintro rfl
    exact plain member
  have nonempty : line ++ ['\n'] ≠ [] := by simp
  rw [firstLine, if_neg nonempty, List.takeWhile_append_of_pos all]
  simp

/-- A number is read up to a character that is no digit, or to the end. -/
theorem scanDigits_decimal (sign : Int) (number : Nat) {rest : List Char}
    (stops : ∀ character ∈ rest.head?, character.isDigit = false) :
    scanDigits sign (decimal number ++ rest) = some (sign * number, rest) := by
  have ahead : rest.takeWhile Char.isDigit = [] ∧ rest.dropWhile Char.isDigit = rest := by
    cases rest with
    | nil => exact ⟨rfl, rfl⟩
    | cons character rest =>
        have stop := stops character (by simp)
        simp [stop]
  have digits : (decimal number ++ rest).takeWhile Char.isDigit = decimal number := by
    rw [List.takeWhile_append_of_pos fun _ member => isDigit_decimal member, ahead.1,
      List.append_nil]
  have remainder : (decimal number ++ rest).dropWhile Char.isDigit = rest := by
    rw [List.dropWhile_append_of_pos fun _ member => isDigit_decimal member, ahead.2]
  have nonempty : decimal number ≠ [] := Nat.toDigits_ne_nil
  rw [scanDigits, digits, remainder, if_neg nonempty]
  simp [decimal]

theorem dropWhile_isSpace {character : Char} (plain : isSpace character = false)
    (text : List Char) :
    (' ' :: character :: text).dropWhile isSpace = character :: text := by
  have space : isSpace ' ' = true := by decide
  simp [plain, space]

theorem scanLong_decimal (number : Nat) {rest : List Char}
    (stops : ∀ character ∈ rest.head?, character.isDigit = false) :
    scanLong (' ' :: (decimal number ++ rest)) = some ((number : Int), rest) := by
  have scanned := scanDigits_decimal 1 number stops
  rw [Int.one_mul] at scanned
  rw [← scanned]
  cases shape : decimal number with
  | nil => exact absurd shape Nat.toDigits_ne_nil
  | cons digit digits =>
      have isDigit : digit.isDigit = true := isDigit_decimal (by rw [shape]; simp)
      have notSpace : isSpace digit = false := by
        by_contra space
        simp only [isSpace, Bool.not_eq_false, Bool.or_eq_true, beq_iff_eq] at space
        rcases space with ((((rfl | rfl) | rfl) | rfl) | rfl) | rfl <;> revert isDigit <;> decide
      rw [scanLong]
      rw [List.cons_append, dropWhile_isSpace notSpace]
      split
      next minus =>
        cases minus
        exact absurd isDigit (by decide)
      next plus =>
        cases plus
        exact absurd isDigit (by decide)
      next => rfl

theorem scanLong_signed (value : Int) {rest : List Char}
    (stops : ∀ character ∈ rest.head?, character.isDigit = false) :
    scanLong (' ' :: (signed value ++ rest)) = some (value, rest) := by
  cases value with
  | ofNat number => exact scanLong_decimal number stops
  | negSucc number =>
      have minus : isSpace '-' = false := by decide
      have scanned := scanDigits_decimal (-1) (number + 1) stops
      rw [signed, List.cons_append, scanLong, dropWhile_isSpace minus]
      change scanDigits (-1) (decimal (number + 1) ++ rest) = _
      rw [scanned, Int.negSucc_eq]
      simp

theorem signed_plain (value : Int) {character : Char} (digit : character.isDigit = false)
    (minus : character ≠ '-') : character ∉ signed value := by
  have number : ∀ value : Nat, character ∉ decimal value := by
    intro value member
    rw [isDigit_decimal member] at digit
    cases digit
  cases value with
  | ofNat value => exact number value
  | negSucc value =>
      rw [signed, List.mem_cons, not_or]
      exact ⟨minus, number _⟩

/-- The line is read after its last parenthesis, whatever stands before it. -/
theorem parseGroup_line {front rest : List Char} {state : Char} (parent group : Int)
    (plainFront : '\n' ∉ front) (plainState : state ≠ ')' ∧ state ≠ '\n')
    (plainRest : ')' ∉ rest ∧ '\n' ∉ rest)
    (stops : ∀ character ∈ rest.head?, character.isDigit = false) :
    parseGroup (front ++ ')' :: ' ' :: state :: ' ' :: (signed parent ++
        ' ' :: (signed group ++ rest)) ++ ['\n']) =
      if 0 < group ∧ group ≤ 2147483647 then some group.toNat else none := by
  have close : ∀ value, ')' ∉ signed value :=
    fun value => signed_plain value (by decide) (by decide)
  have feed : ∀ value, '\n' ∉ signed value :=
    fun value => signed_plain value (by decide) (by decide)
  have single : '\n' ∉ front ++ ')' :: ' ' :: state :: ' ' :: (signed parent ++
      ' ' :: (signed group ++ rest)) := by
    simp [plainFront, feed, plainRest.2, Ne.symm plainState.2]
  have last : ')' ∉ ' ' :: state :: ' ' :: (signed parent ++ ' ' :: (signed group ++ rest)) := by
    simp [close, plainRest.1, Ne.symm plainState.1]
  have first : scanLong (' ' :: (signed parent ++ ' ' :: (signed group ++ rest))) =
      some (parent, ' ' :: (signed group ++ rest)) :=
    scanLong_signed parent (by simp)
  rw [parseGroup, firstLine_append single]
  simp only [Option.bind_eq_bind, Option.bind_some, afterLast_append last, first,
    scanLong_signed group stops]

/-! ## Lines of every process

The fields are printed with `%d`: a group may be zero or negative.  `%ld` keeps a
number that does not fit at the nearest end of its type.
-/

/-- What `%ld` stores. -/
def clampLong (value : Int) : Int :=
  max (-9223372036854775808) (min value 9223372036854775807)

/-- `process_group_of` on the text of a `stat` file. -/
def processGroupOfFile (text : List Char) : Option Nat := do
  let line ← firstLine text
  let tail ← afterLast line
  match tail with
  | _ :: _ :: fields =>
      let (_, fields) ← scanLong fields
      let (value, _) ← scanLong fields
      let group := clampLong value
      if 0 < group ∧ group ≤ 2147483647 then some group.toNat else none
  | _ => none

/-- The range of `long` does not matter for a group. -/
theorem clampLong_group (value : Int) :
    (if 0 < clampLong value ∧ clampLong value ≤ 2147483647 then some (clampLong value).toNat
      else none) =
      if 0 < value ∧ value ≤ 2147483647 then some value.toNat else none := by
  by_cases group : 0 < value ∧ value ≤ 2147483647
  · have same : clampLong value = value := by
      rw [clampLong]
      omega
    rw [same]
  · have outside : ¬(0 < clampLong value ∧ clampLong value ≤ 2147483647) := by
      rw [clampLong]
      omega
    rw [if_neg group, if_neg outside]

theorem processGroupOfFile_eq_parseGroup (text : List Char) :
    processGroupOfFile text = parseGroup text := by
  simp only [processGroupOfFile, parseGroup, clampLong_group]

/-- A line as the kernel prints it.  The name is any text without a line feed. -/
structure StatLine where
  pid : Int
  name : List Char
  state : Char
  parent : Int
  group : Int
  fields : List Int
  plainName : '\n' ∉ name
  plainState : state ≠ ')' ∧ state ≠ '\n'

namespace StatLine

variable (line : StatLine)

/-- The numeric fields after the group. -/
def numbers : List Char := line.fields.flatMap fun field => ' ' :: signed field

/-- What follows the name's closing parenthesis. -/
def tail : List Char :=
  ' ' :: line.state :: ' ' :: (signed line.parent ++
    ' ' :: (signed line.group ++ line.numbers))

/-- `pid (name) state parent group` and the other fields. -/
def text : List Char :=
  signed line.pid ++ ' ' :: '(' :: (line.name ++ ')' :: line.tail) ++ ['\n']

end StatLine

namespace StatLine

variable (line : StatLine)

theorem numbers_plain {character : Char} (digit : character.isDigit = false)
    (minus : character ≠ '-') (blank : character ≠ ' ') : character ∉ line.numbers := by
  rw [numbers, List.mem_flatMap]
  rintro ⟨field, _, member⟩
  rcases List.mem_cons.mp member with same | member
  · exact blank same
  · exact signed_plain field digit minus member

/-- A number is followed by a space or by the end of the line. -/
theorem numbers_stop : ∀ character ∈ line.numbers.head?, character.isDigit = false := by
  rw [numbers]
  cases line.fields with
  | nil => simp
  | cons field fields => simp

end StatLine

/-- No name can make the parser take something else for the group. -/
theorem processGroupOfFile_statLine (line : StatLine) :
    processGroupOfFile line.text =
      if 0 < line.group ∧ line.group ≤ 2147483647 then some line.group.toNat else none := by
  have front : '\n' ∉ signed line.pid ++ ' ' :: '(' :: line.name := by
    have number : '\n' ∉ signed line.pid := signed_plain _ (by decide) (by decide)
    simp [number, line.plainName]
  have split : line.text =
      (signed line.pid ++ ' ' :: '(' :: line.name) ++ ')' :: ' ' :: line.state :: ' ' ::
        (signed line.parent ++ ' ' :: (signed line.group ++ line.numbers)) ++ ['\n'] := by
    simp [StatLine.text, StatLine.tail]
  rw [processGroupOfFile_eq_parseGroup, split]
  exact parseGroup_line line.parent line.group front line.plainState
    ⟨line.numbers_plain (by decide) (by decide) (by decide),
      line.numbers_plain (by decide) (by decide) (by decide)⟩ line.numbers_stop

example : processGroupOfFile (StatLine.text ⟨7, [')', ' ', 'S', ' ', '1', ' ', '9', ' ', '('],
    'R', 1, 42, [42, 0, -1], by decide, by decide⟩) = some 42 := by
  decide

end PkgexecLinux.Process
