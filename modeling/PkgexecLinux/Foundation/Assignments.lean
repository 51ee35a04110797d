import Mathlib.Data.List.Basic
import Mathlib.Data.List.TakeWhile

/-!
# Vectors of C strings

Texts that are passed as C strings end at their first NUL, and a vector of them at its null
pointer.  The entries of an environment are assignments, a name and a value around the
first equals sign; a value may be a list with a separator between its fields.
-/

namespace PkgexecLinux.Foundation

/-- The character that ends a C string. -/
def nul : Char := Char.ofNat 0

/-- What is read of a text that is passed as a C string. -/
def cString (text : List Char) : List Char := text.takeWhile fun character => character != nul

theorem cString_eq_self {text : List Char} : cString text = text ↔ nul ∉ text := by
  rw [cString, List.takeWhile_eq_self_iff]
  constructor
  · intro plain member
    exact absurd (plain nul member) (by simp)
  · intro absent character member
    rw [bne_iff_ne]
    rintro rfl
    exact absent member

theorem nul_notMem_cString (text : List Char) : nul ∉ cString text := by
  intro member
  have passed := List.mem_takeWhile_imp member
  simp at passed

/-- The strings of a vector, up to the null pointer. -/
def readVector : List (Option (List Char)) → List (List Char)
  | some text :: rest => cString text :: readVector rest
  | none :: _ | [] => []

theorem readVector_terminated (values : List (List Char)) :
    readVector (values.map some ++ [none]) = values.map cString := by
  induction values with
  | nil => rfl
  | cons value values ih => exact congrArg (List.cons _) ih

/-! ## Separated lists -/

section Separated

variable {separator : Char} {fields : List (List Char)} {text field : List Char}

theorem mem_splitOn (member : field ∈ text.splitOn separator) :
    separator ∉ field ∧ ∀ character ∈ field, character ∈ text := by
  induction text generalizing field with
  | nil =>
      rw [List.splitOn_nil, List.mem_singleton] at member
      subst member
      simp
  | cons first text ih =>
      rw [List.splitOn_cons_eq_if_modifyHead] at member
      split at member
      · rcases List.mem_cons.mp member with rfl | later
        · simp
        · rcases ih later with ⟨plain, inside⟩
          exact ⟨plain, fun character found => List.mem_cons_of_mem _ (inside character found)⟩
      next other =>
        cases shape : text.splitOn separator with
        | nil => exact absurd shape (List.splitOn_ne_nil separator text)
        | cons head tail =>
            rw [shape, List.modifyHead_cons] at member
            rcases List.mem_cons.mp member with rfl | later
            · rcases ih (shape ▸ List.mem_cons_self) with ⟨plain, inside⟩
              constructor
              · rw [List.mem_cons, not_or]
                exact ⟨fun same => other (by rw [same, beq_self_eq_true]), plain⟩
              · intro character found
                rcases List.mem_cons.mp found with rfl | found
                · exact List.mem_cons_self
                · exact List.mem_cons_of_mem _ (inside character found)
            · rcases ih (shape ▸ List.mem_cons_of_mem _ later) with ⟨plain, inside⟩
              exact ⟨plain, fun character found => List.mem_cons_of_mem _ (inside character found)⟩

theorem mem_intercalate {character : Char}
    (member : character ∈ [separator].intercalate fields) :
    character = separator ∨ ∃ field ∈ fields, character ∈ field := by
  induction fields with
  | nil => simp at member
  | cons first fields ih =>
      cases fields with
      | nil =>
          rw [List.intercalate_singleton] at member
          exact .inr ⟨first, List.mem_cons_self, member⟩
      | cons second fields =>
          rw [List.intercalate_cons_cons, List.mem_append, List.mem_append,
            List.mem_singleton] at member
          rcases member with (inFirst | same) | rest
          · exact .inr ⟨first, List.mem_cons_self, inFirst⟩
          · exact .inl same
          · rcases ih rest with same | ⟨field, present, inside⟩
            · exact .inl same
            · exact .inr ⟨field, List.mem_cons_of_mem _ present, inside⟩

/-- Fields that are passed as one C string are read back exactly when there are some and
neither a separator nor a NUL stands in them. -/
theorem splitOn_cString (separator : Char) (fields : List (List Char)) (visible : separator ≠ nul) :
    (cString ([separator].intercalate fields)).splitOn separator = fields ↔
      fields ≠ [] ∧ ∀ field ∈ fields, separator ∉ field ∧ nul ∉ field := by
  constructor
  · intro read
    constructor
    · intro empty
      rw [empty] at read
      exact List.splitOn_ne_nil _ _ read
    · intro field present
      rw [← read] at present
      rcases mem_splitOn present with ⟨plain, inside⟩
      exact ⟨plain, fun ended => nul_notMem_cString _ (inside nul ended)⟩
  · intro ⟨nonempty, plain⟩
    have unended : nul ∉ [separator].intercalate fields := by
      intro ended
      rcases mem_intercalate ended with same | ⟨field, present, inside⟩
      · exact visible same.symm
      · exact (plain field present).2 inside
    rw [cString_eq_self.mpr unended]
    exact List.splitOn_intercalate separator (fun field present => (plain field present).1) nonempty

end Separated

/-! ## Assignments -/

structure Assignment where
  name : List Char
  value : List Char
  deriving DecidableEq, Repr

namespace Assignment

variable {assignment : Assignment} {entry : List Char}

def text (assignment : Assignment) : List Char := assignment.name ++ '=' :: assignment.value

/-- Around the first equals sign. -/
def ofText (text : List Char) : Option Assignment :=
  match text.dropWhile fun character => character != '=' with
  | [] => none
  | _ :: value => some ⟨text.takeWhile fun character => character != '=', value⟩

theorem ofText_text (plain : '=' ∉ assignment.name) : ofText assignment.text = some assignment := by
  have all : ∀ character ∈ assignment.name, (character != '=') = true := by
    intro character member
    rw [bne_iff_ne]
    rintro rfl
    exact plain member
  rw [ofText, text, List.dropWhile_append_of_pos all, List.takeWhile_append_of_pos all]
  simp

theorem of_ofText (read : ofText entry = some assignment) :
    entry = assignment.text ∧ '=' ∉ assignment.name := by
  rw [ofText] at read
  split at read
  next => cases read
  next first value rest =>
    cases read
    constructor
    · have stopped : (first != '=') = false := by
        have head := List.head?_dropWhile_not (fun character => character != '=') entry
        rw [rest] at head
        simpa using head
      have first_eq : first = '=' := by simpa using stopped
      subst first_eq
      rw [Assignment.text, ← rest, List.takeWhile_append_dropWhile]
    · intro member
      have passed := List.mem_takeWhile_imp member
      simp at passed

/-- An assignment comes through unchanged. -/
def Plain (assignment : Assignment) : Prop :=
  '=' ∉ assignment.name ∧ nul ∉ assignment.name ∧ nul ∉ assignment.value

instance (assignment : Assignment) : Decidable assignment.Plain :=
  inferInstanceAs (Decidable (_ ∧ _ ∧ _))

theorem nul_notMem_text : nul ∉ assignment.text ↔
    nul ∉ assignment.name ∧ nul ∉ assignment.value := by
  have distinct : nul ≠ '=' := by decide
  rw [text, List.mem_append, List.mem_cons, not_or, not_or]
  exact ⟨fun parts => ⟨parts.1, parts.2.2⟩, fun parts => ⟨parts.1, distinct, parts.2⟩⟩

/-- The assignment with its value as it is read. -/
def cut (assignment : Assignment) : Assignment := ⟨assignment.name, cString assignment.value⟩

/-- After a visible name only the value can end early. -/
theorem ofText_cut (plain : '=' ∉ assignment.name) (visible : nul ∉ assignment.name) :
    ofText (cString assignment.text) = some assignment.cut := by
  have all : ∀ character ∈ assignment.name ++ ['='], (character != nul) = true := by
    intro character member
    rw [bne_iff_ne]
    rintro rfl
    rcases List.mem_append.mp member with found | found
    · exact visible found
    · exact absurd (List.mem_singleton.mp found) (by decide)
  have split : assignment.text = assignment.name ++ ['='] ++ assignment.value := by
    rw [text, List.append_assoc, List.singleton_append]
  have read : cString assignment.text = assignment.cut.text := by
    rw [split, cString, List.takeWhile_append_of_pos all, List.append_assoc,
      List.singleton_append]
    rfl
  rw [read]
  exact ofText_text plain

theorem ofText_cString_text :
    ofText (cString assignment.text) = some assignment ↔ assignment.Plain := by
  constructor
  · intro read
    rcases of_ofText read with ⟨whole, plain⟩
    exact ⟨plain, nul_notMem_text.mp (cString_eq_self.mp whole)⟩
  · rintro ⟨plain, unended⟩
    rw [cString_eq_self.mpr (nul_notMem_text.mpr unended), ofText_text plain]

end Assignment

/-! ## Looking up a name -/

/-- `getenv`: what follows the first entry that begins with the name and an equals sign. -/
def lookup (name : List Char) (entries : List (List Char)) : Option (List Char) :=
  entries.findSome? fun entry =>
    if (name ++ ['=']).isPrefixOf entry then some (entry.drop (name.length + 1)) else none

/-- The assignments among the entries. -/
def assignments (entries : List (List Char)) : List Assignment :=
  entries.filterMap Assignment.ofText

/-- For a name without an equals sign the entries are read as assignments. -/
theorem lookup_eq {name : List Char} (plain : '=' ∉ name) (entries : List (List Char)) :
    lookup name entries = ((assignments entries).find? fun assignment =>
      assignment.name == name).map Assignment.value := by
  induction entries with
  | nil => rfl
  | cons entry entries ih =>
      have rest : lookup name (entry :: entries) =
          (if (name ++ ['=']).isPrefixOf entry then some (entry.drop (name.length + 1))
            else none).or (lookup name entries) := by
        rw [lookup, List.findSome?_cons]
        split <;> rename_i found <;> rw [found] <;> rfl
      rw [rest, ih, assignments, assignments]
      by_cases begins : (name ++ ['=']).isPrefixOf entry = true
      · rcases List.isPrefixOf_iff_prefix.mp begins with ⟨value, rfl⟩
        have whole : name ++ ['='] ++ value = (Assignment.mk name value).text := by
          rw [Assignment.text, List.append_assoc]
          rfl
        have dropped : (name ++ ['='] ++ value).drop (name.length + 1) = value := by
          rw [List.drop_append_of_le_length (by simp)]
          simp
        rw [if_pos begins, dropped, List.filterMap_cons, whole,
          Assignment.ofText_text plain]
        simp
      · rw [if_neg begins, Option.none_or, List.filterMap_cons]
        cases read : Assignment.ofText entry with
        | none => rfl
        | some assignment =>
            have other : (assignment.name == name) = false := by
              rw [beq_eq_false_iff_ne]
              rintro rfl
              apply begins
              rcases Assignment.of_ofText read with ⟨rfl, _⟩
              rw [List.isPrefixOf_iff_prefix]
              exact ⟨assignment.value, by simp [Assignment.text]⟩
            rw [List.find?_cons, other]

/-- Among assignments to different names each is the one that its name finds, whatever
follows them. -/
theorem find?_name {entries : List Assignment} (distinct : (entries.map Assignment.name).Nodup)
    {assignment : Assignment} (present : assignment ∈ entries) (rest : List Assignment) :
    ((entries ++ rest).find? fun other => other.name == assignment.name) = some assignment := by
  induction entries with
  | nil => cases present
  | cons first entries ih =>
      rw [List.map_cons, List.nodup_cons] at distinct
      rw [List.cons_append, List.find?_cons]
      rcases List.mem_cons.mp present with rfl | later
      · rw [beq_self_eq_true]
      · have other : (first.name == assignment.name) = false := by
          rw [beq_eq_false_iff_ne]
          intro same
          exact distinct.1 (same ▸ List.mem_map_of_mem later)
        rw [other]
        exact ih distinct.2 later

end PkgexecLinux.Foundation
