import Mathlib.Data.List.Induction

/-!
# Absolute paths

Absolute paths as `std::filesystem::path` iterates them: the names between the
separators, and an empty last component when the text ends in a separator.
Repeated separators are one.  The root directory, which every absolute path
begins with, is left out.
-/

namespace PkgexecLinux.Filesystem

abbrev Name := List Char

/-- An absolute path. -/
structure Path where
  names : List Name
  /-- The text ends in a separator after the last name. -/
  trailing : Bool
  deriving DecidableEq, Repr

namespace Path

/-- The text between separators; a text that ends in one has an empty last
field. -/
def fields (field : Name) : List Char → List Name
  | [] => [field]
  | character :: text =>
      if character = '/' then field :: fields [] text
      else fields (field ++ [character]) text

/-- The path written as an absolute text. -/
def parse (text : List Char) : Path :=
  let names := (fields [] text).filter fun field => !field.isEmpty
  ⟨names, !names.isEmpty && (fields [] text).getLast? == some []⟩

/-- `/`. -/
def root : Path := ⟨[], false⟩

/-- A path without a trailing separator. -/
def ofNames (names : List Name) : Path := ⟨names, false⟩

/-- The components after the root directory. -/
def components (path : Path) : List Name :=
  path.names ++ if path.trailing then [[]] else []

def dot : Name := ['.']

def dotDot : Name := ['.', '.']

/-- One name of a path that is being normalized; `..` has no effect in the root
directory. -/
def push (names : List Name) (name : Name) : List Name :=
  if name = dot then names
  else if name = dotDot then names.dropLast
  else names ++ [name]

/-- The last name is `.` or `..`. -/
def endsInDots (names : List Name) : Bool :=
  names.getLast? == some dot || names.getLast? == some dotDot

/-- `lexically_normal`: the normal form keeps a trailing separator, and has one
also where the text ended in `.` or `..`. -/
def lexicallyNormal (path : Path) : Path :=
  let names := path.names.foldl push []
  ⟨names, !names.isEmpty && (path.trailing || endsInDots path.names)⟩

/-- `parent_path`. -/
def parentPath (path : Path) : Path :=
  if path.trailing then ⟨path.names, false⟩ else ⟨path.names.dropLast, false⟩

/-- `filename`. -/
def filename (path : Path) : Name :=
  path.components.getLast?.getD []

/-- The loop of `path_contains`. -/
def leads : List Name → List Name → Bool
  | [], rest => !rest.isEmpty
  | _ :: _, [] => false
  | first :: parent, second :: child => if first ≠ second then false else leads parent child

end Path

/-- `path_contains`. -/
def pathContains (parent child : Path) : Bool :=
  let first := parent.lexicallyNormal.components
  let second := child.lexicallyNormal.components
  if first = second then true else Path.leads first second

/-! ## Normal forms -/

namespace Path

/-- A name that is neither `.` nor `..`. -/
def Plain (name : Name) : Prop := name ≠ dot ∧ name ≠ dotDot

instance (name : Name) : Decidable (Plain name) :=
  inferInstanceAs (Decidable (name ≠ dot ∧ name ≠ dotDot))

theorem plain_push {names : List Name} (plain : ∀ name ∈ names, Plain name) (name : Name) :
    ∀ other ∈ push names name, Plain other := by
  intro other member
  unfold push at member
  split_ifs at member with isDot isDotDot
  · exact plain other member
  · exact plain other (List.dropLast_subset _ member)
  · rcases List.mem_append.mp member with old | new
    · exact plain other old
    · rw [List.mem_singleton.mp new]
      exact ⟨isDot, isDotDot⟩

theorem plain_foldl (names : List Name) {stack : List Name}
    (plain : ∀ name ∈ stack, Plain name) :
    ∀ name ∈ names.foldl push stack, Plain name := by
  induction names generalizing stack with
  | nil => exact plain
  | cons name names ih =>
      rw [List.foldl_cons]
      exact ih (plain_push plain name)

/-- Normalization leaves plain names alone. -/
theorem foldl_plain {names : List Name} (plain : ∀ name ∈ names, Plain name)
    (stack : List Name) : names.foldl push stack = stack ++ names := by
  induction names generalizing stack with
  | nil => simp
  | cons name names ih =>
      have head := plain name List.mem_cons_self
      have pushed : push stack name = stack ++ [name] := by
        rw [push, if_neg head.1, if_neg head.2]
      have tail : ∀ other ∈ names, Plain other := by
        intro other member
        exact plain other (List.mem_cons_of_mem _ member)
      rw [List.foldl_cons, pushed, ih tail, List.append_assoc, List.singleton_append]

theorem plain_lexicallyNormal (path : Path) :
    ∀ name ∈ path.lexicallyNormal.names, Plain name :=
  plain_foldl path.names (by simp)

theorem endsInDots_plain {names : List Name} (plain : ∀ name ∈ names, Plain name) :
    endsInDots names = false := by
  unfold endsInDots
  cases last : names.getLast? with
  | none => rfl
  | some name =>
      have member := List.mem_of_getLast? last
      have := plain name member
      simp [this.1, this.2]

/-- A path of plain names is normal, unless it is a root with a separator. -/
theorem lexicallyNormal_plain {path : Path} (plain : ∀ name ∈ path.names, Plain name)
    (rooted : path.names = [] → path.trailing = false) : path.lexicallyNormal = path := by
  rcases path with ⟨names, trailing⟩
  have kept : names.foldl push [] = names := by
    rw [foldl_plain plain, List.nil_append]
  simp only [lexicallyNormal, kept, endsInDots_plain plain, Bool.or_false]
  cases names with
  | nil =>
      have flat : trailing = false := rooted rfl
      rw [flat]
      rfl
  | cons name names => simp

@[simp] theorem lexicallyNormal_idem (path : Path) :
    path.lexicallyNormal.lexicallyNormal = path.lexicallyNormal := by
  apply lexicallyNormal_plain (plain_lexicallyNormal path)
  intro empty
  have empty : path.names.foldl push [] = [] := empty
  simp [lexicallyNormal, empty]

/-! ## Containment -/

theorem leads_iff (parent child : List Name) :
    leads parent child = true ↔ parent <+: child ∧ parent ≠ child := by
  induction parent generalizing child with
  | nil =>
      cases child with
      | nil => simp [leads]
      | cons name child => simp [leads]
  | cons first parent ih =>
      cases child with
      | nil => simp [leads]
      | cons second child =>
          simp only [leads]
          by_cases same : first = second
          · subst same
            simp [ih, List.cons_prefix_cons]
          · simp [same, List.cons_prefix_cons]

end Path

/-- Containment is the prefix relation of the normal forms' components. -/
theorem pathContains_iff (parent child : Path) :
    pathContains parent child = true ↔
      parent.lexicallyNormal.components <+: child.lexicallyNormal.components := by
  unfold pathContains
  dsimp only
  split_ifs with same
  · simp [same]
  · rw [Path.leads_iff]
    exact and_iff_left same

/-! ## Texts -/

namespace Path

/-- `operator/=` with a relative path; an empty one adds a separator. -/
def append (text : List Char) (component : Name) : List Char :=
  (if text.getLast? = some '/' then text else text ++ ['/']) ++ component

/-- The text that is built from components. -/
def join (components : List Name) : List Char := components.foldl append ['/']

/-- The text of a path. -/
def text (path : Path) : List Char := join path.components

/-- A name as it stands between separators. -/
def Named (name : Name) : Prop := name ≠ [] ∧ '/' ∉ name

theorem fields_append (field : Name) (front back : List Char) :
    fields field (front ++ '/' :: back) = fields field front ++ fields [] back := by
  induction front generalizing field with
  | nil => simp [fields]
  | cons character front ih =>
      simp only [List.cons_append, fields]
      split
      · rw [ih, List.cons_append]
      · exact ih _

theorem fields_name {name : Name} (closed : '/' ∉ name) (field : Name) :
    fields field name = [field ++ name] := by
  induction name generalizing field with
  | nil => simp [fields]
  | cons character name ih =>
      simp only [List.mem_cons, not_or] at closed
      rw [fields, if_neg (Ne.symm closed.1), ih closed.2, List.append_assoc,
        List.singleton_append]

theorem named_of_mem_fields {text : List Char} {field name : Name} (closed : '/' ∉ field)
    (member : name ∈ fields field text) : '/' ∉ name := by
  induction text generalizing field with
  | nil =>
      rw [fields, List.mem_singleton] at member
      rw [member]
      exact closed
  | cons character text ih =>
      rw [fields] at member
      split at member
      · rcases List.mem_cons.mp member with rfl | later
        · exact closed
        · exact ih (by simp) later
      next other =>
        refine ih ?_ member
        simp only [List.mem_append, List.mem_singleton, not_or]
        exact ⟨closed, Ne.symm other⟩

/-- Names of a parsed text stood between separators. -/
theorem named_parse (text : List Char) : ∀ name ∈ (parse text).names, Named name := by
  intro name member
  simp only [parse, List.mem_filter, Bool.not_eq_true', List.isEmpty_eq_false_iff] at member
  exact ⟨member.2, named_of_mem_fields (by simp) member.1⟩

theorem join_concat (components : List Name) (component : Name) :
    join (components ++ [component]) = append (join components) component := by
  simp [join]

/-- The text of names does not end in a separator. -/
theorem join_open {components : List Name} {name : Name} (named : Named name) :
    (join (components ++ [name])).getLast? ≠ some '/' := by
  intro last
  rw [join_concat, append, List.getLast?_append] at last
  cases final : name.getLast? with
  | none => exact named.1 (List.getLast?_eq_none_iff.mp final)
  | some character =>
      rw [final] at last
      cases last
      exact named.2 (List.mem_of_getLast? final)

/-- The fields of the text of names. -/
theorem fields_join {names : List Name} (named : ∀ name ∈ names, Named name)
    (inside : names ≠ []) : fields [] (join names) = [] :: names := by
  induction names using List.reverseRecOn with
  | nil => exact absurd rfl inside
  | append_singleton names name ih =>
      have closed := (named name (by simp)).2
      have before : ∀ other ∈ names, Named other := by
        intro other member
        exact named other (List.mem_append_left _ member)
      rw [join_concat, append]
      rcases List.eq_nil_or_concat names with rfl | ⟨front, last, rfl⟩
      · simp [join, fields, fields_name closed]
      · rw [List.concat_eq_append] at before ih ⊢
        rw [if_neg (join_open (before last (by simp))), List.append_assoc,
          List.singleton_append, fields_append, fields_name closed,
          ih before (by simp)]
        simp

/-- Parsing gets the names back. -/
theorem parse_join {names : List Name} (named : ∀ name ∈ names, Named name) :
    parse (join names) = ⟨names, false⟩ := by
  have kept : names.filter (fun field => !field.isEmpty) = names := by
    rw [List.filter_eq_self]
    intro name member
    simpa using (named name member).1
  rcases List.eq_nil_or_concat names with rfl | ⟨front, last, rfl⟩
  · rfl
  · rw [List.concat_eq_append] at named kept ⊢
    have nonempty := (named last (by simp)).1
    simp only [parse, fields_join named (by simp)]
    rw [List.filter_cons_of_neg (by simp), kept]
    simp [List.getLast?_cons, nonempty]

/-- A trailing separator is kept. -/
theorem parse_join_trailing {names : List Name} (named : ∀ name ∈ names, Named name)
    (inside : names ≠ []) : parse (join (names ++ [[]])) = ⟨names, true⟩ := by
  have kept : names.filter (fun field => !field.isEmpty) = names := by
    rw [List.filter_eq_self]
    intro name member
    simpa using (named name member).1
  rcases List.eq_nil_or_concat names with rfl | ⟨front, last, rfl⟩
  · exact absurd rfl inside
  · rw [List.concat_eq_append] at named kept ⊢
    have split : join (front ++ [last] ++ [[]]) = join (front ++ [last]) ++ '/' :: [] := by
      rw [join_concat, append, if_neg (join_open (named last (by simp))), List.append_nil]
    simp only [parse, split, fields_append, fields_join named (by simp), fields,
      List.filter_append]
    rw [List.filter_cons_of_neg (by simp), kept]
    simp [List.getLast?_cons]

/-! ## Lengths -/

/-- The characters that components take, each with a separator before it. -/
def extent : List Name → Nat
  | [] => 0
  | name :: components => name.length + 1 + extent components

@[simp] theorem extent_nil : extent [] = 0 := rfl

@[simp] theorem extent_cons (name : Name) (components : List Name) :
    extent (name :: components) = name.length + 1 + extent components := rfl

@[simp] theorem extent_append (front back : List Name) :
    extent (front ++ back) = extent front + extent back := by
  induction front with
  | nil => rw [List.nil_append, extent_nil, Nat.zero_add]
  | cons name front ih =>
      rw [List.cons_append, extent_cons, extent_cons, ih]
      omega

theorem extent_le_of_sublist {part whole : List Name} (inside : part.Sublist whole) :
    extent part ≤ extent whole := by
  induction inside with
  | slnil => exact Nat.le_refl _
  | cons name _ ih =>
      rw [extent_cons]
      omega
  | cons_cons name _ ih =>
      rw [extent_cons, extent_cons]
      omega

theorem extent_fields (field : Name) (text : List Char) :
    extent (fields field text) = field.length + text.length + 1 := by
  induction text generalizing field with
  | nil => simp [fields]
  | cons character text ih =>
      rw [fields]
      split
      · rw [extent_cons, ih, List.length_nil, List.length_cons]
        omega
      · rw [ih, List.length_append, List.length_singleton, List.length_cons]
        omega

theorem length_append_le (text : List Char) (component : Name) :
    (append text component).length ≤ text.length + 1 + component.length := by
  rw [append]
  split
  · rw [List.length_append]
    omega
  · simp only [List.length_append, List.length_singleton]
    omega

theorem length_join_le {components : List Name} (inside : components ≠ []) :
    (join components).length ≤ extent components := by
  induction components using List.reverseRecOn with
  | nil => exact absurd rfl inside
  | append_singleton components component ih =>
      rw [join_concat, extent_append, extent_cons, extent_nil]
      cases components with
      | nil => simp [join, append]
      | cons first components =>
          have shorter := ih (by simp)
          have longer := length_append_le (join (first :: components)) component
          omega

theorem extent_push (stack : List Name) (name : Name) :
    extent (push stack name) ≤ extent stack + (name.length + 1) := by
  rw [push]
  split_ifs
  · omega
  · have shorter := extent_le_of_sublist (List.dropLast_sublist stack)
    omega
  · exact Nat.le_of_eq (by rw [extent_append, extent_cons, extent_nil])

theorem extent_foldl_push (names stack : List Name) :
    extent (names.foldl push stack) ≤ extent stack + extent names := by
  induction names generalizing stack with
  | nil => exact Nat.le_add_right _ _
  | cons name names ih =>
      rw [List.foldl_cons, extent_cons]
      have pushed := extent_push stack name
      have onward := ih (push stack name)
      omega

/-- Dots in the last place make room for the separator that the normal form keeps of
them. -/
theorem extent_foldl_dots {names : List Name} (dots : endsInDots names = true) :
    extent (names.foldl push []) + 1 ≤ extent names := by
  rcases List.eq_nil_or_concat names with rfl | ⟨front, last, rfl⟩
  · cases dots
  · rw [List.concat_eq_append] at dots ⊢
    have shorter := extent_foldl_push front []
    rw [List.foldl_append, List.foldl_cons, List.foldl_nil, extent_append, extent_cons]
    simp only [endsInDots, List.getLast?_append, List.getLast?_singleton, Option.some_or,
      Bool.or_eq_true, beq_iff_eq, Option.some.injEq] at dots
    rcases dots with rfl | rfl
    · rw [push, if_pos rfl]
      simp only [extent_nil] at shorter ⊢
      omega
    · have dropped := extent_le_of_sublist (List.dropLast_sublist (front.foldl push []))
      rw [push, if_neg (by decide), if_pos rfl]
      simp only [extent_nil] at shorter ⊢
      omega

theorem extent_components (path : Path) :
    extent path.components = extent path.names + path.trailing.toNat := by
  rw [components, extent_append]
  cases path.trailing <;> rfl

theorem extent_lexicallyNormal (path : Path) :
    extent path.lexicallyNormal.components ≤ extent path.components := by
  have shorter := extent_foldl_push path.names []
  rw [extent_components, extent_components, lexicallyNormal]
  dsimp only
  cases dots : endsInDots path.names with
  | false =>
      have fewer : (!(path.names.foldl push []).isEmpty && (path.trailing || false)).toNat ≤
          path.trailing.toNat := by
        cases path.trailing <;> simp [Bool.toNat_le]
      simp only [extent_nil] at shorter
      omega
  | true =>
      have room := extent_foldl_dots dots
      have one := Bool.toNat_le (!(path.names.foldl push []).isEmpty && (path.trailing || true))
      omega

/-- A separator more before an absolute text changes nothing. -/
theorem parse_separator (text : List Char) : parse ('/' :: '/' :: text) = parse ('/' :: text) := by
  simp [parse, fields, List.getLast?_cons]

theorem parse_separators (count : Nat) (text : List Char) :
    parse (List.replicate count '/' ++ '/' :: text) = parse ('/' :: text) := by
  induction count with
  | zero => rfl
  | succ count ih =>
      cases count with
      | zero => exact parse_separator text
      | succ count =>
          rw [← ih]
          exact parse_separator _

/-- The components of an absolute text are not longer than the text. -/
theorem extent_components_parse (text : List Char) :
    extent (parse ('/' :: text)).components ≤ text.length + 1 := by
  have whole := extent_fields [] text
  have kept : ∀ fields : List Name,
      extent (fields.filter fun field => !field.isEmpty) ≤ extent fields := fun fields =>
    extent_le_of_sublist List.filter_sublist
  have split : fields [] ('/' :: text) = [] :: fields [] text := rfl
  simp only [components, parse, split]
  rw [List.filter_cons_of_neg (by simp), extent_append]
  split
  next trailing =>
    -- The empty last field is the trailing separator.
    simp only [Bool.and_eq_true, beq_iff_eq] at trailing
    obtain ⟨front, shape⟩ : ∃ front, fields [] text = front ++ [[]] := by
      rcases List.eq_nil_or_concat (fields [] text) with empty | ⟨front, last, shape⟩
      · simp [empty] at trailing
      · rw [List.concat_eq_append] at shape
        rw [shape] at trailing
        obtain rfl : last = [] := by simpa [List.getLast?_cons] using trailing.2
        exact ⟨front, shape⟩
    have front := kept front
    rw [shape] at whole ⊢
    simp only [extent_append, extent_cons, extent_nil, List.length_nil] at whole
    simp only [List.filter_append, extent_append, extent_cons, extent_nil, List.length_nil]
    simp
    omega
  next =>
    have := kept (fields [] text)
    simp only [extent_nil, List.length_nil] at whole ⊢
    omega

/-- The normal form of an absolute text is no longer than the text. -/
theorem length_lexicallyNormal_text_le (text : List Char) :
    (parse ('/' :: text)).lexicallyNormal.text.length ≤ text.length + 1 := by
  rw [Path.text]
  by_cases empty : (parse ('/' :: text)).lexicallyNormal.components = []
  · rw [empty]
    exact Nat.le_add_left _ _
  · calc (join (parse ('/' :: text)).lexicallyNormal.components).length
        ≤ extent (parse ('/' :: text)).lexicallyNormal.components := length_join_le empty
      _ ≤ extent (parse ('/' :: text)).components := extent_lexicallyNormal _
      _ ≤ text.length + 1 := extent_components_parse text

end Path

end PkgexecLinux.Filesystem
