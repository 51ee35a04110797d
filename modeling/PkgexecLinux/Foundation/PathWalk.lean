import Mathlib.Data.List.Induction

/-!
# Path resolution

How a path is resolved in a view of directories and symbolic links, component by component.
A place is given by the names that lead to it without links; the view tells what stands
there.  A link is replaced by its target, at most as many links are followed as there is a
budget for, and `..` leads to the parent of the directory that has been reached, not to the
component before it.
-/

namespace PkgexecLinux.Foundation.PathWalk

variable {Name Fault : Type}

/-- A component of a path. -/
inductive Component (Name : Type) where
  /-- A separator at the end, which asks for a directory. -/
  | separator
  | current
  | parent
  | entry (name : Name)
  deriving DecidableEq, Repr

/-- What a symbolic link stands for. -/
structure Target (Name : Type) where
  absolute : Bool
  components : List (Component Name)

/-- What stands at a place, as far as resolution tells it apart. -/
inductive Sight (Name : Type) where
  | directory (searchable : Bool)
  | link (target : Target Name)
  | other

/-- What stands at each place, or why it cannot be looked at. -/
abbrev View (Name Fault : Type) := List Name → Except Fault (Sight Name)

/-- The faults that resolution finds by itself. -/
structure Faults (Fault : Type) where
  closed : Fault
  notDirectory : Fault
  loop : Fault

/-- Where a resolution has led, and how many links it has followed. -/
structure Resolution (Name : Type) where
  location : List Name
  links : Nat
  deriving DecidableEq, Repr

/-- A resolution with the places that it has looked at, in their order. -/
structure Passage (Name Fault : Type) where
  seen : List (List Name)
  result : Except Fault (Resolution Name)

namespace Passage

/-- The passage before which some places have been looked at. -/
def after (passage : Passage Name Fault) (places : List (List Name)) : Passage Name Fault :=
  { passage with seen := places ++ passage.seen }

/-- The passage that goes on behind a link. -/
def behindLink (passage : Passage Name Fault) : Passage Name Fault :=
  { passage with result := passage.result.map fun found => { found with links := found.links + 1 } }

@[simp] theorem after_seen (passage : Passage Name Fault) (places : List (List Name)) :
    (passage.after places).seen = places ++ passage.seen := rfl

@[simp] theorem after_result (passage : Passage Name Fault) (places : List (List Name)) :
    (passage.after places).result = passage.result := rfl

@[simp] theorem behindLink_seen (passage : Passage Name Fault) :
    passage.behindLink.seen = passage.seen := rfl

end Passage

/-- What one component does to a resolution. -/
inductive Advance (Name Fault : Type) where
  | stop (result : Except Fault (List Name))
  | onward (location : List Name)
  | link (target : Target Name)

/-- The places that a component asks for: a directory, and the entry of it that is named. -/
def places (location : List Name) : Component Name → List (List Name)
  | .separator | .current | .parent => [location]
  | .entry name => [location, location ++ [name]]

section Walk

variable (faults : Faults Fault) (view : View Name Fault) (follow : Bool)

/-- One component; `keep` tells whether a link is where the resolution ends. -/
def advance (keep : Bool) (location : List Name) (component : Component Name) :
    Advance Name Fault :=
  match view location with
  | .error fault => .stop (.error fault)
  | .ok (.directory searchable) =>
      match component with
      | .separator => .onward location
      | .current => if searchable then .onward location else .stop (.error faults.closed)
      | .parent => if searchable then .onward location.dropLast else .stop (.error faults.closed)
      | .entry name =>
          if searchable then
            match view (location ++ [name]) with
            | .error fault => .stop (.error fault)
            | .ok (.link target) => if keep then .stop (.ok (location ++ [name])) else .link target
            | .ok _ => .onward (location ++ [name])
          else .stop (.error faults.closed)
  | .ok _ => .stop (.error faults.notDirectory)

/-- One pass over the components of a path.  `follow` tells whether a link in the last place
is followed; `onLink` goes on from the directory of a link. -/
def walkWith (onLink : List Name → Target Name → List (Component Name) → Passage Name Fault)
    (location : List Name) : List (Component Name) → Passage Name Fault
  | [] => ⟨[location], .ok ⟨location, 0⟩⟩
  | component :: rest =>
      (match advance faults view (rest.isEmpty && !follow) location component with
      | .stop result => Passage.mk [] (result.map fun reached => Resolution.mk reached 0)
      | .onward next => walkWith onLink next rest
      | .link target => onLink location target rest).after (places location component)

/-- Resolution of components, with a budget of links. -/
def walk : Nat → List Name → List (Component Name) → Passage Name Fault
  | 0 => walkWith faults view follow fun _ _ _ => ⟨[], .error faults.loop⟩
  | budget + 1 => walkWith faults view follow fun location target rest =>
      (walk budget (if target.absolute then [] else location)
        (target.components ++ rest)).behindLink

end Walk

/-! ## Views that agree -/

section Agreement

variable {faults : Faults Fault} {view other : View Name Fault} {follow : Bool}

theorem advance_agree {keep : Bool} {location : List Name} {component : Component Name}
    (agree : ∀ place ∈ places location component, other place = view place) :
    advance faults other keep location component =
      advance faults view keep location component := by
  have here : other location = view location := by
    apply agree location
    cases component <;> exact List.mem_cons_self
  cases component with
  | entry name =>
      have there : other (location ++ [name]) = view (location ++ [name]) :=
        agree (location ++ [name]) (by simp [places])
      simp only [advance, here, there]
  | separator | current | parent => simp only [advance, here]

theorem walkWith_agree
    {onLink otherLink : List Name → Target Name → List (Component Name) → Passage Name Fault}
    (links : ∀ location target rest,
      (∀ place ∈ (onLink location target rest).seen, other place = view place) →
      otherLink location target rest = onLink location target rest)
    (components : List (Component Name)) (location : List Name)
    (agree : ∀ place ∈ (walkWith faults view follow onLink location components).seen,
      other place = view place) :
    walkWith faults other follow otherLink location components =
      walkWith faults view follow onLink location components := by
  induction components generalizing location with
  | nil => rfl
  | cons component rest ih =>
      rw [walkWith, Passage.after_seen] at agree
      have same : advance faults other (rest.isEmpty && !follow) location component =
          advance faults view (rest.isEmpty && !follow) location component :=
        advance_agree fun place member => agree place (List.mem_append_left _ member)
      have later := fun place member => agree place (List.mem_append_right _ member)
      rw [walkWith, walkWith, same]
      cases advanced : advance faults view (rest.isEmpty && !follow) location component with
      | stop result => rfl
      | onward next =>
          rw [advanced] at later
          dsimp only
          rw [ih next later]
      | link target =>
          rw [advanced] at later
          dsimp only
          rw [links location target rest later]

/-- A resolution depends only on the places that it looks at. -/
theorem walk_agree (budget : Nat) (components : List (Component Name)) (location : List Name)
    (agree : ∀ place ∈ (walk faults view follow budget location components).seen,
      other place = view place) :
    walk faults other follow budget location components =
      walk faults view follow budget location components := by
  induction budget generalizing location components with
  | zero => exact walkWith_agree (fun _ _ _ _ => rfl) components location agree
  | succ budget ih =>
      refine walkWith_agree ?_ components location agree
      intro place target rest same
      rw [ih _ _ same]


end Agreement

/-! ## Ways without links -/

section Direct

variable {faults : Faults Fault} {view : View Name Fault}
variable {follow keep : Bool} {start middle last : List Name} {component : Component Name}
variable {components front back : List (Component Name)} {name : Name}
variable {onLink : List Name → Target Name → List (Component Name) → Passage Name Fault}

/-- Where a component leads if it is no link. -/
def push (location : List Name) : Component Name → List Name
  | .separator | .current => location
  | .parent => location.dropLast
  | .entry name => location ++ [name]

/-- The component leads from one place to another without a link. -/
def Step (faults : Faults Fault) (view : View Name Fault) (start : List Name)
    (component : Component Name) (last : List Name) : Prop :=
  advance faults view false start component = .onward last

/-- What a component does where no link is kept, by the places that it asks for. -/
theorem advance_cases (faults : Faults Fault) (view : View Name Fault) (start : List Name)
    (component : Component Name) :
    (∃ fault, advance faults view false start component = .stop (.error fault)) ∨
    (∃ name target, component = .entry name ∧ view (start ++ [name]) = .ok (.link target) ∧
      advance faults view false start component = .link target) ∨
    (∃ searchable, view start = .ok (.directory searchable) ∧
      (∀ name, component = .entry name → searchable = true ∧
        ∃ sight, view (start ++ [name]) = .ok sight ∧ ∀ target, sight ≠ .link target) ∧
      advance faults view false start component = .onward (push start component)) := by
  cases here : view start with
  | error fault => exact .inl ⟨fault, by simp only [advance, here]⟩
  | ok sight =>
      cases sight with
      | link target => exact .inl ⟨faults.notDirectory, by simp only [advance, here]⟩
      | other => exact .inl ⟨faults.notDirectory, by simp only [advance, here]⟩
      | directory searchable =>
          cases component with
          | separator =>
              exact .inr (.inr ⟨searchable, rfl, nofun, by simp only [advance, here, push]⟩)
          | current | parent =>
              cases searchable with
              | false => exact .inl ⟨faults.closed, by simp [advance, here]⟩
              | true => exact .inr (.inr ⟨true, rfl, nofun, by simp [advance, here, push]⟩)
          | entry name =>
              cases searchable with
              | false => exact .inl ⟨faults.closed, by simp [advance, here]⟩
              | true =>
                  cases there : view (start ++ [name]) with
                  | error fault => exact .inl ⟨fault, by simp [advance, here, there]⟩
                  | ok sight =>
                      cases sight with
                      | link target =>
                          exact .inr (.inl
                            ⟨name, target, rfl, there, by simp [advance, here, there]⟩)
                      | directory | other =>
                          refine .inr (.inr ⟨true, rfl, ?_, by simp [advance, here, there, push]⟩)
                          rintro _ ⟨rfl⟩
                          exact ⟨rfl, _, there, nofun⟩

/-- A link is where a resolution that keeps it ends; nothing else depends on that. -/
theorem advance_kept (start : List Name) (component : Component Name) :
    advance faults view true start component =
      match advance faults view false start component with
      | .link _ => .stop (.ok (push start component))
      | other => other := by
  unfold PathWalk.advance
  cases view start with
  | error fault => rfl
  | ok sight =>
      cases sight with
      | link target => rfl
      | other => rfl
      | directory searchable =>
          cases component with
          | separator => rfl
          | current | parent => cases searchable <;> rfl
          | entry name =>
              cases searchable with
              | false => rfl
              | true =>
                  dsimp only
                  rw [if_pos rfl, if_pos rfl]
                  cases view (start ++ [name]) with
                  | error fault => rfl
                  | ok sight => cases sight <;> rfl

/-- Everything a component that is no link can do. -/
theorem Step.cases (step : Step faults view start component last) :
    last = push start component ∧ ∃ searchable, view start = .ok (.directory searchable) ∧
      ∀ name, component = .entry name → searchable = true ∧
        ∃ sight, view (start ++ [name]) = .ok sight ∧ ∀ target, sight ≠ .link target := by
  rcases advance_cases faults view start component with
    ⟨fault, stopped⟩ | ⟨name, target, _, _, linked⟩ | ⟨searchable, here, entry, onward⟩
  · cases stopped.symm.trans step
  · cases linked.symm.trans step
  · cases onward.symm.trans step
    exact ⟨rfl, searchable, here, entry⟩

/-- A component that is no link does the same in the last place. -/
theorem Step.advance (step : Step faults view start component last) (keep : Bool) :
    PathWalk.advance faults view keep start component = .onward last := by
  cases keep with
  | false => exact step
  | true => rw [advance_kept, show PathWalk.advance faults view false start component = _ from step]

/-- A resolution of one component that ends at no link has made a step. -/
theorem step_of_result {found : Resolution Name}
    (reached : (walkWith faults view false onLink start [component]).result = .ok found)
    (unlinked : ∀ target, view found.location ≠ .ok (.link target)) :
    Step faults view start component found.location := by
  rw [walkWith, Passage.after_result, List.isEmpty_nil, Bool.not_false, Bool.and_self,
    advance_kept] at reached
  rcases advance_cases faults view start component with
    ⟨fault, stopped⟩ | ⟨name, target, rfl, there, linked⟩ | ⟨searchable, here, entry, onward⟩
  · rw [stopped] at reached
    cases reached
  · rw [linked] at reached
    cases reached
    exact absurd there (unlinked target)
  · rw [onward] at reached
    cases reached
    exact onward

/-- The components lead from one place to another, and none of them is a link. -/
inductive Direct (faults : Faults Fault) (view : View Name Fault) :
    List Name → List (Component Name) → List Name → Prop where
  | nil (location : List Name) : Direct faults view location [] location
  | cons {start middle last : List Name} {component : Component Name}
      {components : List (Component Name)} : Step faults view start component middle →
      Direct faults view middle components last →
      Direct faults view start (component :: components) last

/-- Resolutions of any kind follow a direct way. -/
theorem Direct.walkWith_append (direct : Direct faults view start front middle)
    (rest : List (Component Name)) :
    (walkWith faults view follow onLink start (front ++ rest)).result =
      (walkWith faults view follow onLink middle rest).result := by
  induction direct with
  | nil => rfl
  | cons step _ ih =>
      rw [List.cons_append, walkWith, step.advance, Passage.after_result]
      exact ih

theorem Direct.walk (direct : Direct faults view start components last) (budget : Nat) :
    (walk faults view follow budget start components).result = .ok ⟨last, 0⟩ := by
  have whole : ∀ onLink, (walkWith faults view follow onLink start components).result =
      .ok ⟨last, 0⟩ := by
    intro onLink
    have append : (walkWith faults view follow onLink start (components ++ [])).result =
        (walkWith faults view follow onLink last []).result := direct.walkWith_append []
    rwa [List.append_nil] at append
  cases budget with
  | zero => exact whole _
  | succ budget => exact whole _

theorem direct_append :
    Direct faults view start (front ++ back) last ↔
      ∃ middle, Direct faults view start front middle ∧ Direct faults view middle back last := by
  constructor
  · intro direct
    induction front generalizing start with
    | nil => exact ⟨start, .nil start, direct⟩
    | cons component front ih =>
        rcases direct with _ | ⟨step, onward⟩
        obtain ⟨middle, early, late⟩ := ih onward
        exact ⟨middle, .cons step early, late⟩
  · rintro ⟨middle, early, late⟩
    induction early with
    | nil => exact late
    | cons step _ ih => exact .cons step (ih late)

theorem Direct.concat (direct : Direct faults view start components middle)
    (step : Step faults view middle component last) :
    Direct faults view start (components ++ [component]) last :=
  direct_append.mpr ⟨middle, direct, .cons step (.nil last)⟩

/-- A direct way ends where the components alone say. -/
theorem Direct.location (direct : Direct faults view start components last) :
    last = components.foldl push start := by
  induction direct with
  | nil => rfl
  | cons step _ ih =>
      rw [List.foldl_cons, ← step.cases.1]
      exact ih

theorem foldl_push_entries (names : List Name) (start : List Name) :
    (names.map Component.entry).foldl push start = start ++ names := by
  induction names generalizing start with
  | nil => simp
  | cons name names ih => simp [push, ih]

/-- A place is rooted when its own names lead to it. -/
def Rooted (faults : Faults Fault) (view : View Name Fault) (location : List Name) : Prop :=
  Direct faults view [] (location.map .entry) location

theorem Rooted.top : Rooted faults view [] := .nil []

/-- The last step of the way to a rooted place. -/
theorem Rooted.last_step (rooted : Rooted faults view (start ++ [name])) :
    Rooted faults view start ∧ Step faults view start (.entry name) (start ++ [name]) := by
  rw [Rooted, List.map_append] at rooted
  obtain ⟨middle, early, late⟩ := direct_append.mp rooted
  obtain rfl : middle = start := by
    rw [early.location, foldl_push_entries, List.nil_append]
  rcases late with _ | ⟨step, rest⟩
  rcases rest with _ | _
  exact ⟨early, step⟩

/-- So is the parent of a rooted place. -/
theorem Rooted.parent (rooted : Rooted faults view start) : Rooted faults view start.dropLast := by
  rcases List.eq_nil_or_concat start with rfl | ⟨parent, name, rfl⟩
  · exact rooted
  · rw [List.concat_eq_append] at rooted ⊢
    rw [List.dropLast_concat]
    exact rooted.last_step.1

theorem Rooted.step (rooted : Rooted faults view start)
    (step : Step faults view start component last) : Rooted faults view last := by
  have here := step.cases.1
  cases component with
  | separator | current =>
      rw [here]
      exact rooted
  | parent =>
      rw [here]
      exact rooted.parent
  | entry name =>
      obtain rfl : last = start ++ [name] := here
      rw [Rooted, List.map_append]
      exact Direct.concat rooted step

theorem Rooted.walk (rooted : Rooted faults view start)
    (direct : Direct faults view start components last) : Rooted faults view last := by
  induction direct with
  | nil => exact rooted
  | cons step _ ih => exact ih (rooted.step step)

/-- Above a rooted directory there is a directory; the root is its own parent. -/
theorem Rooted.parent_directory (rooted : Rooted faults view start) {searchable : Bool}
    (directory : view start = .ok (.directory searchable)) :
    ∃ searchable, view start.dropLast = .ok (.directory searchable) := by
  rcases List.eq_nil_or_concat start with rfl | ⟨parent, name, rfl⟩
  · exact ⟨searchable, directory⟩
  · rw [List.concat_eq_append] at rooted ⊢
    rw [List.dropLast_concat]
    obtain ⟨_, searchable, here, _⟩ := rooted.last_step.2.cases
    exact ⟨searchable, here⟩

/-- Something stands at a rooted place, unless it is the root. -/
theorem Rooted.exists_sight (rooted : Rooted faults view start) (inside : start ≠ []) :
    ∃ sight, view start = .ok sight := by
  rcases List.eq_nil_or_concat start with rfl | ⟨parent, name, rfl⟩
  · exact absurd rfl inside
  · rw [List.concat_eq_append] at rooted ⊢
    obtain ⟨_, _, _, entry⟩ := rooted.last_step.2.cases
    obtain ⟨_, sight, there, _⟩ := entry name rfl
    exact ⟨sight, there⟩

end Direct

/-! ## Where a resolution ends -/

section Reached

variable {faults : Faults Fault} {view : View Name Fault} {follow keep : Bool}

theorem advance_stopped {location place : List Name} {component : Component Name}
    (stopped : advance faults view keep location component = .stop (.ok place)) :
    place ∈ places location component := by
  have cases := advance_cases faults view location component
  cases keep with
  | false =>
      rcases cases with ⟨fault, same⟩ | ⟨name, target, rfl, _, same⟩ | ⟨_, _, _, same⟩
      all_goals cases same.symm.trans stopped
  | true =>
      rw [advance_kept] at stopped
      rcases cases with ⟨fault, same⟩ | ⟨name, target, rfl, _, same⟩ | ⟨_, _, _, same⟩
      all_goals
        rw [same] at stopped
        cases stopped
      exact List.mem_cons_of_mem _ List.mem_cons_self

theorem walkWith_reached
    {onLink : List Name → Target Name → List (Component Name) → Passage Name Fault}
    (links : ∀ location target rest found, (onLink location target rest).result = .ok found →
      found.location ∈ (onLink location target rest).seen)
    (components : List (Component Name)) (location : List Name) {found : Resolution Name}
    (reached : (walkWith faults view follow onLink location components).result = .ok found) :
    found.location ∈ (walkWith faults view follow onLink location components).seen := by
  induction components generalizing location with
  | nil =>
      cases reached
      exact List.mem_singleton_self _
  | cons component rest ih =>
      rw [walkWith, Passage.after_result] at reached
      rw [walkWith, Passage.after_seen, List.mem_append]
      cases advanced : advance faults view (rest.isEmpty && !follow) location component with
      | stop result =>
          rw [advanced] at reached
          cases result with
          | error fault => cases reached
          | ok place =>
              cases reached
              exact .inl (advance_stopped advanced)
      | onward next =>
          rw [advanced] at reached
          exact .inr (ih next reached)
      | link target =>
          rw [advanced] at reached
          exact .inr (links location target rest found reached)

/-- The place that a resolution reaches is one that it has looked at. -/
theorem walk_reached (budget : Nat) (components : List (Component Name)) (location : List Name)
    {found : Resolution Name}
    (reached : (walk faults view follow budget location components).result = .ok found) :
    found.location ∈ (walk faults view follow budget location components).seen := by
  induction budget generalizing location components found with
  | zero => exact walkWith_reached (fun _ _ _ _ done => by cases done) components location reached
  | succ budget ih =>
      refine walkWith_reached ?_ components location reached
      intro place target rest found done
      rw [Passage.behindLink] at done
      cases inner : (walk faults view follow budget (if target.absolute then [] else place)
          (target.components ++ rest)).result with
      | error fault =>
          rw [inner] at done
          cases done
      | ok within =>
          have member := ih _ _ inner
          rw [inner] at done
          cases done
          exact member

end Reached

end PkgexecLinux.Foundation.PathWalk
