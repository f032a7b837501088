import Mathlib.Data.List.Basic
import ReferencePage.Proofs.PathParts

/-! Requests to a file tree, one by one.  Each of them changes the entry at one place or at two, and
none takes a directory away: a path that led to a place leads there afterwards. -/
namespace ReferencePage.Tree

/- What stands at a place, before and after a change at another. -/
section Entries

variable {tree : Tree} {place other : Location} {entry : Entry}

@[simp] theorem here_put : (tree.put place entry).here = tree.here := by
  unfold put
  split <;> rfl

@[simp] theorem here_erase : (tree.erase place).here = tree.here := rfl

theorem lookup_cons (e : Location × Entry) (entries : List (Location × Entry)) :
    (e :: entries).lookup other = if other = e.1 then some e.2 else entries.lookup other := by
  rw [List.lookup_cons]
  split <;> simp_all

theorem lookup_replaced (entries : List (Location × Entry)) :
    (entries.map fun e => if e.1 = place then (place, entry) else e).lookup other =
      if other = place then (entries.lookup place).map fun _ => entry
        else entries.lookup other := by
  induction entries with
  | nil => simp
  | cons e entries ih =>
    simp only [List.map_cons, lookup_cons, ih]
    by_cases here : e.1 = place
    · by_cases same : other = place <;> simp [here, same]
    · by_cases same : other = place <;> simp [here, same, Ne.symm here]

theorem lookup_erased (entries : List (Location × Entry)) :
    (entries.filter fun e => e.1 ≠ place).lookup other =
      if other = place then none else entries.lookup other := by
  induction entries with
  | nil => simp
  | cons e entries ih =>
    rw [lookup_cons]
    by_cases here : e.1 = place
    · rw [List.filter_cons_of_neg (by simp [here]), ih, here]
      by_cases same : other = place <;> simp [same]
    · rw [List.filter_cons_of_pos (by simp [here]), lookup_cons, ih]
      by_cases same : other = place <;> simp [same, Ne.symm here]

theorem entry_put (below : place ≠ []) :
    entry? (tree.put place entry) other =
      if other = place then some entry else tree.entry? other := by
  unfold entry?
  by_cases root : other = []
  · simp [root, Ne.symm below]
  · rw [if_neg root, if_neg root, put]
    split
    · rename_i known
      obtain ⟨old, found⟩ := Option.isSome_iff_exists.mp known
      simp [lookup_replaced, found]
    · rename_i unknown
      rw [Bool.not_eq_true, Option.isSome_eq_false_iff, Option.isNone_iff_eq_none] at unknown
      by_cases same : other = place <;>
        simp [same, List.lookup_append, lookup_cons, unknown]

theorem entry_erase (below : place ≠ []) :
    entry? (tree.erase place) other = if other = place then none else tree.entry? other := by
  unfold entry? erase
  by_cases root : other = []
  · simp [root, Ne.symm below]
  · rw [if_neg root, if_neg root, lookup_erased]

theorem child?_eq_ok {name : Text} {found : Option Entry} :
    tree.child? place name = .ok found ↔
      nameTooLong name = false ∧ tree.entry? (place ++ [name]) = found := by
  unfold child?
  split <;> simp_all

end Entries

/- Where paths lead. -/
section Follow

variable {tree after : Tree} {place reached : Location} {steps : List Step} {path : Path}

theorem follow_append (front back : List Step) :
    tree.follow place (front ++ back) =
      (tree.follow place front).bind fun reached => tree.follow reached back := by
  induction front generalizing place with
  | nil => rfl
  | cons step front ih =>
    cases step with
    | stay => exact ih
    | up => exact ih
    | down name =>
      rw [List.cons_append, follow, follow]
      split
      · rfl
      · rfl
      · rfl
      · exact ih

theorem follow_down {name : Text} : tree.follow place (.down name :: steps) = .ok reached ↔
    (nameTooLong name = false ∧ tree.entry? (place ++ [name]) = some .directory) ∧
      tree.follow (place ++ [name]) steps = .ok reached := by
  rw [← child?_eq_ok, follow]
  split <;> simp_all

/-- Directories stay directories. -/
structure Keeps (tree after : Tree) : Prop where
  here : after.here = tree.here
  directory : ∀ place, tree.entry? place = some .directory → after.entry? place = some .directory

theorem Keeps.refl (tree : Tree) : tree.Keeps tree := ⟨rfl, fun _ found => found⟩

theorem Keeps.trans {mid : Tree} (first : tree.Keeps mid) (second : mid.Keeps after) :
    tree.Keeps after :=
  ⟨second.here.trans first.here,
    fun place found => second.directory place (first.directory place found)⟩

theorem Keeps.follow (keeps : tree.Keeps after) (leads : tree.follow place steps = .ok reached) :
    after.follow place steps = .ok reached := by
  induction steps generalizing place with
  | nil => exact leads
  | cons step steps ih =>
    cases step with
    | stay => exact ih leads
    | up => exact ih leads
    | down name =>
      obtain ⟨⟨short, found⟩, onward⟩ := follow_down.mp leads
      exact follow_down.mpr ⟨⟨short, keeps.directory _ found⟩, ih onward⟩

/-- Where the steps of a path begin. -/
def start (tree : Tree) (absolute : Bool) : Location := if absolute then [] else tree.here

theorem Keeps.start (keeps : tree.Keeps after) (absolute : Bool) :
    after.start absolute = tree.start absolute := by
  simp [Tree.start, keeps.here]

theorem goal_eq_ok {goal : Goal} : tree.goal path = .ok goal ↔
    path.Allowed ∧ tree.follow (tree.start path.isAbsolute) path.steps.dropLast = .ok goal.place ∧
      path.steps.getLast?.getD .stay = goal.last := by
  obtain ⟨place, last⟩ := goal
  unfold Tree.goal
  split
  · rename_i nul
    exact ⟨fun found => by contradiction, fun found => absurd nul found.1.noNul⟩
  · rename_i noNul
    split
    · rename_i empty
      exact ⟨fun found => by contradiction, fun found => absurd empty found.1.nonempty⟩
    · rename_i nonempty
      split
      · rename_i long
        exact ⟨fun found => by contradiction,
          fun found => absurd found.1.short (Nat.not_lt_of_le long)⟩
      · rename_i short
        have allowed : path.Allowed := ⟨noNul, nonempty, Nat.lt_of_not_le short⟩
        change Except.map _ (tree.follow (tree.start path.isAbsolute) _) = _ ↔ _
        cases tree.follow (tree.start path.isAbsolute) path.steps.dropLast <;>
          simp [Except.map, allowed]

theorem Keeps.goal {goal : Goal} (keeps : tree.Keeps after) (leads : tree.goal path = .ok goal) :
    after.goal path = .ok goal := by
  obtain ⟨allowed, followed, last⟩ := goal_eq_ok.mp leads
  refine goal_eq_ok.mpr ⟨allowed, ?_, last⟩
  rw [keeps.start]
  exact keeps.follow followed

/-- The place of the entry that a path names, whether there is one or not. -/
def place? (tree : Tree) (path : Path) : Option Location :=
  match tree.goal path with
  | .ok ⟨front, .down name⟩ => some (front ++ [name])
  | _ => none

theorem place?_of_goal {front : Location} {name : Text}
    (leads : tree.goal path = .ok ⟨front, .down name⟩) :
    tree.place? path = some (front ++ [name]) := by
  rw [place?, leads]

theorem place?_eq_some : tree.place? path = some place ↔
    ∃ front name, tree.goal path = .ok ⟨front, .down name⟩ ∧ place = front ++ [name] := by
  constructor
  · intro found
    unfold place? at found
    split at found
    · rename_i front name leads
      exact ⟨front, name, leads, (Option.some.inj found).symm⟩
    · contradiction
  · rintro ⟨front, name, leads, rfl⟩
    exact place?_of_goal leads

theorem Keeps.place? (keeps : tree.Keeps after) (found : tree.place? path = some place) :
    after.place? path = some place := by
  obtain ⟨front, name, leads, rfl⟩ := place?_eq_some.mp found
  exact place?_of_goal (keeps.goal leads)

end Follow

/- What a request needs to succeed, and the tree after it. -/
section Requests

variable {tree after : Tree} {path source destination : Path} {content : ByteArray}

theorem find_eq_file : tree.find path = .ok (.file content) ↔
    ∃ front name, tree.goal path = .ok ⟨front, .down name⟩ ∧ nameTooLong name = false ∧
      tree.entry? (front ++ [name]) = some (.file content) ∧ path.endsWithSlash = false := by
  constructor
  · intro found
    unfold find at found
    split at found
    · contradiction
    · rename_i front name leads
      split at found
      · contradiction
      · contradiction
      · cases found
      · rename_i old known
        obtain ⟨short, entry⟩ := child?_eq_ok.mp known
        split at found
        · contradiction
        · rename_i slash
          cases found
          exact ⟨front, name, leads, short, entry, Bool.not_eq_true _ ▸ slash⟩
    · cases found
  · rintro ⟨front, name, leads, short, entry, slash⟩
    rw [find, leads]
    simp [child?_eq_ok.mpr ⟨short, entry⟩, slash]

theorem follow_steps {front : Location} {last : Step} (leads : tree.goal path = .ok ⟨front, last⟩) :
    tree.follow (tree.start path.isAbsolute) path.steps = tree.follow front [last] := by
  obtain ⟨-, followed, final⟩ := goal_eq_ok.mp leads
  rcases List.eq_nil_or_concat path.steps with none | ⟨steps, step, cut⟩
  · rw [none] at followed final ⊢
    cases followed
    cases final
    rfl
  · rw [List.concat_eq_append] at cut
    rw [cut, List.dropLast_concat] at followed
    rw [cut, List.getLast?_concat] at final
    cases final
    rw [cut, follow_append, followed]
    rfl

theorem exists_goal (allowed : path.Allowed) {reached : Location}
    (followed : tree.follow (tree.start path.isAbsolute) path.steps = .ok reached) :
    ∃ front last, tree.goal path = .ok ⟨front, last⟩ := by
  rcases List.eq_nil_or_concat path.steps with none | ⟨steps, step, cut⟩
  · exact ⟨_, _, goal_eq_ok.mpr ⟨allowed, by rw [none]; rfl, rfl⟩⟩
  · rw [List.concat_eq_append] at cut
    rw [cut, follow_append] at followed
    cases front : tree.follow (tree.start path.isAbsolute) steps with
    | error fault =>
      rw [front] at followed
      cases followed
    | ok place =>
      exact ⟨place, _, goal_eq_ok.mpr ⟨allowed, by rw [cut, List.dropLast_concat, front], rfl⟩⟩

theorem find_eq_directory : tree.find path = .ok .directory ↔
    path.Allowed ∧
      ∃ reached, tree.follow (tree.start path.isAbsolute) path.steps = .ok reached := by
  constructor
  · intro found
    unfold find at found
    split at found
    · contradiction
    · rename_i front name leads
      refine ⟨(goal_eq_ok.mp leads).1, front ++ [name], ?_⟩
      rw [follow_steps leads]
      split at found
      · contradiction
      · contradiction
      · rename_i known
        exact follow_down.mpr ⟨child?_eq_ok.mp known, rfl⟩
      · split at found <;> cases found
    · rename_i goal other leads
      obtain ⟨front, last⟩ := goal
      refine ⟨(goal_eq_ok.mp leads).1, ?_⟩
      rw [follow_steps leads]
      cases last with
      | stay => exact ⟨front, rfl⟩
      | up => exact ⟨front.dropLast, rfl⟩
      | down name => exact (other front name rfl).elim
  · rintro ⟨allowed, reached, followed⟩
    obtain ⟨front, last, leads⟩ := exists_goal allowed followed
    rw [follow_steps leads] at followed
    rw [find, leads]
    cases last with
    | stay => rfl
    | up => rfl
    | down name => simp [child?_eq_ok.mpr (follow_down.mp followed).1]

theorem keeps_put {place : Location} {entry : Entry} (below : place ≠ [])
    (other : tree.entry? place ≠ some .directory) : tree.Keeps (tree.put place entry) := by
  refine ⟨here_put, fun directory found => ?_⟩
  rw [entry_put below]
  split
  · rename_i same
    exact absurd (same ▸ found) other
  · exact found

theorem keeps_erase {place : Location} (below : place ≠ [])
    (other : tree.entry? place ≠ some .directory) : tree.Keeps (tree.erase place) := by
  refine ⟨here_erase, fun directory found => ?_⟩
  rw [entry_erase below]
  split
  · rename_i same
    exact absurd (same ▸ found) other
  · exact found

theorem Keeps.find_directory (keeps : tree.Keeps after) (found : tree.find path = .ok .directory) :
    after.find path = .ok .directory := by
  obtain ⟨allowed, reached, followed⟩ := find_eq_directory.mp found
  refine find_eq_directory.mpr ⟨allowed, reached, ?_⟩
  rw [keeps.start]
  exact keeps.follow followed

theorem makeDirectory_eq_ok (made : tree.makeDirectory path = .ok after) :
    ∃ front name, tree.goal path = .ok ⟨front, .down name⟩ ∧ nameTooLong name = false ∧
      tree.entry? (front ++ [name]) = none ∧ after = tree.put (front ++ [name]) .directory := by
  unfold makeDirectory at made
  split at made
  · contradiction
  · rename_i front name leads
    split at made
    · contradiction
    · contradiction
    · rename_i known
      obtain ⟨short, entry⟩ := child?_eq_ok.mp known
      exact ⟨front, name, leads, short, entry, (Except.ok.inj made).symm⟩
  · contradiction

theorem makeDirectory_of_find (found : tree.find path = .ok .directory) :
    tree.makeDirectory path = .error .occupied := by
  obtain ⟨allowed, reached, followed⟩ := find_eq_directory.mp found
  obtain ⟨front, last, leads⟩ := exists_goal allowed followed
  rw [follow_steps leads] at followed
  rw [makeDirectory, leads]
  cases last with
  | stay => rfl
  | up => rfl
  | down name => simp [child?_eq_ok.mpr (follow_down.mp followed).1]

theorem read_of_find (found : tree.find path = .ok .directory) :
    tree.read path = .error .isDirectory := by
  rw [read, found]

/-- A place that is taken, and not by a file, is a directory's. -/
theorem find_of_occupied (occupied : tree.makeDirectory path = .error .occupied)
    (directory : tree.read path = .error .isDirectory) : tree.find path = .ok .directory := by
  unfold read at directory
  split at directory
  · rename_i fault refused
    cases directory
    unfold find at refused
    unfold makeDirectory at occupied
    split at refused
    · simp_all
    · rename_i front name leads
      rw [leads] at occupied
      split at refused
      · simp_all
      · cases refused
      · cases refused
      · split at refused <;> cases refused
    · cases refused
  · assumption
  · cases directory

theorem write_eq_ok (written : tree.write path content = .ok after) :
    ∃ front name, tree.goal path = .ok ⟨front, .down name⟩ ∧ nameTooLong name = false ∧
      tree.entry? (front ++ [name]) ≠ some .directory ∧ path.endsWithSlash = false ∧
      after = tree.put (front ++ [name]) (.file content) := by
  unfold write at written
  split at written
  · contradiction
  · rename_i front name leads
    split at written
    · contradiction
    · contradiction
    · rename_i found other known
      obtain ⟨short, entry⟩ := child?_eq_ok.mp known
      split at written
      · contradiction
      · rename_i slash
        exact ⟨front, name, leads, short, fun same => other (entry.symm.trans same),
          Bool.not_eq_true _ ▸ slash, (Except.ok.inj written).symm⟩
  · contradiction

theorem move_eq_ok (moved : tree.move source destination = .ok after) :
    ∃ front name front' name' content,
      tree.goal source = .ok ⟨front, .down name⟩ ∧
      tree.goal destination = .ok ⟨front', .down name'⟩ ∧
      tree.entry? (front ++ [name]) = some (.file content) ∧
      nameTooLong name' = false ∧ tree.entry? (front' ++ [name']) ≠ some .directory ∧
      destination.endsWithSlash = false ∧
      after = if front ++ [name] = front' ++ [name'] then tree
        else (tree.erase (front ++ [name])).put (front' ++ [name']) (.file content) := by
  unfold move at moved
  split at moved
  · contradiction
  · rename_i origin leads
    split at moved
    · contradiction
    · rename_i aim leads'
      obtain ⟨front, last⟩ := origin
      obtain ⟨front', last'⟩ := aim
      split at moved
      · rename_i name name' same same'
        cases same
        cases same'
        split at moved
        · contradiction
        · contradiction
        · contradiction
        · rename_i content known
          split at moved
          · contradiction
          · rename_i found known'
            obtain ⟨-, entry⟩ := child?_eq_ok.mp known
            obtain ⟨short, entry'⟩ := child?_eq_ok.mp known'
            split at moved
            · contradiction
            · rename_i slash
              rw [Bool.or_eq_true, not_or, Bool.not_eq_true, Bool.not_eq_true] at slash
              split at moved
              · contradiction
              · rename_i directory
                refine ⟨front, name, front', name', content, leads, leads', entry, short, ?_, slash.2,
                  ?_⟩
                · intro same
                  rw [entry'] at same
                  simp [same, Entry.isDirectory] at directory
                · split at moved <;> simp_all
      · contradiction

theorem remove_eq_ok (removed : tree.remove path = .ok after) :
    ∃ front name content, tree.goal path = .ok ⟨front, .down name⟩ ∧
      tree.entry? (front ++ [name]) = some (.file content) ∧
      after = tree.erase (front ++ [name]) := by
  unfold remove at removed
  split at removed
  · contradiction
  · rename_i front name leads
    split at removed
    · contradiction
    · contradiction
    · contradiction
    · rename_i content known
      obtain ⟨-, entry⟩ := child?_eq_ok.mp known
      split at removed
      · contradiction
      · exact ⟨front, name, content, leads, entry, (Except.ok.inj removed).symm⟩
  · contradiction

theorem remove_of_find (found : tree.find path = .ok (.file content)) :
    ∃ after, tree.remove path = .ok after := by
  obtain ⟨front, name, leads, short, entry, slash⟩ := find_eq_file.mp found
  refine ⟨tree.erase (front ++ [name]), ?_⟩
  rw [remove, leads]
  simp [child?_eq_ok.mpr ⟨short, entry⟩, slash]

end Requests
end ReferencePage.Tree
