import ReferencePage.Proofs.ParentDirectories

/-! Writing, moving and removing the draft of a file.  No entry changes but those that the two paths
lead to, and these two stand in one directory. -/
namespace ReferencePage

namespace Tree

section Near

variable {tree mid after : Tree} {path source destination : Path} {paths more : List Path}
  {place : Location} {entry : Entry} {content : ByteArray}

/-- Away from where these paths lead, the entries are the same. -/
structure Near (paths : List Path) (tree after : Tree) : Prop where
  keeps : tree.Keeps after
  apart : ∀ place, (∀ path ∈ paths, after.place? path ≠ some place) →
    after.entry? place = tree.entry? place

namespace Near

theorem refl (tree : Tree) : Near paths tree tree := ⟨.refl tree, fun _ _ => rfl⟩

theorem trans (first : Near paths tree mid) (second : Near paths mid after) :
    Near paths tree after := by
  refine ⟨first.keeps.trans second.keeps, fun place apart => ?_⟩
  rw [second.apart place apart]
  exact first.apart place fun path member leads => apart path member (second.keeps.place? leads)

theorem mono (near : Near paths tree after) (within : paths ⊆ more) : Near more tree after :=
  ⟨near.keeps, fun place apart => near.apart place fun path member => apart path (within member)⟩

theorem put (leads : tree.place? path = some place) (other : tree.entry? place ≠ some .directory)
    (entry : Entry) : Near [path] tree (tree.put place entry) := by
  obtain ⟨front, name, -, rfl⟩ := place?_eq_some.mp leads
  have keeps : tree.Keeps (tree.put (front ++ [name]) entry) := keeps_put (by simp) other
  refine ⟨keeps, fun place apart => ?_⟩
  rw [entry_put (by simp), if_neg]
  rintro rfl
  exact apart path List.mem_cons_self (keeps.place? leads)

theorem erase (leads : tree.place? path = some place)
    (other : tree.entry? place ≠ some .directory) : Near [path] tree (tree.erase place) := by
  obtain ⟨front, name, -, rfl⟩ := place?_eq_some.mp leads
  have keeps := keeps_erase (by simp) other
  refine ⟨keeps, fun place apart => ?_⟩
  rw [entry_erase (by simp), if_neg]
  rintro rfl
  exact apart path List.mem_cons_self (keeps.place? leads)

end Near

theorem near_write (written : tree.write path content = .ok after) : Near [path] tree after := by
  obtain ⟨front, name, leads, -, other, -, rfl⟩ := write_eq_ok written
  exact .put (place?_of_goal leads) other _

theorem near_move (moved : tree.move source destination = .ok after) :
    Near [source, destination] tree after := by
  obtain ⟨front, name, front', name', content, leads, leads', file, -, other, -, rfl⟩ :=
    move_eq_ok moved
  split
  · exact .refl tree
  · rename_i apart
    have erased : Near [source] tree (tree.erase (front ++ [name])) :=
      .erase (place?_of_goal leads) (by simp [file])
    have put := Near.put (erased.keeps.place? (place?_of_goal leads'))
      (by simpa [entry_erase, Ne.symm apart] using other) (.file content)
    exact (erased.mono (by simp)).trans (put.mono (by simp))

end Near

/- The answers to the requests for a draft, and the tree without the file at a path. -/
section Cleared

variable {tree after : Tree} {path source destination : Path} {place : Location} {entry : Entry}
  {content : ByteArray} {fault : Fault}

theorem perform_write_ok (written : tree.write path content = .ok after) :
    perform (Storage.write path content) tree = (.ok (), after) := by
  rw [perform_write, settle, written]

theorem perform_write_error (refused : tree.write path content = .error fault) :
    perform (Storage.write path content) tree = (.error fault, tree) := by
  rw [perform_write, settle, refused]

theorem perform_move_ok (moved : tree.move source destination = .ok after) :
    perform (Storage.move source destination) tree = (.ok (), after) := by
  rw [perform_move, settle, moved]

theorem perform_move_error (refused : tree.move source destination = .error fault) :
    perform (Storage.move source destination) tree = (.error fault, tree) := by
  rw [perform_move, settle, refused]

def cleared (tree : Tree) (path : Path) : Tree := (perform (Storage.remove path) tree).2

theorem cleared_cases (tree : Tree) (path : Path) :
    tree.remove path = .ok (tree.cleared path) ∨
      (∃ fault, tree.remove path = .error fault) ∧ tree.cleared path = tree := by
  rw [cleared, perform_remove, settle]
  cases tree.remove path with
  | ok after => exact .inl rfl
  | error fault => exact .inr ⟨⟨fault, rfl⟩, rfl⟩

theorem near_cleared (tree : Tree) (path : Path) : Near [path] tree (tree.cleared path) := by
  rcases cleared_cases tree path with removed | ⟨-, same⟩
  · obtain ⟨front, name, content, leads, file, erased⟩ := remove_eq_ok removed
    rw [erased]
    exact .erase (place?_of_goal leads) (by simp [file])
  · rw [same]
    exact .refl tree

/-- A path leads where it did, so that nothing stands where a file was removed. -/
theorem entry_remove (removed : tree.remove path = .ok after)
    (leads : after.place? path = some place) : after.entry? place = none := by
  obtain ⟨front, name, content, led, file, rfl⟩ := remove_eq_ok removed
  have keeps : tree.Keeps (tree.erase (front ++ [name])) := keeps_erase (by simp) (by simp [file])
  rw [keeps.place? (place?_of_goal led)] at leads
  cases leads
  simp [entry_erase]

theorem place?_of_find (found : tree.find path = .ok (.file content)) :
    ∃ place, tree.place? path = some place ∧ tree.entry? place = some (.file content) := by
  obtain ⟨front, name, leads, -, file, -⟩ := find_eq_file.mp found
  exact ⟨_, place?_of_goal leads, file⟩

theorem find_cleared : (tree.cleared path).find path ≠ .ok (.file content) := by
  intro found
  rcases cleared_cases tree path with removed | ⟨⟨fault, refused⟩, same⟩
  · obtain ⟨place, leads, file⟩ := place?_of_find found
    rw [entry_remove removed leads] at file
    contradiction
  · rw [same] at found
    obtain ⟨after, removed⟩ := remove_of_find found
    rw [refused] at removed
    contradiction

theorem entry_of_cleared (found : entry? (tree.cleared path) place = some entry) :
    tree.entry? place = some entry := by
  have near := near_cleared tree path
  by_cases leads : (tree.cleared path).place? path = some place
  · rcases cleared_cases tree path with removed | ⟨-, same⟩
    · rw [entry_remove removed leads] at found
      contradiction
    · rwa [same] at found
  · rw [← near.apart place (by simpa using leads)]
    exact found

theorem find_write (written : tree.write path content = .ok after) :
    after.find path = .ok (.file content) := by
  obtain ⟨front, name, leads, short, other, slash, rfl⟩ := write_eq_ok written
  have keeps : tree.Keeps (tree.put (front ++ [name]) (.file content)) :=
    keeps_put (by simp) other
  exact find_eq_file.mpr ⟨front, name, keeps.goal leads, short, by simp [entry_put], slash⟩

theorem entry_of_cleared_write (written : tree.write path content = .ok after)
    (found : entry? (after.cleared path) place = some entry) : tree.entry? place = some entry := by
  have near := (near_write written).trans (near_cleared after path)
  by_cases leads : (after.cleared path).place? path = some place
  · obtain ⟨gone, removed⟩ := remove_of_find (find_write written)
    rcases cleared_cases after path with removed | ⟨⟨fault, refused⟩, -⟩
    · rw [entry_remove removed leads] at found
      contradiction
    · rw [refused] at removed
      contradiction
  · rw [← near.apart place (by simpa using leads)]
    exact found

theorem find_move (found : tree.find source = .ok (.file content))
    (moved : tree.move source destination = .ok after)
    (apart : tree.place? source ≠ tree.place? destination) :
    after.find destination = .ok (.file content) ∧ after.find source = .error .missing := by
  have keeps := (near_move moved).keeps
  obtain ⟨front, name, leads, long, file, -⟩ := find_eq_file.mp found
  obtain ⟨_, _, front', name', old, led, leads', file', short, -, slash, same⟩ := move_eq_ok moved
  rw [leads] at led
  cases led
  rw [file] at file'
  cases file'
  rw [place?_of_goal leads, place?_of_goal leads', ne_eq, Option.some_inj] at apart
  rw [if_neg apart] at same
  constructor
  · refine find_eq_file.mpr ⟨front', name', keeps.goal leads', short, ?_, slash⟩
    simp [same, entry_put]
  · have gone : after.entry? (front ++ [name]) = none := by
      simp [same, entry_put, entry_erase, apart]
    rw [find, keeps.goal leads]
    simp [child?_eq_ok.mpr ⟨long, gone⟩]

theorem entry_of_missing (missing : tree.find path = .error .missing)
    (leads : tree.place? path = some place) : tree.entry? place = none := by
  obtain ⟨front, name, goal, rfl⟩ := place?_eq_some.mp leads
  rw [find, goal] at missing
  dsimp only at missing
  split at missing
  · rename_i fault known
    cases missing
    unfold child? at known
    split at known <;> cases known
  · rename_i known
    exact (child?_eq_ok.mp known).2
  · cases missing
  · split at missing <;> cases missing

theorem Keeps.find_file (keeps : tree.Keeps after) (found : tree.find path = .ok (.file content))
    (kept : ∀ place, tree.place? path = some place → after.entry? place = tree.entry? place) :
    after.find path = .ok (.file content) := by
  obtain ⟨front, name, leads, short, file, slash⟩ := find_eq_file.mp found
  refine find_eq_file.mpr ⟨front, name, keeps.goal leads, short, ?_, slash⟩
  rw [kept _ (place?_of_goal leads)]
  exact file

end Cleared
/- Where a path leads, by its parts, and where its draft stands. -/
section Beside

variable {tree : Tree} {path : Path} {name : Text} {place other reached : Location}
  {steps : List Step}

theorem follow_moves : tree.follow place (steps.filter fun step => !Path.isStay step) =
    tree.follow place steps := by
  induction steps generalizing place with
  | nil => rfl
  | cons step steps ih =>
    cases step with
    | stay => exact ih
    | up => exact ih
    | down name =>
      change tree.follow place (.down name :: _) = _
      rw [follow, follow]
      split
      · rfl
      · rfl
      · rfl
      · exact ih

theorem follow_names (level : .up ∉ steps) (leads : tree.follow place steps = .ok reached) :
    reached = place ++ steps.filterMap Step.name? := by
  induction steps generalizing place with
  | nil =>
    cases leads
    simp
  | cons step steps ih =>
    have level' : .up ∉ steps := fun member => level (List.mem_cons_of_mem step member)
    cases step with
    | stay => exact ih level' leads
    | up => exact (level List.mem_cons_self).elim
    | down name => simpa [Step.name?] using ih level' (follow_down.mp leads).2

/-- A path that leads to the place of an entry has its name, and its parent leads to the directory
around it. -/
theorem parts_of_place? (leads : tree.place? path = some place) :
    ∃ front name, path.fileName? = some name ∧ place = front ++ [name] ∧
      tree.follow (tree.start path.isAbsolute) path.parts.dropLast = .ok front := by
  obtain ⟨front, name, goal, rfl⟩ := place?_eq_some.mp leads
  obtain ⟨-, followed, last⟩ := goal_eq_ok.mp goal
  have final : path.steps.getLast? = some (.down name) := by
    cases known : path.steps.getLast? with
    | none => simp [known] at last
    | some step => simpa [known] using last
  obtain ⟨named, same⟩ := Path.parts_of_getLast?_steps final
  refine ⟨front, name, named, rfl, ?_⟩
  rw [← follow_moves, same, follow_moves]
  exact followed

section Named

variable (named : path.fileName? = some name)

include named in
theorem follow_of_draft (leads : tree.place? (draftPath path) = some other) :
    ∃ front, other = front ++ [draftName name] ∧
      tree.follow (tree.start path.isAbsolute) path.parts.dropLast = .ok front := by
  obtain ⟨front, last, goal, rfl⟩ := place?_eq_some.mp leads
  obtain ⟨-, followed, final⟩ := goal_eq_ok.mp goal
  rw [Path.steps_draftPath named, List.dropLast_concat, Path.isAbsolute_draftPath named] at followed
  rw [Path.steps_draftPath named, List.getLast?_concat] at final
  cases final
  exact ⟨front, rfl, followed⟩

include named in
theorem beside (leads : tree.place? path = some place)
    (draft : tree.place? (draftPath path) = some other) :
    ∃ front, place = front ++ [name] ∧ other = front ++ [draftName name] := by
  obtain ⟨front, known, same, rfl, followed⟩ := parts_of_place? leads
  obtain ⟨front', rfl, followed'⟩ := follow_of_draft named draft
  rw [named] at same
  cases same
  rw [followed] at followed'
  cases followed'
  exact ⟨front, rfl, rfl⟩

include named in
/-- A draft stands neither at its path nor below it. -/
theorem draft_apart (leads : tree.place? path = some place) (rest : Location) :
    tree.place? (draftPath path) ≠ some (place ++ rest) := by
  intro draft
  obtain ⟨front, rfl, same⟩ := beside named leads draft
  simp [draftName] at same

end Named
end Beside
end Tree
end ReferencePage
