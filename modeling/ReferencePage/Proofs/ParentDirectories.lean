import ReferencePage.Proofs.Entries

/-! The directories above a file are made from the first one that is missing down.  Whatever stood
in the tree before stays as it is, and what is new are directories that fronts of the path lead
to. -/
namespace ReferencePage

namespace Tree

/-- What requests answer on a tree, and the tree after them. -/
def perform {α : Type} (requests : Steps α) (tree : Tree) : α × Tree := requests tree

section Run

variable {α β : Type} {tree : Tree} {path source destination : Path}

@[simp] theorem perform_pure (a : α) : perform (pure a) tree = (a, tree) := rfl

@[simp] theorem perform_bind (requests : Steps α) (next : α → Steps β) :
    perform (requests >>= next) tree =
      perform (next (perform requests tree).1) (perform requests tree).2 := rfl

@[simp] theorem perform_read : perform (Storage.read path) tree = (tree.read path, tree) := rfl

@[simp] theorem perform_makeDirectory : perform (Storage.makeDirectory path) tree =
    settle (fun tree => tree.makeDirectory path) tree := rfl

@[simp] theorem perform_write {content : ByteArray} : perform (Storage.write path content) tree =
    settle (fun tree => tree.write path content) tree := rfl

@[simp] theorem perform_move : perform (Storage.move source destination) tree =
    settle (fun tree => tree.move source destination) tree := rfl

@[simp] theorem perform_remove :
    perform (Storage.remove path) tree = settle (fun tree => tree.remove path) tree := rfl

theorem perform_isDirectory_of_find (found : tree.find path = .ok .directory) :
    perform (isDirectory path) tree = (true, tree) := by
  simp [isDirectory, read_of_find found]

theorem perform_isDirectory_of_read (other : tree.read path ≠ .error .isDirectory) :
    perform (isDirectory path) tree = (false, tree) := by
  simp only [isDirectory, perform_bind, perform_read]
  rfl

end Run

/-- Everything stands as it did, and new are only directories that fronts of the steps lead to. -/
structure Grown (absolute : Bool) (steps : List Step) (tree after : Tree) : Prop where
  here : after.here = tree.here
  kept : ∀ place entry, tree.entry? place = some entry → after.entry? place = some entry
  new : ∀ place entry, tree.entry? place = none → after.entry? place = some entry →
    entry = .directory ∧ ∃ front, front ≠ [] ∧ front <+: steps ∧
      after.follow (after.start absolute) front = .ok place

namespace Grown

variable {absolute : Bool} {steps : List Step} {tree mid after : Tree}

theorem refl (tree : Tree) : Grown absolute steps tree tree := by
  refine ⟨rfl, fun _ _ found => found, ?_⟩
  intro place entry free found
  rw [free] at found
  contradiction

theorem keeps (grown : Grown absolute steps tree after) : tree.Keeps after :=
  ⟨grown.here, fun place => grown.kept place .directory⟩

theorem trans (first : Grown absolute steps tree mid) (second : Grown absolute steps mid after) :
    Grown absolute steps tree after := by
  refine ⟨second.here.trans first.here,
    fun place entry found => second.kept place entry (first.kept place entry found), ?_⟩
  intro place entry free found
  cases before : mid.entry? place with
  | none => exact second.new place entry before found
  | some old =>
    have same := second.kept place old before
    rw [found] at same
    cases same
    obtain ⟨directory, front, nonempty, within, leads⟩ := first.new place entry free before
    refine ⟨directory, front, nonempty, within, ?_⟩
    rw [second.keeps.start]
    exact second.keeps.follow leads

theorem longer (grown : Grown absolute steps tree after) (more : List Step) :
    Grown absolute (steps ++ more) tree after := by
  refine ⟨grown.here, grown.kept, fun place entry free found => ?_⟩
  obtain ⟨directory, front, nonempty, within, leads⟩ := grown.new place entry free found
  exact ⟨directory, front, nonempty, within.trans (List.prefix_append steps more), leads⟩

theorem put {place : Location} (below : place ≠ []) (free : tree.entry? place = none)
    (nonempty : steps ≠ []) (leads : (tree.put place .directory).follow
      ((tree.put place .directory).start absolute) steps = .ok place) :
    Grown absolute steps tree (tree.put place .directory) := by
  refine ⟨here_put, ?_, ?_⟩
  · intro other entry found
    rw [entry_put below, if_neg]
    · exact found
    · rintro rfl
      rw [free] at found
      contradiction
  · intro other entry none found
    rw [entry_put below] at found
    split at found
    · rename_i same
      cases found
      exact ⟨rfl, steps, nonempty, List.prefix_rfl, same ▸ leads⟩
    · rw [none] at found
      contradiction

end Grown
end Tree

section OneDirectory

variable {m : Type → Type} [Monad m] [Storage m]

def ensureDirectory (path : Path) : m (Except Fault Unit) := do
  match ← Storage.makeDirectory path with
  | .error .occupied =>
    if ← isDirectory path then return .ok () else return .error .occupied
  | answer => return answer

theorem makeDirectories_cons (absolute : Bool) (part : Step) (above : List Step) :
    (makeDirectories absolute (part :: above) : m (Except Fault Unit)) = do
      match ← ensureDirectory (Path.ofParts absolute (part :: above).reverse) with
      | .error .missing =>
        match ← makeDirectories absolute above with
        | .error fault => return .error fault
        | .ok () => ensureDirectory (Path.ofParts absolute (part :: above).reverse)
      | answer => return answer :=
  rfl

end OneDirectory

namespace Tree

inductive Ensured (path : Path) (tree : Tree) : Except Fault Unit → Tree → Prop where
  | made {front : Location} {name : Text} (leads : tree.goal path = .ok ⟨front, .down name⟩)
    (short : nameTooLong name = false) (free : tree.entry? (front ++ [name]) = none) :
    Ensured path tree (.ok ()) (tree.put (front ++ [name]) .directory)
  | stood (found : tree.find path = .ok .directory) : Ensured path tree (.ok ()) tree
  | refused (none : tree.find path ≠ .ok .directory) (fault : Fault) :
    Ensured path tree (.error fault) tree

theorem ensured_perform (path : Path) (tree : Tree) :
    Ensured path tree (perform (ensureDirectory path) tree).1
      (perform (ensureDirectory path) tree).2 := by
  simp only [ensureDirectory, perform_bind, perform_makeDirectory, settle]
  cases made : tree.makeDirectory path with
  | ok after =>
    obtain ⟨front, name, leads, short, free, rfl⟩ := makeDirectory_eq_ok made
    exact .made leads short free
  | error fault =>
    by_cases found : tree.find path = .ok .directory
    · rw [makeDirectory_of_find found] at made
      cases made
      simpa [perform_isDirectory_of_find found] using Ensured.stood found
    · cases fault with
      | occupied =>
        have other := mt (find_of_occupied made) found
        simpa [perform_isDirectory_of_read other] using Ensured.refused found .occupied
      | _ => exact .refused found _

/-- The way that steps lead is made: if that succeeds they lead somewhere, and if it fails they do
not, unless the file system does not take their path at all. -/
structure WayMade (absolute : Bool) (steps : List Step) (tree : Tree) (answer : Except Fault Unit)
    (after : Tree) : Prop where
  grown : Grown absolute steps tree after
  leads : answer = .ok () → ∃ reached, after.follow (after.start absolute) steps = .ok reached
  blocked : ∀ fault, answer = .error fault →
    (steps ≠ [] → (Path.ofParts absolute steps).Allowed) →
      ∀ reached, after.follow (after.start absolute) steps ≠ .ok reached

section WayMade

variable {absolute : Bool} {steps : List Step} {tree mid after : Tree} {answer : Except Fault Unit}

theorem WayMade.of_grown (grown : Grown absolute steps tree mid)
    (made : WayMade absolute steps mid answer after) : WayMade absolute steps tree answer after :=
  ⟨grown.trans made.grown, made.leads, made.blocked⟩

theorem WayMade.longer {fault : Fault} (made : WayMade absolute steps tree (.error fault) after)
    (plain : ∀ step ∈ steps, step.Plain) (more : List Step) :
    WayMade absolute (steps ++ more) tree (.error fault) after := by
  refine ⟨made.grown.longer more, (by simp), ?_⟩
  intro _ _ allowed reached followed
  rw [follow_append] at followed
  cases front : after.follow (after.start absolute) steps with
  | error fault =>
    rw [front] at followed
    cases followed
  | ok place =>
    refine made.blocked fault rfl (fun nonempty => ?_) place front
    exact (allowed (by simp [nonempty])).front plain nonempty

theorem Ensured.wayMade (plain : ∀ step ∈ steps, step.Plain) (nonempty : steps ≠ [])
    (ensured : Ensured (Path.ofParts absolute steps) tree answer after) :
    WayMade absolute steps tree answer after := by
  have read := Path.steps_ofParts absolute plain
  have root := Path.isAbsolute_ofParts absolute plain
  cases ensured with
  | @made front name leads short free =>
    obtain ⟨-, followed, last⟩ := goal_eq_ok.mp leads
    rw [read, root] at followed
    rw [read] at last
    -- The other steps led somewhere before, and the last one leads to the new directory.
    have cut : steps = steps.dropLast ++ [.down name] := by
      rw [List.getLast?_eq_some_getLast nonempty, Option.getD_some] at last
      change _ = Step.down name at last
      rw [← last, List.dropLast_append_getLast]
    have below : front ++ [name] ≠ [] := by simp
    have keeps : tree.Keeps (tree.put (front ++ [name]) .directory) :=
      keeps_put below (by simp [free])
    have whole : (tree.put (front ++ [name]) .directory).follow
        ((tree.put (front ++ [name]) .directory).start absolute) steps = .ok (front ++ [name]) := by
      rw [cut, follow_append, keeps.start, keeps.follow followed]
      exact follow_down.mpr ⟨⟨short, by simp [entry_put]⟩, rfl⟩
    exact ⟨.put below free nonempty whole, fun _ => ⟨_, whole⟩, fun _ failed => by contradiction⟩
  | stood found =>
    obtain ⟨-, reached, followed⟩ := find_eq_directory.mp found
    rw [read, root] at followed
    exact ⟨Grown.refl tree, fun _ => ⟨reached, followed⟩, fun _ failed => by contradiction⟩
  | refused none fault =>
    refine ⟨Grown.refl tree, fun succeeded => by contradiction, ?_⟩
    intro _ _ allowed reached followed
    apply none
    rw [find_eq_directory, read, root]
    exact ⟨allowed nonempty, reached, followed⟩

theorem wayMade_makeDirectories (absolute : Bool) {parts : List Step}
    (plain : ∀ step ∈ parts, step.Plain) (tree : Tree) :
    WayMade absolute parts.reverse tree (perform (makeDirectories absolute parts) tree).1
      (perform (makeDirectories absolute parts) tree).2 := by
  induction parts generalizing tree with
  | nil => exact ⟨Grown.refl tree, fun _ => ⟨_, rfl⟩, fun _ failed => by cases failed⟩
  | cons part above ih =>
    have plain' : ∀ step ∈ (part :: above).reverse, step.Plain :=
      fun step member => plain step (List.mem_reverse.mp member)
    have plainAbove : ∀ step ∈ above, step.Plain :=
      fun step member => plain step (List.mem_cons_of_mem part member)
    have one : ∀ tree, WayMade absolute (part :: above).reverse tree _ _ := fun tree =>
      (ensured_perform _ tree).wayMade plain' (by simp)
    have onward := ih plainAbove tree
    have last := ensured_perform (Path.ofParts absolute (part :: above).reverse) tree
    have whole := one tree
    rw [makeDirectories_cons, perform_bind]
    cases first :
      perform (ensureDirectory (Path.ofParts absolute (part :: above).reverse)) tree with
    | mk answer mid =>
      rw [first] at last whole
      cases answer with
      | ok done => exact whole
      | error fault =>
        cases fault with
        | missing =>
          -- Nothing has changed yet: the way above is made first, then this part is tried again.
          cases last
          simp only [perform_bind]
          cases second : perform (makeDirectories absolute above) mid with
          | mk answer higher =>
            rw [second] at onward
            cases answer with
            | ok done =>
              have longer := onward.grown.longer [part]
              rw [← List.reverse_cons] at longer
              exact (one higher).of_grown longer
            | error fault =>
              rw [List.reverse_cons]
              exact onward.longer (by simpa using plainAbove) [part]
        | _ => exact whole

end WayMade
end Tree
end ReferencePage
