import ReferencePage.Run.Files
import ReferencePage.Proofs.Drafts

/-! A file's content is replaced as a whole, or the file stays as it is.  A file where its draft is
written is lost in either case.  No other entry is, and other new ones are directories above it. -/
namespace ReferencePage

def Text.bytes (content : Text) : ByteArray := (String.ofList content).toUTF8

namespace Tree

/-- What comes of replacing a file, request by request. -/
inductive Stored (path : Path) (content : Text) (tree : Tree) :
    Except Fault Unit → Tree → Prop where
  | unreached {fault : Fault} {mid : Tree}
    (way : WayMade path.isAbsolute path.parts.dropLast tree (.error fault) mid) :
    Stored path content tree (.error fault) mid
  | unwritten {fault : Fault} {mid : Tree}
    (way : WayMade path.isAbsolute path.parts.dropLast tree (.ok ()) mid)
    (refused : mid.write (draftPath path) content.bytes = .error fault) :
    Stored path content tree (.error fault) (mid.cleared (draftPath path))
  | unmoved {fault : Fault} {mid drafted : Tree}
    (way : WayMade path.isAbsolute path.parts.dropLast tree (.ok ()) mid)
    (written : mid.write (draftPath path) content.bytes = .ok drafted)
    (refused : drafted.move (draftPath path) path = .error fault) :
    Stored path content tree (.error fault) (drafted.cleared (draftPath path))
  | moved {mid drafted after : Tree}
    (way : WayMade path.isAbsolute path.parts.dropLast tree (.ok ()) mid)
    (written : mid.write (draftPath path) content.bytes = .ok drafted)
    (moved : drafted.move (draftPath path) path = .ok after) :
    Stored path content tree (.ok ()) after

section Stored

variable (path : Path) (content : Text) (tree : Tree)

theorem wayMade_makeParents : WayMade path.isAbsolute path.parts.dropLast tree
    (perform (makeParents path) tree).1 (perform (makeParents path) tree).2 := by
  have plain : ∀ step ∈ path.parts.dropLast.reverse, step.Plain := fun step member =>
    Path.plain_of_mem_parts (List.dropLast_subset _ (List.mem_reverse.mp member))
  have way := wayMade_makeDirectories path.isAbsolute plain tree
  rwa [List.reverse_reverse] at way

theorem stored_perform : Stored path content tree
    (perform (replaceFile path content) tree).1 (perform (replaceFile path content) tree).2 := by
  have way := wayMade_makeParents path tree
  rw [replaceFile, perform_bind]
  cases made : perform (makeParents path) tree with
  | mk answer mid =>
    rw [made] at way
    cases answer with
    | error fault => exact .unreached way
    | ok done =>
      simp only [perform_bind]
      cases written : mid.write (draftPath path) (String.ofList content).toUTF8 with
      | error fault =>
        rw [perform_write_error written]
        exact .unwritten way written
      | ok drafted =>
        rw [perform_write_ok written]
        simp only [perform_bind]
        cases moved : drafted.move (draftPath path) path with
        | error fault =>
          rw [perform_move_error moved]
          exact .unmoved way written moved
        | ok after =>
          rw [perform_move_ok moved]
          exact .moved way written moved

end Stored

/-- The directories that the text of a path leads through on the way to its file. -/
def Above (tree : Tree) (path : Path) (place : Location) : Prop :=
  ∃ front, front ≠ [] ∧ front <+: path.parts.dropLast ∧
    tree.follow (tree.start path.isAbsolute) front = .ok place

/-- The file has its content and all of it, and its draft is gone.  Other entries are kept, and
other new ones are directories above the file. -/
structure Replaced (path : Path) (content : Text) (tree after : Tree) : Prop where
  holds : after.find path = .ok (.file content.bytes)
  read : perform (sourceText path) after = (.ok content, after)
  noDraft : after.find (draftPath path) = .error .missing
  kept : ∀ place entry, after.place? path ≠ some place →
    after.place? (draftPath path) ≠ some place → tree.entry? place = some entry →
      after.entry? place = some entry
  new : ∀ place entry, after.place? path ≠ some place → tree.entry? place = none →
    after.entry? place = some entry → entry = .directory ∧ Above after path place

/-- What stood at the path stands there, and no file is left for a draft.  Other entries are kept,
and new ones are directories above the path; unless the path goes up, none is at the path's own
place or below it. -/
structure Refused (path : Path) (tree after : Tree) : Prop where
  stands : ∀ entry, tree.find path = .ok entry → after.find path = .ok entry
  inside : .up ∉ path.parts → ∀ place rest, after.place? path = some place →
    after.entry? (place ++ rest) = tree.entry? (place ++ rest)
  noDraft : ∀ content, after.find (draftPath path) ≠ .ok (.file content)
  kept : ∀ place entry, after.place? (draftPath path) ≠ some place →
    tree.entry? place = some entry → after.entry? place = some entry
  new : ∀ place entry, tree.entry? place = none → after.entry? place = some entry →
    entry = .directory ∧ Above after path place

/-- What writing a file may come to: it is written as a whole, or not at all. -/
structure AllOrNothing (path : Path) (content : Text) (tree : Tree) (answer : Except Failure Unit)
    (after : Tree) : Prop where
  replaced : answer.toOption = some () → Replaced path content tree after
  refused : answer.toOption = none → Refused path tree after

section Outcomes

variable {path : Path} {content : Text} {name : Text} {tree mid after : Tree}
  {answer : Except Fault Unit} {fault : Fault} {place : Location} {entry : Entry}

theorem utf8Decode?_bytes (content : Text) : content.bytes.utf8Decode? = some content.toArray :=
  List.utf8Decode?_utf8Encode

theorem perform_sourceText_of_find (found : tree.find path = .ok (.file content.bytes)) :
    perform (sourceText path) tree = (.ok content, tree) := by
  have read : tree.read path = .ok content.bytes := by rw [read, found]
  simp [sourceText, readText, read, utf8Decode?_bytes]

/-- Whatever comes of it, the way to the file may be made first, and then the entries at the path
and at its draft may change. -/
theorem Stored.grown_near (stored : Stored path content tree answer after) :
    ∃ mid, Grown path.isAbsolute path.parts.dropLast tree mid ∧
      Near [draftPath path, path] mid after := by
  cases stored with
  | unreached way => exact ⟨after, way.grown, .refl after⟩
  | unwritten way => exact ⟨_, way.grown, (near_cleared _ _).mono (by simp)⟩
  | unmoved way written =>
    exact ⟨_, way.grown, ((near_write written).trans (near_cleared _ _)).mono (by simp)⟩
  | moved way written moved =>
    exact ⟨_, way.grown, ((near_write written).mono (by simp)).trans (near_move moved)⟩

theorem Stored.kept (stored : Stored path content tree answer after)
    (apart : after.place? path ≠ some place) (apart' : after.place? (draftPath path) ≠ some place)
    (known : tree.entry? place = some entry) : after.entry? place = some entry := by
  obtain ⟨mid, grown, near⟩ := stored.grown_near
  rw [near.apart place (by simp [apart, apart'])]
  exact grown.kept place entry known

theorem Above.of_keeps (keeps : tree.Keeps after) (above : Above tree path place) :
    Above after path place := by
  obtain ⟨front, nonempty, within, leads⟩ := above
  refine ⟨front, nonempty, within, ?_⟩
  rw [keeps.start]
  exact keeps.follow leads

theorem Stored.replaced (stored : Stored path content tree (.ok ()) after) :
    Replaced path content tree after := by
  obtain ⟨mid, grown, near⟩ := stored.grown_near
  have kept : ∀ place entry, after.place? path ≠ some place →
      after.place? (draftPath path) ≠ some place → tree.entry? place = some entry →
        after.entry? place = some entry := fun _ _ => stored.kept
  cases stored with
  | moved way written moved =>
    obtain ⟨_, _, front, name, _, -, leads, -⟩ := move_eq_ok moved
    have leads := place?_of_goal leads
    obtain ⟨_, _, named, -⟩ := parts_of_place? leads
    -- The draft has another name than the file, so that moving it does change the tree.
    have apart := draft_apart named leads []
    rw [List.append_nil, ← leads] at apart
    obtain ⟨holds, noDraft⟩ := find_move (find_write written) moved apart
    refine ⟨holds, perform_sourceText_of_find holds, noDraft, kept, ?_⟩
    intro place entry apart free found
    have apart' : after.place? (draftPath path) ≠ some place := by
      intro leads
      rw [entry_of_missing noDraft leads] at found
      contradiction
    rw [near.apart place (by simp [apart, apart'])] at found
    obtain ⟨directory, above⟩ := grown.new place entry free found
    exact ⟨directory, .of_keeps near.keeps above⟩

theorem Stored.grown_of_error (stored : Stored path content tree (.error fault) after) :
    ∃ mid, Grown path.isAbsolute path.parts.dropLast tree mid ∧ Near [draftPath path] mid after ∧
      ∀ place entry, after.entry? place = some entry → mid.entry? place = some entry := by
  cases stored with
  | unreached way => exact ⟨after, way.grown, .refl after, fun _ _ known => known⟩
  | unwritten way => exact ⟨_, way.grown, near_cleared _ _, fun _ _ => entry_of_cleared⟩
  | unmoved way written =>
    exact ⟨_, way.grown, (near_write written).trans (near_cleared _ _),
      fun _ _ => entry_of_cleared_write written⟩

section Named

variable (named : path.fileName? = some name)

include named in
theorem find_draft_of_blocked
    (way : WayMade path.isAbsolute path.parts.dropLast tree (.error fault) mid) {old : ByteArray} :
    mid.find (draftPath path) ≠ .ok (.file old) := by
  intro found
  obtain ⟨place, leads, -⟩ := place?_of_find found
  obtain ⟨front, -, followed⟩ := follow_of_draft named leads
  obtain ⟨_, _, goal, -⟩ := place?_eq_some.mp leads
  have allowed := (goal_eq_ok.mp goal).1
  rw [Path.draftPath_eq named] at allowed
  refine way.blocked fault rfl (fun nonempty => allowed.front ?_ nonempty) front followed
  exact fun step member => Path.plain_of_mem_parts (List.dropLast_subset _ member)

theorem Above.length_lt (level : .up ∉ path.parts) {other : Location}
    (above : Above tree path other) (leads : tree.place? path = some place) :
    other.length < place.length := by
  obtain ⟨front, -, within, led⟩ := above
  obtain ⟨around, last, -, rfl, followed⟩ := parts_of_place? leads
  have level' : .up ∉ path.parts.dropLast := fun member => level (List.dropLast_subset _ member)
  rw [follow_names (fun member => level' (within.subset member)) led, follow_names level' followed]
  have fewer := (within.sublist.filterMap Step.name?).length_le
  simp only [List.length_append, List.length_singleton]
  omega

include named in
theorem Stored.refused (stored : Stored path content tree (.error fault) after) :
    Refused path tree after := by
  obtain ⟨mid, grown, near, within⟩ := stored.grown_of_error
  have kept : ∀ place entry, after.place? (draftPath path) ≠ some place →
      tree.entry? place = some entry → after.entry? place = some entry := by
    intro place entry apart known
    rw [near.apart place (by simpa using apart)]
    exact grown.kept place entry known
  have new : ∀ place entry, tree.entry? place = none → after.entry? place = some entry →
      entry = .directory ∧ Above after path place := by
    intro place entry free found
    obtain ⟨directory, above⟩ := grown.new place entry free (within place entry found)
    exact ⟨directory, .of_keeps near.keeps above⟩
  have same : ∀ place rest, after.place? path = some place →
      ∀ entry, tree.entry? (place ++ rest) = some entry →
        after.entry? (place ++ rest) = some entry :=
    fun place rest leads entry => kept (place ++ rest) entry (draft_apart named leads rest)
  have keeps := grown.keeps.trans near.keeps
  refine ⟨?stands, ?inside, ?noDraft, kept, new⟩
  case stands =>
    intro entry found
    cases entry with
    | directory => exact keeps.find_directory found
    | file old =>
      obtain ⟨place, leads, file⟩ := place?_of_find found
      refine keeps.find_file found fun other leads' => ?_
      rw [leads] at leads'
      cases leads'
      rw [file]
      simpa using same place [] (keeps.place? leads) _ (by simpa using file)
  case inside =>
    intro level place rest leads
    cases before : tree.entry? (place ++ rest) with
    | some entry => exact same place rest leads entry before
    | none =>
      cases found : after.entry? (place ++ rest) with
      | none => rfl
      | some entry =>
        -- A new entry is a directory above the path, which is too short to be inside.
        obtain ⟨-, above⟩ := new _ entry before found
        have fewer := above.length_lt level leads
        rw [List.length_append] at fewer
        omega
  case noDraft =>
    intro old
    cases stored with
    | unreached way => exact find_draft_of_blocked named way
    | unwritten way => exact find_cleared
    | unmoved way => exact find_cleared

end Named

end Outcomes

section Page

variable (tree : Tree) (path : Path) (page : Text)

theorem perform_writePage : perform (writePage path page) tree =
    ((perform (replaceFile path page) tree).1.mapError (.unwritable path),
      (perform (replaceFile path page) tree).2) := by
  rw [writePage, perform_bind]
  cases (perform (replaceFile path page) tree).1 with
  | ok done => rfl
  | error fault => rfl

end Page
end Tree

section WritePage

open ReferencePage.Tree

variable (tree : Tree) (path : Path) (page : Text)

theorem writePage_replaced (wrote : (perform (writePage path page) tree).1.toOption = some ()) :
    Replaced path page tree (perform (writePage path page) tree).2 := by
  have stored := stored_perform path page tree
  rw [perform_writePage] at wrote ⊢
  cases known : (perform (replaceFile path page) tree).1 with
  | ok done =>
    rw [known] at stored
    exact stored.replaced
  | error fault =>
    rw [known] at wrote
    contradiction

theorem writePage_refused {name : Text} (named : path.fileName? = some name)
    (failed : (perform (writePage path page) tree).1.toOption = none) :
    Refused path tree (perform (writePage path page) tree).2 := by
  have stored := stored_perform path page tree
  rw [perform_writePage] at failed ⊢
  cases known : (perform (replaceFile path page) tree).1 with
  | ok done =>
    rw [known] at failed
    contradiction
  | error fault =>
    rw [known] at stored
    exact stored.refused named

/-- Writing a page gives its file all of the content, or it is refused and leaves there what stood
there. -/
theorem writePage_allOrNothing {name : Text} (named : path.fileName? = some name) :
    AllOrNothing path page tree (perform (writePage path page) tree).1
      (perform (writePage path page) tree).2 :=
  ⟨writePage_replaced tree path page, writePage_refused tree path page named⟩

def olderPage : Tree := ⟨[], [([['a']], .file (Text.bytes ['o']))]⟩
def takenName : Tree := ⟨[], [([['a']], .directory), ([['a'], ['b']], .directory)]⟩

theorem writePage_allOrNothing_olderPage_takenName :
    Replaced ⟨['a']⟩ ['n'] olderPage (perform (writePage ⟨['a']⟩ ['n']) olderPage).2 ∧
      Refused ⟨['a']⟩ takenName (perform (writePage ⟨['a']⟩ ['n']) takenName).2 := by
  have named : Path.fileName? ⟨['a']⟩ = some ['a'] := by decide
  exact ⟨(writePage_allOrNothing olderPage _ ['n'] named).replaced (by decide),
    (writePage_allOrNothing takenName _ ['n'] named).refused (by decide)⟩

/-- A path that goes up may come back to a directory that is made for it: nothing stood there
before, and nothing is written there. -/
theorem not_writePage_allOrNothing :
    ¬ ∀ (tree : Tree) (path : Path) (page name : Text), path.fileName? = some name →
      (perform (writePage path page) tree).1.toOption = none →
        (tree.find path).toOption = none →
          ((perform (writePage path page) tree).2.find path).toOption = none := by
  intro always
  have free := always ⟨[], []⟩ ⟨"x/../x".toList⟩ ['n'] ['x'] (by decide) (by decide)
    (by decide)
  have made : ((perform (writePage ⟨"x/../x".toList⟩ ['n']) ⟨[], []⟩).2.find
      ⟨"x/../x".toList⟩).toOption.isSome := by decide
  rw [free] at made
  contradiction

/-- Writing a page harms no entry but the one that it replaces and the one at its draft. -/
theorem writePage_kept {after : Tree} {place : Location} {entry : Entry}
    (ran : (perform (writePage path page) tree).2 = after) (known : tree.entry? place = some entry)
    (apart : after.place? path ≠ some place) (apart' : after.place? (draftPath path) ≠ some place) :
    after.entry? place = some entry := by
  have stored := stored_perform path page tree
  rw [perform_writePage] at ran
  rw [ran] at stored
  exact stored.kept apart apart' known

theorem writePage_kept_olderPage :
    Tree.entry? (perform (writePage ⟨['b']⟩ ['n']) olderPage).2 [['a']] =
      some (.file (Text.bytes ['o'])) :=
  writePage_kept olderPage ⟨['b']⟩ ['n'] rfl rfl (by decide) (by decide +kernel)

def takenDraft : Tree := ⟨[], [([draftName ['a']], .file (Text.bytes ['o']))]⟩

theorem not_writePage_kept :
    ¬ ∀ (tree after : Tree) (path : Path) (page : Text) (place : Location) (content : ByteArray),
      (perform (writePage path page) tree).2 = after → tree.entry? place = some (.file content) →
        after.place? path ≠ some place → after.entry? place = some (.file content) := by
  intro always
  have kept := always takenDraft _ ⟨['a']⟩ ['n'] [draftName ['a']] (Text.bytes ['o']) rfl rfl
    (by decide)
  have lost : (Tree.entry? (perform (writePage ⟨['a']⟩ ['n']) takenDraft).2
      [draftName ['a']]).isNone := by
    decide
  rw [kept] at lost
  contradiction

end WritePage
end ReferencePage
