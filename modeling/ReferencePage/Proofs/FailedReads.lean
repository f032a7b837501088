import ReferencePage.Proofs.Replacement

/-! What comes of reading a text.  The way to it breaks off at the first name that leads to no
directory, and what stands at that name, or does not, is what the reader is told. -/
namespace ReferencePage.Tree

/-- Why a name leads from a place to no directory. -/
inductive Blocks (tree : Tree) (place : Location) (name : Text) : Fault → Prop where
  | long (long : nameTooLong name = true) : Blocks tree place name .nameTooLong
  | free (short : nameTooLong name = false) (free : tree.entry? (place ++ [name]) = none) :
    Blocks tree place name .missing
  | file (short : nameTooLong name = false) {content : ByteArray}
    (file : tree.entry? (place ++ [name]) = some (.file content)) :
    Blocks tree place name .notDirectory

/-- The way that a path leads breaks off at one of its names.  A file is in the way only where
something follows behind its name, a slash at least. -/
structure BreaksOff (tree : Tree) (path : Path) (fault : Fault) : Prop where
  allowed : path.Allowed
  broken : ∃ front name back place, path.steps = front ++ .down name :: back ∧
    tree.follow (tree.start path.isAbsolute) front = .ok place ∧ tree.Blocks place name fault ∧
    (fault = .notDirectory → back = [] → path.endsWithSlash = true)

/-- Why there is no text to read at the end of a path, although something stands there or in the
way, or the path is none that the file system takes. -/
inductive Unreadable (tree : Tree) (path : Path) : Fault → Prop where
  | nul (held : '\x00' ∈ path.text) : Unreadable tree path .holdsNul
  | long (noNul : '\x00' ∉ path.text) (long : pathLimit ≤ path.text.byteLength) :
    Unreadable tree path .nameTooLong
  | blocked {fault : Fault} (breaks : tree.BreaksOff path fault) (other : fault ≠ .missing) :
    Unreadable tree path fault
  | directory (found : tree.find path = .ok .directory) : Unreadable tree path .isDirectory
  | binary {content : ByteArray} (found : tree.find path = .ok (.file content))
    (other : ∀ text : Text, content ≠ text.bytes) : Unreadable tree path .notText

/-- What comes of reading a text. -/
inductive Reads (tree : Tree) (path : Path) : Except Fault Text → Prop where
  | absent (breaks : tree.BreaksOff path .missing) : Reads tree path (.error .missing)
  | text {text : Text} (found : tree.find path = .ok (.file text.bytes)) :
    Reads tree path (.ok text)
  | unreadable {fault : Fault} (refuses : tree.Unreadable path fault) :
    Reads tree path (.error fault)

section

variable {tree : Tree} {place reached : Location} {name : Text} {steps front back : List Step}
  {path : Path} {fault : Fault} {answer : Except Fault Text}

theorem follow_of_blocks (blocks : tree.Blocks place name fault) :
    tree.follow place (.down name :: steps) = .error fault := by
  rw [follow]
  cases blocks with
  | long long => simp [child?, long]
  | free short free => simp [child?, short, free]
  | file short file => simp [child?, short, file]

theorem follow_eq_error : tree.follow place steps = .error fault ↔
    ∃ front name back reached, steps = front ++ .down name :: back ∧
      tree.follow place front = .ok reached ∧ tree.Blocks reached name fault := by
  constructor
  · intro failed
    induction steps generalizing place with
    | nil => cases failed
    | cons step steps ih =>
      cases step with
      | stay =>
        obtain ⟨front, name, back, reached, rfl, leads, blocks⟩ := ih failed
        exact ⟨.stay :: front, name, back, reached, rfl, leads, blocks⟩
      | up =>
        obtain ⟨front, name, back, reached, rfl, leads, blocks⟩ := ih failed
        exact ⟨.up :: front, name, back, reached, rfl, leads, blocks⟩
      | down name =>
        rw [follow] at failed
        split at failed
        · rename_i known
          cases failed
          unfold child? at known
          split at known
          · rename_i long
            cases known
            exact ⟨[], name, steps, place, rfl, rfl, .long long⟩
          · cases known
        · rename_i known
          cases failed
          obtain ⟨short, free⟩ := child?_eq_ok.mp known
          exact ⟨[], name, steps, place, rfl, rfl, .free short free⟩
        · rename_i known
          cases failed
          obtain ⟨short, file⟩ := child?_eq_ok.mp known
          exact ⟨[], name, steps, place, rfl, rfl, .file short file⟩
        · rename_i known
          obtain ⟨front, name', back, reached, rfl, leads, blocks⟩ := ih failed
          exact ⟨.down name :: front, name', back, reached, rfl,
            follow_down.mpr ⟨child?_eq_ok.mp known, leads⟩, blocks⟩
  · rintro ⟨front, name, back, reached, rfl, leads, blocks⟩
    rw [follow_append, leads]
    exact follow_of_blocks blocks

theorem goal_eq_error (allowed : path.Allowed) : tree.goal path = .error fault ↔
    tree.follow (tree.start path.isAbsolute) path.steps.dropLast = .error fault := by
  rw [Tree.goal, if_neg allowed.noNul, if_neg allowed.nonempty,
    if_neg (Nat.not_le.mpr allowed.short)]
  change Except.map _ (tree.follow (tree.start path.isAbsolute) _) = _ ↔ _
  cases tree.follow (tree.start path.isAbsolute) path.steps.dropLast <;> simp [Except.map]

theorem goal_of_last (allowed : path.Allowed) (cut : path.steps = front ++ [.down name])
    (leads : tree.follow (tree.start path.isAbsolute) front = .ok place) :
    tree.goal path = .ok ⟨place, .down name⟩ := by
  refine goal_eq_ok.mpr ⟨allowed, ?_, ?_⟩
  · rw [cut, List.dropLast_concat, leads]
  · rw [cut, List.getLast?_concat, Option.getD_some]

theorem find_of_breaksOff (breaks : tree.BreaksOff path fault) : tree.find path = .error fault := by
  obtain ⟨allowed, front, name, back, place, cut, leads, blocks, inWay⟩ := breaks
  rcases List.eq_nil_or_concat back with rfl | ⟨rest, last, rfl⟩
  · rw [find, goal_of_last allowed cut leads]
    cases blocks with
    | long long => simp [child?, long]
    | free short free => simp [child?, short, free]
    | file short file => simp [child?, short, file, inWay rfl rfl]
  · have goal : tree.goal path = .error fault := by
      rw [goal_eq_error allowed, follow_eq_error]
      refine ⟨front, name, rest, place, ?_, leads, blocks⟩
      rw [cut, List.concat_eq_append, ← List.cons_append, ← List.append_assoc, List.dropLast_concat]
    rw [find, goal]

theorem find_eq_error (allowed : path.Allowed) :
    tree.find path = .error fault ↔ tree.BreaksOff path fault := by
  refine ⟨fun refused => ?_, find_of_breaksOff⟩
  cases followed : tree.follow (tree.start path.isAbsolute) path.steps with
  | ok reached =>
    rw [find_eq_directory.mpr ⟨allowed, reached, followed⟩] at refused
    cases refused
  | error other =>
    obtain ⟨front, name, back, place, cut, leads, blocks⟩ := follow_eq_error.mp followed
    by_cases inWay : other = .notDirectory → back = [] → path.endsWithSlash = true
    · have breaks : tree.BreaksOff path other :=
        ⟨allowed, front, name, back, place, cut, leads, blocks, inWay⟩
      rw [find_of_breaksOff breaks] at refused
      cases refused
      exact breaks
    · -- The last name leads to a file, and no slash is behind it.
      obtain ⟨rfl, rfl, slash⟩ := by simpa using inWay
      cases blocks with
      | file short file =>
        have goal := goal_of_last allowed cut leads
        rw [find_eq_file.mpr ⟨place, name, goal, short, file, slash⟩] at refused
        cases refused

theorem utf8Decode?_eq_some {content : ByteArray} {chars : Array Char} :
    content.utf8Decode? = some chars ↔ content = Text.bytes chars.toList := by
  constructor
  · intro decoded
    have encoded := ByteArray.utf8Encode_get_utf8Decode? (b := content) (h := by simp [decoded])
    simp only [decoded, Option.get_some] at encoded
    exact encoded.symm
  · rintro rfl
    exact utf8Decode?_bytes chars.toList

theorem perform_readText_of_read (refused : tree.read path = .error fault) :
    (perform (readText path) tree).1 = .error fault := by
  simp [readText, refused]

theorem perform_readText_of_find {content : ByteArray}
    (found : tree.find path = .ok (.file content)) : (perform (readText path) tree).1 =
      match content.utf8Decode? with
      | none => .error .notText
      | some chars => .ok chars.toList := by
  have read : tree.read path = .ok content := by rw [read, found]
  simp only [readText, perform_bind, perform_read, read]
  cases content.utf8Decode? <;> rfl

theorem read_of_find_error (refused : tree.find path = .error fault) :
    tree.read path = .error fault := by
  rw [read, refused]

theorem Unreadable.ne_missing (refuses : tree.Unreadable path fault) : fault ≠ .missing := by
  cases refuses with
  | blocked breaks other => exact other
  | nul | long | directory | binary => simp

theorem Unreadable.perform (refuses : tree.Unreadable path fault) :
    (perform (readText path) tree).1 = .error fault := by
  cases refuses with
  | nul held =>
    apply perform_readText_of_read
    apply read_of_find_error
    simp [find, Tree.goal, held]
  | long noNul long =>
    apply perform_readText_of_read
    apply read_of_find_error
    have nonempty : path.text ≠ [] := by
      intro empty
      rw [empty] at long
      exact absurd long (by decide)
    simp [find, Tree.goal, noNul, nonempty, long]
  | blocked breaks other =>
    exact perform_readText_of_read (read_of_find_error (find_of_breaksOff breaks))
  | directory found => exact perform_readText_of_read (read_of_find found)
  | @binary content found other =>
    rw [perform_readText_of_find found]
    cases decoded : content.utf8Decode? with
    | none => rfl
    | some chars => exact absurd (utf8Decode?_eq_some.mp decoded) (other chars.toList)

theorem Reads.perform (reads : tree.Reads path answer) :
    (perform (readText path) tree).1 = answer := by
  cases reads with
  | absent breaks => exact perform_readText_of_read (read_of_find_error (find_of_breaksOff breaks))
  | text found => rw [perform_readText_of_find found, utf8Decode?_bytes]
  | unreadable refuses => exact refuses.perform

/- What only reads leaves the tree alone. -/
theorem perform_readText (tree : Tree) (path : Path) : (perform (readText path) tree).2 = tree := by
  simp only [readText, perform_bind, perform_read]
  split
  · rfl
  · split <;> rfl

theorem perform_load (tree : Tree) (path : Path) :
    (perform (Settings.load path) tree).2 = tree := by
  rw [Settings.load, perform_bind, perform_readText]
  split <;> rfl

theorem perform_sourceText_of_missing (breaks : tree.BreaksOff path .missing) :
    perform (sourceText path) tree = (.error (.fileNotFound path), tree) := by
  rw [sourceText, perform_bind, perform_readText, Reads.perform (.absent breaks)]
  rfl

theorem perform_sourceText_of_unreadable (refuses : tree.Unreadable path fault) :
    perform (sourceText path) tree = (.error (.unreadable path fault), tree) := by
  rw [sourceText, perform_bind, perform_readText, refuses.perform]
  cases fault with
  | missing => exact absurd rfl refuses.ne_missing
  | _ => rfl

/-- Every reading of a text comes to one of these, unless nothing is named to read. -/
theorem exists_reads (tree : Tree) (nonempty : path.text ≠ []) :
    ∃ answer, tree.Reads path answer := by
  by_cases nul : '\x00' ∈ path.text
  · exact ⟨_, .unreadable (.nul nul)⟩
  by_cases long : pathLimit ≤ path.text.byteLength
  · exact ⟨_, .unreadable (.long nul long)⟩
  have allowed : path.Allowed := ⟨nul, nonempty, Nat.lt_of_not_le long⟩
  cases found : tree.find path with
  | error fault =>
    have breaks := (find_eq_error allowed).mp found
    by_cases missing : fault = .missing
    · exact ⟨_, .absent (missing ▸ breaks)⟩
    · exact ⟨_, .unreadable (.blocked breaks missing)⟩
  | ok entry =>
    cases entry with
    | directory => exact ⟨_, .unreadable (.directory found)⟩
    | file content =>
      by_cases text : ∃ text : Text, content = text.bytes
      · obtain ⟨text, rfl⟩ := text
        exact ⟨_, .text found⟩
      · exact ⟨_, .unreadable (.binary found (not_exists.mp text))⟩

theorem read_eq_missing (nonempty : path.text ≠ []) :
    tree.read path = .error .missing ↔ tree.BreaksOff path .missing := by
  refine ⟨fun missing => ?_, fun breaks => read_of_find_error (find_of_breaksOff breaks)⟩
  have failed := perform_readText_of_read missing
  obtain ⟨answer, reads⟩ := exists_reads tree nonempty
  rw [reads.perform] at failed
  cases failed
  cases reads with
  | absent breaks => exact breaks
  | unreadable refuses => exact absurd rfl refuses.ne_missing

end
end ReferencePage.Tree
