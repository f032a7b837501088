import ReferencePage.Disk.Storage
import ReferencePage.Proofs.Spacing

/-! The parts of a path.  A path written from parts has these parts as its steps, so that the path
of a file's draft and the paths of its parent directories lead through the same steps as the file's
own path. -/
namespace ReferencePage

open Text

/-- A step that is read where its own text stands between slashes. -/
structure Step.Plain (step : Step) : Prop where
  readsBack : Step.ofSegment? step.text = some step
  noSlash : '/' ∉ step.text

namespace Step

theorem text_of_ofSegment? {segment : Text} {step : Step}
    (read : ofSegment? segment = some step) : step.text = segment := by
  unfold ofSegment? at read
  split at read
  · contradiction
  · split at read
    · cases read
      exact Eq.symm ‹_›
    · split at read
      · cases read
        exact Eq.symm ‹_›
      · cases read
        rfl

theorem plain_stay : Plain .stay := ⟨by decide, by decide⟩

theorem Plain.text_ne_nil {step : Step} (plain : step.Plain) : step.text ≠ [] := by
  intro empty
  have read := plain.readsBack
  rw [empty] at read
  contradiction

/- Only names of one or two characters are read as something else. -/
theorem plain_of_long {name : Text} (long : 2 < name.length) (slashless : '/' ∉ name) :
    Plain (.down name) := by
  have apart : ∀ short : Text, short.length ≤ 2 → name ≠ short := by
    intro short less same
    rw [same] at long
    omega
  exact ⟨by simp [ofSegment?, text, apart], slashless⟩

theorem Plain.draft {name : Text} (plain : Plain (.down name)) :
    Plain (.down (draftName name)) := by
  have noSlash : '/' ∉ name := plain.noSlash
  apply plain_of_long
  · simp [draftName]
  · simpa [draftName] using noSlash

end Step

section Join

variable (separator : Text) {w : Text} {ws : List Text}

theorem join_concat (nonempty : ws ≠ []) :
    join separator (ws ++ [w]) = join separator ws ++ (separator ++ w) := by
  induction ws with
  | nil => contradiction
  | cons v ws ih =>
    cases ws with
    | nil => simp [join_cons_cons]
    | cons u ws => simpa [join_cons_cons] using ih (by simp)

theorem prefix_join (vs : List Text) : join separator ws <+: join separator (ws ++ vs) := by
  induction ws with
  | nil => exact List.nil_prefix
  | cons w ws ih =>
    cases ws with
    | nil =>
      cases vs with
      | nil => exact List.prefix_rfl
      | cons v vs => simp [join_cons_cons]
    | cons v ws => simpa [join_cons_cons] using ih

end Join

namespace Path

theorem plain_of_mem_steps {path : Path} {step : Step} (member : step ∈ path.steps) :
    step.Plain := by
  obtain ⟨segment, cut, read⟩ := List.mem_filterMap.mp member
  have text := Step.text_of_ofSegment? read
  exact ⟨text.symm ▸ read, text.symm ▸ not_mem_of_mem_splitOn cut⟩

theorem plain_of_mem_parts {path : Path} {step : Step} (member : step ∈ path.parts) :
    step.Plain := by
  unfold parts at member
  dsimp only at member
  split at member
  · rcases List.mem_cons.mp member with rfl | member
    · exact Step.plain_stay
    · exact plain_of_mem_steps (List.mem_of_mem_filter member)
  · exact plain_of_mem_steps (List.mem_of_mem_filter member)

section OfParts

variable {absolute : Bool} {parts : List Step}

def written (parts : List Step) : Text := Text.join ['/'] (parts.map Step.text)

theorem text_ofParts (absolute : Bool) (parts : List Step) :
    (ofParts absolute parts).text = (if absolute then ['/'] else []) ++ written parts := rfl

theorem steps_written (plain : ∀ step ∈ parts, step.Plain) :
    ((written parts).splitOn '/').filterMap Step.ofSegment? = parts := by
  by_cases empty : parts = []
  · simp [empty, written, Text.join, Step.ofSegment?]
  · have cut : (written parts).splitOn '/' = parts.map Step.text := by
      apply List.splitOn_intercalate
      · intro text member
        obtain ⟨step, known, rfl⟩ := List.mem_map.mp member
        exact (plain step known).noSlash
      · simpa using empty
    calc ((written parts).splitOn '/').filterMap Step.ofSegment?
        = parts.filterMap (Step.ofSegment? ∘ Step.text) := by rw [cut, List.filterMap_map]
      _ = parts.filterMap some :=
        List.filterMap_congr fun step member => (plain step member).readsBack
      _ = parts := List.filterMap_some

theorem steps_ofParts (absolute : Bool) (plain : ∀ step ∈ parts, step.Plain) :
    (ofParts absolute parts).steps = parts := by
  rw [steps, text_ofParts]
  cases absolute with
  | false => simpa using steps_written plain
  | true => simpa [List.splitOn_cons_eq_if_modifyHead, Step.ofSegment?] using steps_written plain

theorem text_ofParts_ne_nil (absolute : Bool) (plain : ∀ step ∈ parts, step.Plain)
    (nonempty : parts ≠ []) :
    (ofParts absolute parts).text ≠ [] := by
  intro empty
  have read := steps_ofParts absolute plain
  rw [steps, empty] at read
  exact nonempty read.symm

theorem head?_written {step : Step} {rest : List Step} (plain : step.Plain) :
    (written (step :: rest)).head? = step.text.head? := by
  obtain ⟨c, t, text⟩ := List.exists_cons_of_ne_nil plain.text_ne_nil
  simp [written, Text.join, text, List.intercalate_cons_cons_left]

theorem isAbsolute_ofParts (absolute : Bool) (plain : ∀ step ∈ parts, step.Plain) :
    (ofParts absolute parts).isAbsolute = absolute := by
  rw [isAbsolute, text_ofParts]
  cases absolute with
  | true => simp
  | false =>
    cases parts with
    | nil => simp [written, Text.join]
    | cons step rest =>
      have first := plain step List.mem_cons_self
      simp only [Bool.false_eq_true, if_false, List.nil_append, head?_written first,
        decide_eq_false_iff_not]
      exact fun slash => first.noSlash (List.mem_of_head? slash)

theorem written_concat {step : Step} (nonempty : parts ≠ []) :
    written (parts ++ [step]) = written parts ++ '/' :: step.text := by
  have mapped : parts.map Step.text ≠ [] := by simpa using nonempty
  simp [written, join_concat, mapped]

theorem endsWithSlash_ofParts (plain : ∀ step ∈ parts, step.Plain) (nonempty : parts ≠ []) :
    (ofParts absolute parts).endsWithSlash = false := by
  obtain ⟨front, step, rfl⟩ := (List.eq_nil_or_concat' parts).resolve_left nonempty
  have final := plain step (by simp)
  obtain ⟨t, c, text⟩ := (List.eq_nil_or_concat' step.text).resolve_left final.text_ne_nil
  have ends : (ofParts absolute (front ++ [step])).text.getLast? = some c := by
    rw [text_ofParts]
    by_cases first : front = []
    · simp [first, written, text]
    · simp [written_concat first, text, List.getLast?_cons]
  rw [endsWithSlash, ends, decide_eq_false_iff_not, Option.some_inj]
  intro slash
  apply final.noSlash
  simp [text, slash]

theorem join_ofParts {name : Text} (plain : ∀ step ∈ parts, step.Plain) (slashless : '/' ∉ name) :
    (ofParts absolute parts).join ⟨name⟩ = ofParts absolute (parts ++ [.down name]) := by
  have relative : (Path.mk name).isAbsolute = false :=
    decide_eq_false fun slash => slashless (List.mem_of_head? slash)
  by_cases none : parts = []
  · cases absolute <;>
      simp [none, Path.join, relative, ofParts, Text.join, endsWithSlash, Step.text]
  · have nonempty := text_ofParts_ne_nil absolute plain none
    have below : (ofParts absolute parts).join ⟨name⟩ =
        ⟨(ofParts absolute parts).text ++ '/' :: name⟩ := by
      simp [Path.join, endsWithSlash_ofParts plain none, relative, nonempty]
    rw [below, Path.mk.injEq, text_ofParts, text_ofParts, written_concat none, List.append_assoc]
    rfl

end OfParts

theorem parts_eq {path : Path} {name : Text} (named : path.fileName? = some name) :
    path.parts = path.parts.dropLast ++ [.down name] := by
  obtain ⟨step, last, read⟩ := Option.bind_eq_some_iff.mp named
  obtain ⟨front, cut⟩ := List.getLast?_eq_some_iff.mp last
  cases step with
  | stay => contradiction
  | up => contradiction
  | down other =>
    cases read
    rw [cut, List.dropLast_concat]

theorem plain_of_fileName? {path : Path} {name : Text} (named : path.fileName? = some name) :
    Step.Plain (.down name) := by
  have member : Step.down name ∈ path.parts := by
    rw [parts_eq named]
    simp
  exact plain_of_mem_parts member

section Draft

variable {path : Path} {name : Text} (named : path.fileName? = some name)

include named in
theorem plain_of_mem_draft :
    ∀ step ∈ path.parts.dropLast ++ [.down (draftName name)], step.Plain := by
  intro step member
  rcases List.mem_append.mp member with member | member
  · exact plain_of_mem_parts (List.dropLast_subset _ member)
  · rw [List.mem_singleton.mp member]
    exact (plain_of_fileName? named).draft

include named in
theorem draftPath_eq : draftPath path =
    ofParts path.isAbsolute (path.parts.dropLast ++ [.down (draftName name)]) := by
  have nonempty : path.parts ≠ [] := by
    rw [parts_eq named]
    simp
  have beside : draftPath path =
      (ofParts path.isAbsolute path.parts.dropLast).join ⟨draftName name⟩ := by
    simp [draftPath, withFileName, named, parent?, nonempty]
  rw [beside, join_ofParts]
  · intro step member
    exact plain_of_mem_draft named step (List.mem_append_left _ member)
  · exact (plain_of_fileName? named).draft.noSlash

include named in
theorem steps_draftPath :
    (draftPath path).steps = path.parts.dropLast ++ [.down (draftName name)] := by
  rw [draftPath_eq named, steps_ofParts _ (plain_of_mem_draft named)]

include named in
theorem isAbsolute_draftPath : (draftPath path).isAbsolute = path.isAbsolute := by
  rw [draftPath_eq named, isAbsolute_ofParts _ (plain_of_mem_draft named)]

end Draft

/-- A path whose last step is a name has this name, and its other parts are its other steps but for
those that stay. -/
theorem parts_of_getLast?_steps {path : Path} {name : Text}
    (last : path.steps.getLast? = some (.down name)) :
    path.fileName? = some name ∧
      path.parts.dropLast.filter (fun step => !isStay step) =
        path.steps.dropLast.filter fun step => !isStay step := by
  obtain ⟨front, cut⟩ := List.getLast?_eq_some_iff.mp last
  have moves : path.steps.filter (fun step => !isStay step) =
      front.filter (fun step => !isStay step) ++ [.down name] := by
    simp [cut, isStay]
  have parts : ∃ stays, (∀ step ∈ stays, isStay step = true) ∧ path.parts =
      stays ++ (front.filter (fun step => !isStay step) ++ [.down name]) := by
    rw [Path.parts, moves]
    split
    · exact ⟨[.stay], by simp [isStay], rfl⟩
    · exact ⟨[], by simp, rfl⟩
  obtain ⟨stays, stay, parts⟩ := parts
  rw [← List.append_assoc] at parts
  constructor
  · simp [fileName?, parts, Step.name?]
  · have none : stays.filter (fun step => !isStay step) = [] := by
      simpa using stay
    rw [parts, List.dropLast_concat, cut, List.dropLast_concat, List.filter_append, none,
      List.filter_filter]
    simp

/-- The file system takes such a path and looks where it leads. -/
structure Allowed (path : Path) : Prop where
  noNul : '\x00' ∉ path.text
  nonempty : path.text ≠ []
  short : path.text.byteLength < Tree.pathLimit

theorem Allowed.front {absolute : Bool} {front back : List Step}
    (allowed : (ofParts absolute (front ++ back)).Allowed)
    (plain : ∀ step ∈ front, step.Plain) (nonempty : front ≠ []) :
    (ofParts absolute front).Allowed := by
  obtain ⟨rest, cut⟩ :
      (ofParts absolute front).text <+: (ofParts absolute (front ++ back)).text := by
    rw [text_ofParts, text_ofParts, written, written, List.map_append]
    exact (List.prefix_append_right_inj _).mpr (prefix_join _ _)
  obtain ⟨noNul, -, short⟩ := allowed
  rw [← cut] at noNul short
  rw [byteLength_append] at short
  exact ⟨fun nul => noNul (List.mem_append_left rest nul), text_ofParts_ne_nil _ plain nonempty,
    by omega⟩

end Path
end ReferencePage
