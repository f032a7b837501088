import Mathlib.Data.List.Basic
import ReferencePage.Proofs.RunOutcome

/-! A run leaves alone what it reads.  The page and its draft go by names that neither the source
nor the settings can have, by whatever rule the source's name is cut, so that no request of a run
changes the entry of either. -/
namespace ReferencePage

open Text

namespace Path

theorem stem_cut (name : Text) :
    stem name = name ∨ ∃ extension, name = stem name ++ '.' :: extension := by
  unfold stem
  split
  · exact .inl rfl
  · rename_i c before kept
    obtain rfl : c = '.' := by
      have first := List.head?_dropWhile_not (fun c => decide (c ≠ '.')) name.reverse
      rw [kept] at first
      simpa using first
    split
    · exact .inl rfl
    · refine .inr ⟨(name.reverse.takeWhile (· ≠ '.')).reverse, ?_⟩
      have whole : name.reverse = name.reverse.takeWhile (· ≠ '.') ++ '.' :: before := by
        rw [← kept, List.takeWhile_append_dropWhile]
      simpa using congrArg List.reverse whole

theorem stem_append_ne {name more : Text} (nonempty : more ≠ []) (dotless : more.head? ≠ some '.') :
    stem name ++ more ≠ name := by
  intro same
  rcases stem_cut name with whole | ⟨extension, cut⟩
  · rw [whole] at same
    exact nonempty (List.append_right_eq_self.mp same)
  · have tail : more = '.' :: extension := List.append_cancel_left (same.trans cut)
    exact dotless (by rw [tail, List.head?_cons])

theorem slash_not_mem_stem {name : Text} (slashless : '/' ∉ name) : '/' ∉ stem name := by
  rcases stem_cut name with whole | ⟨extension, cut⟩
  · rwa [whole]
  · intro member
    apply slashless
    rw [cut]
    exact List.mem_append_left _ member

theorem slash_not_mem_pageName (source : Path) : '/' ∉ source.pageName := by
  have suffix : '/' ∉ "_documentation.md".toList := by decide
  have stem : '/' ∉ source.fileStem?.getD [] := by
    cases named : source.fileName? with
    | none => simp [fileStem?, named]
    | some name =>
      rw [fileStem?, named]
      exact slash_not_mem_stem (plain_of_fileName? named).noSlash
  rw [pageName, List.mem_append, not_or]
  exact ⟨stem, suffix⟩

theorem plain_pageName (source : Path) : Step.Plain (.down source.pageName) := by
  refine Step.plain_of_long ?_ (slash_not_mem_pageName source)
  have suffix : 2 < "_documentation.md".toList.length := by decide
  rw [pageName, List.length_append]
  omega

theorem fileName?_join (path : Path) {name : Text} (plain : Step.Plain (.down name)) :
    (path.join ⟨name⟩).fileName? = some name := by
  have alone : (name.splitOn '/').filterMap Step.ofSegment? = [.down name] := by
    have one : ∀ step ∈ [Step.down name], step.Plain := by simpa using plain
    simpa [written, Text.join, Step.text] using steps_written one
  have last : (path.join ⟨name⟩).steps.getLast? = some (.down name) := by
    have below : (path.join ⟨name⟩).text = name ∨
        ∃ front, (path.join ⟨name⟩).text = front ++ '/' :: name := by
      unfold Path.join
      split
      · exact .inl rfl
      · split
        · rename_i slash
          obtain ⟨front, cut⟩ := List.getLast?_eq_some_iff.mp (of_decide_eq_true slash)
          exact .inr ⟨front, by simp [cut]⟩
        · exact .inr ⟨path.text, rfl⟩
    rcases below with same | ⟨front, cut⟩
    · rw [steps, same, alone]
      rfl
    · rw [steps, cut, List.splitOn, List.splitOnP_append_cons front name (by simp),
        List.filterMap_append, ← List.splitOn, ← List.splitOn, alone, List.getLast?_concat]
  exact (parts_of_getLast?_steps last).1

/-- The names that a run for a source writes to: that of the page, and that of its draft. -/
def writtenNames (source : Path) : List Text := [source.pageName, draftName source.pageName]

variable {source : Path} {name : Text}

theorem not_mem_writtenNames (named : source.fileName? = some name) :
    name ∉ source.writtenNames := by
  have page : source.pageName = stem name ++ "_documentation.md".toList := by
    simp [pageName, fileStem?, named]
  have draft : draftName source.pageName = stem name ++ "_documentation.md.tmp".toList := by
    rw [draftName, page, List.append_assoc]
    rfl
  simp only [writtenNames, List.mem_cons, List.not_mem_nil, or_false, not_or]
  constructor
  · rw [page]
    exact Ne.symm (stem_append_ne (by decide) (by decide))
  · rw [draft]
    exact Ne.symm (stem_append_ne (by decide) (by decide))

/-- The settings end with another letter. -/
theorem settings_not_mem_writtenNames (source : Path) :
    Settings.fileName ∉ source.writtenNames := by
  have last : Settings.fileName.getLast? = some 'l' := by decide
  have page : source.pageName.getLast? = some 'd' := by
    rw [pageName, List.getLast?_append]
    rfl
  have draft : (draftName source.pageName).getLast? = some 'p' := by
    rw [draftName, List.getLast?_append]
    rfl
  simp only [writtenNames, List.mem_cons, List.not_mem_nil, or_false, not_or]
  constructor
  · intro same
    rw [← same, last] at page
    contradiction
  · intro same
    rw [← same, last] at draft
    contradiction

end Path

namespace Invocation

theorem fileName?_pagePath (settings : Settings) (source : Path) :
    (pagePath settings source).fileName? = some source.pageName ∧
      (draftPath (pagePath settings source)).fileName? = some (draftName source.pageName) := by
  have plain := source.plain_pageName
  have page : (pagePath settings source).fileName? = some source.pageName :=
    Path.fileName?_join _ plain
  refine ⟨page, ?_⟩
  apply (Path.parts_of_getLast?_steps _).1
  rw [Path.steps_draftPath page, List.getLast?_concat]

end Invocation

namespace Tree

variable {tree after : Tree} {path other : Path} {content : Text} {old : ByteArray}
  {answer : Except Fault Unit} {name : Text}

theorem place?_ne_of_fileName? {place : Location} (leads : tree.place? path = some place)
    (different : path.fileName? ≠ other.fileName?) : tree.place? other ≠ some place := by
  intro leads'
  obtain ⟨front, name, named, rfl, -⟩ := parts_of_place? leads
  obtain ⟨front', name', named', same, -⟩ := parts_of_place? leads'
  cases (List.append_inj' same rfl).2
  exact different (named.trans named'.symm)

theorem Stored.find_file (stored : Stored path content tree answer after)
    (found : tree.find other = .ok (.file old)) (apart : other.fileName? ≠ path.fileName?)
    (apart' : other.fileName? ≠ (draftPath path).fileName?) :
    after.find other = .ok (.file old) := by
  obtain ⟨mid, grown, near⟩ := stored.grown_near
  have keeps := grown.keeps.trans near.keeps
  obtain ⟨place, leads, file⟩ := place?_of_find found
  refine keeps.find_file found fun place' leads' => ?_
  rw [leads] at leads'
  cases leads'
  rw [file]
  exact stored.kept (place?_ne_of_fileName? (keeps.place? leads) apart)
    (place?_ne_of_fileName? (keeps.place? leads) apart') file

end Tree

theorem CommandLine.OneFile.unique {arguments : List Text} {path path' : Path}
    (one : OneFile arguments path) (other : OneFile arguments path') : path = path' := by
  have same := (read_eq_generate.mpr one).symm.trans (read_eq_generate.mpr other)
  simpa using same

namespace Invocation

open ReferencePage.Tree

variable {i : Invocation} {tree : Tree} {source path : Path} {content : ByteArray} {name : Text}

theorem find_pageWriting (settings : Settings) (time : Text) (d : Document)
    (named : path.fileName? = some name) (apart : name ∉ source.writtenNames)
    (found : tree.find path = .ok (.file content)) :
    (perform (pageWriting source settings time d) tree).2.find path = .ok (.file content) := by
  obtain ⟨page, draft⟩ := fileName?_pagePath settings source
  simp only [Path.writtenNames, List.mem_cons, List.not_mem_nil, or_false, not_or] at apart
  apply (stored_perform _ _ tree).find_file found
  · rw [named]
    exact fun same => apart.1 (Option.some.inj (same.trans page))
  · rw [named]
    exact fun same => apart.2 (Option.some.inj (same.trans draft))

theorem find_run (named : path.fileName? = some name)
    (apart : ∀ source, CommandLine.OneFile i.arguments source → name ∉ source.writtenNames)
    (found : tree.find path = .ok (.file content)) :
    (perform i.run tree).2.find path = .ok (.file content) := by
  by_cases one : ∃ source, CommandLine.OneFile i.arguments source
  · obtain ⟨source, oneFile⟩ := one
    rcases early_or_prepared tree oneFile.1 with ⟨text, early⟩ | ⟨settings, d, prepared⟩
    · rwa [(early.told oneFile).2.2]
    · obtain ⟨events, generated⟩ := prepared.perform_generate (timeShown_time i)
      rw [perform_run oneFile, generated]
      exact find_pageWriting settings i.time d named (apart source oneFile) found
  · rw [perform_run_other (not_exists.mp one)]
    exact found

/-- The names that a run writes to in the directory of its page, and the names that it reads. -/
structure NamesApart (source : Path) : Prop where
  written : ∀ settings, [(pagePath settings source).fileName?,
    (draftPath (pagePath settings source)).fileName?] = source.writtenNames.map some
  read : ∃ name, source.fileName? = some name ∧ name ∉ source.writtenNames
  settings : Settings.fileName ∉ source.writtenNames

theorem namesApart_of_find (found : tree.find source = .ok (.file content)) :
    NamesApart source := by
  obtain ⟨place, leads, -⟩ := place?_of_find found
  obtain ⟨front, name, named, -⟩ := parts_of_place? leads
  refine ⟨?written, ⟨name, named, Path.not_mem_writtenNames named⟩,
    Path.settings_not_mem_writtenNames source⟩
  case written =>
    intro settings
    obtain ⟨page, draft⟩ := fileName?_pagePath settings source
    rw [page, draft]
    rfl

/-- Whatever comes of a run, its source stands as it stood, and so do the settings. -/
theorem run_sparesInput (i : Invocation) (tree : Tree) :
    (∀ source content, tree.find source = .ok (.file content) → NamesApart source ∧
      (CommandLine.OneFile i.arguments source →
        (perform i.run tree).2.find source = .ok (.file content))) ∧
      ∀ content, tree.find Settings.path = .ok (.file content) →
        (perform i.run tree).2.find Settings.path = .ok (.file content) := by
  constructor
  · intro source content found
    have apart := namesApart_of_find found
    refine ⟨apart, fun oneFile => ?_⟩
    obtain ⟨name, named, other⟩ := apart.read
    refine find_run named (fun source' oneFile' => ?_) found
    rwa [oneFile'.unique oneFile]
  · intro content found
    have named : Settings.path.fileName? = some Settings.fileName := by decide
    exact find_run named (fun source _ => Path.settings_not_mem_writtenNames source) found

/- A source that is named like a page, in the directory that the settings name for pages. -/
def pageLikePath : Path := ⟨"docs/a_documentation.md".toList⟩
def pageLikeRun : Invocation := ⟨[pageLikePath.text], none, none, []⟩
def docsSettings : Text := "output_dir = \"docs\"".toList
def pageLikeTree : Tree where
  here := []
  entries :=
    [([Settings.fileName], .file docsSettings.bytes), (["docs".toList], .directory),
      (["docs".toList, "a_documentation.md".toList], .file Document.counterSource.bytes)]

theorem run_sparesInput_pageLike : CommandLine.OneFile pageLikeRun.arguments pageLikePath ∧
    (perform pageLikeRun.run pageLikeTree).2.find pageLikePath =
      .ok (.file Document.counterSource.bytes) ∧
    (perform pageLikeRun.run pageLikeTree).2.find Settings.path =
      .ok (.file docsSettings.bytes) := by
  have oneFile : CommandLine.OneFile pageLikeRun.arguments pageLikePath :=
    ⟨by decide, .inr ⟨.inl (by decide), .inl rfl⟩⟩
  obtain ⟨sources, settings⟩ := run_sparesInput pageLikeRun pageLikeTree
  exact ⟨oneFile, (sources pageLikePath _ rfl).2 oneFile, settings _ rfl⟩

end Invocation
end ReferencePage
