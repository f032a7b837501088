import ReferencePage.Run.Program
import ReferencePage.Proofs.LinkedDocument
import ReferencePage.Proofs.SettingsReading

/-! What a run comes to.  The arguments are read before anything else, nothing is written until a
page is complete, and the stage that fails first decides what is printed. -/
namespace ReferencePage

namespace CommandLine

/-- An argument that is no option: it starts with no hyphen, or it is one. -/
def Operand (t : Text) : Prop := t.head? ≠ some '-' ∨ t = ['-']

/-- The arguments are one file, perhaps with the two hyphens that end the options. -/
def OneFile (arguments : List Text) (path : Path) : Prop :=
  path.text ≠ [] ∧
    (arguments = [['-', '-'], path.text] ∨
      Operand path.text ∧ (arguments = [path.text] ∨ arguments = [path.text, ['-', '-']]))

section Read

variable {t text : Text} {file : Option Text} {rest : List Text} {path : Path} {flag : Flag}

theorem namedArgument_eq (t : Text) : ∃ name value, namedArgument t = .named name value := by
  unfold namedArgument
  split
  · exact ⟨_, _, rfl⟩
  · exact ⟨_, _, rfl⟩

theorem argument_eq_plain : argument t = .plain text ↔ Operand t ∧ t = text := by
  unfold argument Operand
  split
  · simp
  · rename_i rest _
    obtain ⟨name, value, named⟩ := namedArgument_eq rest
    simp [named]
  · simp
  · rename_i notEnd notNamed notLettered
    have operand : t.head? ≠ some '-' ∨ t = ['-'] := by
      cases t with
      | nil => simp
      | cons c rest =>
        cases rest with
        | nil => simpa using em' (c = '-')
        | cons d rest =>
          refine .inl fun hyphen => ?_
          cases Option.some.inj hyphen
          exact notLettered d rest rfl
    simp only [operand, true_and, Argument.plain.injEq]

theorem argument_eq_endOfOptions : argument t = .endOfOptions ↔ t = ['-', '-'] := by
  unfold argument
  split
  · simp
  · rename_i rest other
    obtain ⟨name, value, named⟩ := namedArgument_eq rest
    simp only [named, reduceCtorEq, false_iff]
    exact fun same => other (by simpa using same)
  · rename_i letter rest notEnd notNamed
    simp only [reduceCtorEq, false_iff]
    exact fun same => by simp_all
  · rename_i notEnd _ _
    simpa using notEnd

theorem answer_ne_generate : answer file flag ≠ .ok (.generate path) := by
  unfold answer
  split <;> simp

theorem finish_eq_generate :
    finish file = .ok (.generate path) ↔ path.text ≠ [] ∧ file = some path.text := by
  obtain ⟨text⟩ := path
  unfold finish
  split
  · simp
  · simp
  · rename_i given nonempty
    simp only [Except.ok.injEq, Request.generate.injEq, Path.mk.injEq, Option.some.injEq]
    constructor
    · rintro rfl
      exact ⟨nonempty, rfl⟩
    · exact And.right

theorem readFrom_ended : readFrom file true rest = .ok (.generate path) ↔
    path.text ≠ [] ∧ file.toList ++ rest = [path.text] := by
  cases rest with
  | nil =>
    rw [readFrom, finish_eq_generate]
    cases file <;> simp
  | cons t rest =>
    cases file with
    | some given => simp [readFrom]
    | none =>
      cases rest with
      | nil => simp [readFrom, finish_eq_generate]
      | cons second rest => simp [readFrom]

theorem readFrom_endOfOptions (known : argument t = .endOfOptions) :
    readFrom file false (t :: rest) = readFrom file true rest := by
  simp [readFrom, known]

theorem readFrom_plain (known : argument t = .plain text) : readFrom file false (t :: rest) =
    if file.isSome then .error (.secondFile text) else readFrom (some text) false rest := by
  simp [readFrom, known]

theorem readFrom_option (notEnd : argument t ≠ .endOfOptions)
    (option : ∀ text, argument t ≠ .plain text) :
    readFrom file false (t :: rest) ≠ .ok (.generate path) := by
  rw [readFrom, if_neg Bool.false_ne_true]
  split
  · contradiction
  · rename_i text known
    exact absurd known (option text)
  · split
    · exact answer_ne_generate
    · simp
  · split
    · exact answer_ne_generate
    · simp
    · simp

theorem readFrom_some {given : Text} : readFrom (some given) false rest = .ok (.generate path) ↔
    path.text ≠ [] ∧ given = path.text ∧ (rest = [] ∨ rest = [['-', '-']]) := by
  cases rest with
  | nil => simp [readFrom, finish_eq_generate]
  | cons t rest =>
    by_cases ends : argument t = .endOfOptions
    · rw [readFrom_endOfOptions ends, readFrom_ended, argument_eq_endOfOptions.mp ends]
      simp
    · have other := mt argument_eq_endOfOptions.mpr ends
      have refused : readFrom (some given) false (t :: rest) ≠ .ok (.generate path) := by
        by_cases plain : ∃ text, argument t = .plain text
        · obtain ⟨text, known⟩ := plain
          simp [readFrom_plain known]
        · exact readFrom_option ends (not_exists.mp plain)
      simp [refused, other]

theorem read_eq_generate {arguments : List Text} :
    read arguments = .ok (.generate path) ↔ OneFile arguments path := by
  constructor
  · intro known
    cases arguments with
    | nil => cases known
    | cons t rest =>
      by_cases ends : argument t = .endOfOptions
      · rw [read, readFrom_endOfOptions ends, readFrom_ended] at known
        obtain ⟨nonempty, same⟩ := known
        exact ⟨nonempty, .inl (by simp [argument_eq_endOfOptions.mp ends, ← same])⟩
      · by_cases plain : ∃ text, argument t = .plain text
        · obtain ⟨text, plain⟩ := plain
          obtain ⟨operand, rfl⟩ := argument_eq_plain.mp plain
          rw [read, readFrom_plain plain, if_neg (by simp), readFrom_some] at known
          obtain ⟨nonempty, rfl, more⟩ := known
          exact ⟨nonempty, .inr ⟨operand, by simpa using more⟩⟩
        · exact absurd known (readFrom_option ends (not_exists.mp plain))
  · rintro ⟨nonempty, rfl | ⟨operand, one⟩⟩
    · rw [read, readFrom_endOfOptions (argument_eq_endOfOptions.mpr rfl), readFrom_ended]
      exact ⟨nonempty, rfl⟩
    · have plain := argument_eq_plain.mpr ⟨operand, rfl⟩
      rcases one with rfl | rfl
      · rw [read, readFrom_plain plain, if_neg (by simp), readFrom_some]
        exact ⟨nonempty, rfl, .inl rfl⟩
      · rw [read, readFrom_plain plain, if_neg (by simp), readFrom_some]
        exact ⟨nonempty, rfl, .inr rfl⟩

end Read
end CommandLine

namespace Invocation

open ReferencePage.Tree

/-- The time that a page shows: the instant that is pinned, and that of the clock where none is. -/
inductive TimeShown (i : Invocation) : Text → Prop where
  | pinned {t : Text} {m : Moment} (given : i.pinned = some t) (known : Moment.pinned? t = some m) :
    TimeShown i m.text
  | clock (unknown : ∀ t, i.pinned = some t → Moment.pinned? t = none) : TimeShown i i.clock

/-- The settings are good, and the source is a text that holds a declaration. -/
structure Prepared (path : Path) (tree : Tree) (settings : Settings) (d : Document) : Prop where
  settings : Settings.Loaded tree Settings.path (.ok settings)
  document : ∃ source : Text,
    tree.find path = .ok (.file source.bytes) ∧ Document.ofSource? source = some d

def pageWriting (path : Path) (settings : Settings) (time : Text) (d : Document) :
    Steps (Except Fault Unit) :=
  replaceFile (settings.outputDirectory.join ⟨path.pageName⟩)
    (d.page ⟨settings.fenceLanguage, path.fileName?.getD [], time⟩)

/-- What is said where a stage fails before there is a page: the settings, then the source, then the
declaration in it. -/
inductive EarlyError (path : Path) (tree : Tree) : Text → Prop where
  | settingsUnreadable {fault : Fault} (refuses : tree.Unreadable Settings.path fault) :
    EarlyError path tree ("reading config ./.swiftdoc.toml: ".toList ++ fault.message)
  | settingsMalformed {source : Text} {malformation : Settings.Malformation}
    (found : tree.find Settings.path = .ok (.file source.bytes))
    (refused : Settings.parse source = .error malformation) :
    EarlyError path tree ("invalid config ./.swiftdoc.toml: ".toList ++ malformation.message)
  | sourceMissing {settings : Settings}
    (loaded : Settings.Loaded tree Settings.path (.ok settings))
    (breaks : tree.BreaksOff path .missing) :
    EarlyError path tree ("File '".toList ++ path.text ++ "' not found.".toList)
  | sourceUnreadable {settings : Settings} {fault : Fault}
    (loaded : Settings.Loaded tree Settings.path (.ok settings))
    (refuses : tree.Unreadable path fault) :
    EarlyError path tree ("reading file ".toList ++ path.text ++ ": ".toList ++ fault.message)
  | declaration {settings : Settings} {source : Text}
    (loaded : Settings.Loaded tree Settings.path (.ok settings))
    (found : tree.find path = .ok (.file source.bytes))
    (undeclared : Document.ofSource? source = none) :
    EarlyError path tree ("No class declaration found in '".toList ++ path.text ++ "'.".toList)

/-- What is said of the first stage that fails, of which writing the page is the last. -/
inductive FirstError (i : Invocation) (path : Path) (tree : Tree) : Text → Prop where
  | early {text : Text} (early : EarlyError path tree text) : FirstError i path tree text
  | page {settings : Settings} {time : Text} {d : Document} {fault : Fault}
    (prepared : Prepared path tree settings d) (shown : i.TimeShown time)
    (refused : (perform (pageWriting path settings time d) tree).1 = .error fault) :
    FirstError i path tree ("writing documentation file ".toList
      ++ (settings.outputDirectory.join ⟨path.pageName⟩).text ++ ": ".toList ++ fault.message)

section Run

variable {i : Invocation} {path : Path} {tree : Tree} {settings : Settings} {d : Document}
  {text time : Text} {answer : Except Failure Settings}

theorem timeShown_time (i : Invocation) : i.TimeShown i.time := by
  unfold time
  cases given : i.pinned with
  | none => exact .clock (by simp [given])
  | some t =>
    cases known : Moment.pinned? t with
    | none => simpa [known] using TimeShown.clock (by simpa [given] using known)
    | some m => simpa [known] using TimeShown.pinned given known

theorem TimeShown.eq_time (shown : i.TimeShown time) : time = i.time := by
  cases shown with
  | pinned given known => simp [Invocation.time, given, known]
  | clock unknown =>
    have unpinned : i.pinned.bind Moment.pinned? = none := Option.bind_eq_none_iff.mpr unknown
    simp [Invocation.time, unpinned]

theorem perform_loaded (loaded : Settings.Loaded tree Settings.path answer) :
    perform (Settings.load ⟨['.']⟩) tree = (answer, tree) :=
  Prod.ext loaded.answer_eq (perform_load tree _)

theorem EarlyError.perform_generate (i : Invocation) (early : EarlyError path tree text) :
    ∃ events failure, failure.message = text ∧
      perform (i.generate path) tree = ((events, .error failure), tree) := by
  cases early with
  | settingsUnreadable refuses =>
    refine ⟨[], .settingsUnreadable Settings.path _, rfl, ?_⟩
    rw [generate, perform_bind, perform_loaded (.unreadable refuses)]
    rfl
  | settingsMalformed found refused =>
    refine ⟨[], .settingsMalformed Settings.path _, rfl, ?_⟩
    rw [generate, perform_bind, perform_loaded (.text found), Settings.read, refused]
    rfl
  | sourceMissing loaded breaks =>
    refine ⟨[], .fileNotFound path, rfl, ?_⟩
    rw [generate, perform_bind, perform_loaded loaded]
    simp only [perform_bind, perform_sourceText_of_missing breaks]
    rfl
  | sourceUnreadable loaded refuses =>
    refine ⟨[], .unreadable path _, rfl, ?_⟩
    rw [generate, perform_bind, perform_loaded loaded]
    simp only [perform_bind, perform_sourceText_of_unreadable refuses]
    rfl
  | @declaration settings source loaded found undeclared =>
    refine ⟨Document.events source, .noDeclaration path, rfl, ?_⟩
    rw [generate, perform_bind, perform_loaded loaded]
    simp only [perform_bind, perform_sourceText_of_find found, document, undeclared]
    rfl

theorem perform_writeDocument (i : Invocation) (settings : Settings) (path : Path) (d : Document)
    (tree : Tree) : perform (i.writeDocument settings path d) tree =
      (((perform (pageWriting path settings i.time d) tree).1.mapError
          (.unwritable (pagePath settings path))).map fun _ => pagePath settings path,
        (perform (pageWriting path settings i.time d) tree).2) := by
  have same : replaceFile (pagePath settings path) (d.page (i.setting settings path)) =
      pageWriting path settings i.time d := rfl
  rw [writeDocument, perform_bind, perform_writePage, same]
  cases (perform (pageWriting path settings i.time d) tree).1 with
  | ok done => rfl
  | error fault => rfl

theorem Prepared.perform_generate (prepared : Prepared path tree settings d)
    (shown : i.TimeShown time) : ∃ events, perform (i.generate path) tree =
      ((events, ((perform (pageWriting path settings time d) tree).1.mapError
          (.unwritable (pagePath settings path))).map fun _ => pagePath settings path),
        (perform (pageWriting path settings time d) tree).2) := by
  obtain ⟨loaded, source, found, known⟩ := prepared
  have built : Invocation.document path source = .ok d := by rw [Invocation.document, known]
  refine ⟨Document.events source, ?_⟩
  rw [generate, perform_bind, perform_loaded loaded]
  simp only [perform_bind, perform_sourceText_of_find found, built, perform_writeDocument]
  rw [shown.eq_time]
  rfl

theorem early_or_loaded (path : Path) (tree : Tree) : (∃ text, EarlyError path tree text) ∨
    ∃ settings, Settings.Loaded tree Settings.path (.ok settings) := by
  obtain ⟨answer, reads⟩ := exists_reads tree (Settings.pathIn_nonempty ⟨['.']⟩)
  cases reads with
  | absent breaks => exact .inr ⟨_, .absent breaks⟩
  | unreadable refuses => exact .inl ⟨_, .settingsUnreadable refuses⟩
  | @text source found =>
    cases parsed : Settings.parse source with
    | error malformation => exact .inl ⟨_, .settingsMalformed found parsed⟩
    | ok settings =>
      have given : Settings.read Settings.path source = .ok settings :=
        Settings.read_eq_ok.mpr parsed
      exact .inr ⟨settings, given ▸ .text found⟩

/-- Either a stage fails before there is a page, or writing it is all that is left. -/
theorem early_or_prepared (tree : Tree) (nonempty : path.text ≠ []) :
    (∃ text, EarlyError path tree text) ∨ ∃ settings d, Prepared path tree settings d := by
  rcases early_or_loaded path tree with early | ⟨settings, loaded⟩
  · exact .inl early
  obtain ⟨answer, reads⟩ := exists_reads tree nonempty
  cases reads with
  | absent breaks => exact .inl ⟨_, .sourceMissing loaded breaks⟩
  | unreadable refuses => exact .inl ⟨_, .sourceUnreadable loaded refuses⟩
  | @text source found =>
    cases known : Document.ofSource? source with
    | none => exact .inl ⟨_, .declaration loaded found known⟩
    | some d => exact .inr ⟨settings, d, loaded, source, found, known⟩

theorem perform_run (oneFile : CommandLine.OneFile i.arguments path) : perform i.run tree =
    (i.report (perform (i.generate path) tree).1, (perform (i.generate path) tree).2) := by
  rw [run, CommandLine.read_eq_generate.mpr oneFile]
  rfl

theorem perform_run_other (other : ∀ path, ¬ CommandLine.OneFile i.arguments path) :
    (perform i.run tree).2 = tree := by
  cases known : CommandLine.read i.arguments with
  | error misuse => simp [run, known]
  | ok request =>
    cases request with
    | usage => simp [run, known]
    | answer flag => simp [run, known]
    | generate path => exact absurd (CommandLine.read_eq_generate.mp known) (other path)

section OneFile

variable (oneFile : CommandLine.OneFile i.arguments path)

include oneFile

theorem EarlyError.told (early : EarlyError path tree text) :
    (perform i.run tree).1.exitCode = 1 ∧
      (perform i.run tree).1.output = "Error: ".toList ++ text ++ ['\n'] ∧
      (perform i.run tree).2 = tree := by
  obtain ⟨events, failure, rfl, generated⟩ := early.perform_generate i
  rw [perform_run oneFile, generated]
  exact ⟨rfl, rfl, rfl⟩

theorem FirstError.told (first : FirstError i path tree text) :
    (perform i.run tree).1.exitCode = 1 ∧
      (perform i.run tree).1.output = "Error: ".toList ++ text ++ ['\n'] := by
  cases first with
  | early early =>
    obtain ⟨code, output, -⟩ := early.told oneFile
    exact ⟨code, output⟩
  | page prepared shown refused =>
    obtain ⟨events, generated⟩ := prepared.perform_generate shown
    rw [perform_run oneFile, generated, refused]
    exact ⟨rfl, rfl⟩

theorem Prepared.written (prepared : Prepared path tree settings d) (shown : i.TimeShown time)
    (wrote : (perform (pageWriting path settings time d) tree).1 = .ok ()) :
    (perform i.run tree).1.exitCode = 0 ∧
      (perform i.run tree).1.output = "Documentation generated successfully: ".toList
        ++ (settings.outputDirectory.join ⟨path.pageName⟩).text ++ ['\n'] ∧
      (perform i.run tree).2.find (settings.outputDirectory.join ⟨path.pageName⟩) =
        .ok (.file (Text.bytes (d.page
          ⟨settings.fenceLanguage, path.fileName?.getD [], time⟩))) := by
  obtain ⟨events, generated⟩ := prepared.perform_generate shown
  have stored := stored_perform (settings.outputDirectory.join ⟨path.pageName⟩)
    (d.page ⟨settings.fenceLanguage, path.fileName?.getD [], time⟩) tree
  rw [← pageWriting, wrote] at stored
  rw [perform_run oneFile, generated, wrote]
  exact ⟨rfl, rfl, stored.replaced.holds⟩

end OneFile

end Run

end Invocation
end ReferencePage
