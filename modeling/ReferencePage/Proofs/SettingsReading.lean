import ReferencePage.Proofs.FailedReads
import ReferencePage.Proofs.PlainAssignments

/-! Nothing that a settings file says is passed over.  What is taken gives each field the string
that stands under its key, or its own default where the key is not there; all else is refused, and
only a file that is not there stands for the defaults. -/
namespace ReferencePage

namespace Settings

open Toml

namespace Field

def of (s : Settings) : Field → Text
  | fenceLanguage => s.fenceLanguage
  | outputDirectory => s.outputDirectory.text

theorem of_ofTable (table : Table) (field : Field) :
    field.of (ofTable table) = (field? table field).getD (field.of default) := by
  cases field with
  | fenceLanguage => rfl
  | outputDirectory =>
    unfold of ofTable
    cases field? table outputDirectory <;> rfl

theorem ext_of {s s' : Settings} (same : ∀ field : Field, field.of s = field.of s') : s = s' := by
  obtain ⟨language, ⟨directory⟩⟩ := s
  obtain ⟨language', ⟨directory'⟩⟩ := s'
  have first : language = language' := same fenceLanguage
  have second : directory = directory' := same outputDirectory
  rw [first, second]

theorem key_inj {field field' : Field} (same : field.key = field'.key) : field = field' := by
  revert same
  cases field <;> cases field' <;> decide

theorem ofKey?_eq_some {name : Text} {field : Field} :
    ofKey? name = some field ↔ name = field.key := by
  constructor
  · intro found
    have named := List.find?_some found
    exact (of_decide_eq_true named).symm
  · rintro rfl
    cases field <;> decide

end Field

/-- The entry gives a field a string. -/
def Gives (entry : Key × Item) (field : Field) (text : Text) : Prop :=
  entry.1.name = field.key ∧ ∃ passage, entry.2 = .value (.string text) passage

/-- Every key is one that is known, and a string stands under it. -/
def Accepted (entries : List (Key × Item)) : Prop :=
  ∀ entry ∈ entries, ∃ field text, Gives entry field text

/-- Each field is what is given for it, whatever is given for the other one, and its own default
where nothing is. -/
structure Heeds (entries : List (Key × Item)) (s : Settings) : Prop where
  given : ∀ entry ∈ entries, ∀ field text, Gives entry field text → field.of s = text
  absent : ∀ field : Field, field.key ∉ names entries → field.of s = field.of default

inductive Faulty (entry : Key × Item) : Problem → Prop where
  | unknown (unknown : ∀ field : Field, entry.1.name ≠ field.key) :
    Faulty entry (.unknownKey entry.1.name)
  | wrongType {field : Field} (named : entry.1.name = field.key)
    (other : ∀ text passage, entry.2 ≠ .value (.string text) passage) :
    Faulty entry (.wrongType field entry.2)

/-- Why a source gives no settings: it is not TOML, or an entry of its table is faulty and those in
front of it are not. -/
inductive Malformed (source : Text) : Malformation → Prop where
  | syntactic (other : Toml.parse? source = none) : Malformed source .syntactic
  | refused {table : Table} {front back : List (Key × Item)} {entry : Key × Item}
    {refusal : Refusal} (read : Toml.parse? source = some table)
    (cut : table.entries = front ++ entry :: back) (good : Accepted front)
    (faulty : Faulty entry refusal.problem) : Malformed source (.refused source refusal)

section

variable {entry : Key × Item} {entries : List (Key × Item)} {table : Table} {field : Field}
  {text source : Text} {s s' : Settings} {path : Path} {malformation : Malformation}

theorem string?_eq_some {item : Item} :
    string? item = some text ↔ ∃ passage, item = .value (.string text) passage := by
  constructor
  · intro found
    unfold string? at found
    split at found
    · cases found
      exact ⟨_, rfl⟩
    · contradiction
  · rintro ⟨passage, rfl⟩
    rfl

theorem refusal?_cases (entry : Key × Item) :
    (refusal? entry = none ∧ ∃ field text, Gives entry field text) ∨
      ∃ refusal, refusal? entry = some refusal ∧ Faulty entry refusal.problem := by
  unfold refusal?
  split
  · rename_i unknown
    refine .inr ⟨_, rfl, .unknown fun field named => ?_⟩
    rw [Field.ofKey?_eq_some.mpr named] at unknown
    contradiction
  · rename_i field known
    have named := Field.ofKey?_eq_some.mp known
    split
    · rename_i string
      obtain ⟨text, found⟩ := Option.isSome_iff_exists.mp string
      exact .inl ⟨rfl, field, text, named, string?_eq_some.mp found⟩
    · rename_i other
      refine .inr ⟨_, rfl, .wrongType named fun text passage same => other ?_⟩
      rw [string?_eq_some.mpr ⟨passage, same⟩]
      rfl

theorem Faulty.not_gives {problem : Problem} (faulty : Faulty entry problem) :
    ¬ Gives entry field text := by
  rintro ⟨named, passage, string⟩
  cases faulty with
  | unknown unknown => exact unknown field named
  | wrongType named' other => exact other text passage string

theorem refusal?_eq_none : refusal? entry = none ↔ ∃ field text, Gives entry field text := by
  rcases refusal?_cases entry with ⟨none, gives⟩ | ⟨refusal, some, faulty⟩
  · simp [none, gives]
  · simp only [some, reduceCtorEq, false_iff, not_exists]
    exact fun field text => faulty.not_gives

theorem Accepted.holdsValues (accepted : Accepted table.entries) : table.HoldsValues := by
  intro entry member
  obtain ⟨field, text, -, passage, string⟩ := accepted entry member
  rw [string]
  exact trivial

theorem Heeds.unique (accepted : Accepted entries) (heeds : Heeds entries s)
    (heeds' : Heeds entries s') : s = s' := by
  refine Field.ext_of fun field => ?_
  by_cases given : field.key ∈ names entries
  · obtain ⟨entry, member, named⟩ := List.mem_map.mp given
    obtain ⟨field', text, gives⟩ := accepted entry member
    cases Field.key_inj (named.symm.trans gives.1)
    rw [heeds.given entry member field text gives, heeds'.given entry member field text gives]
  · rw [heeds.absent field given, heeds'.absent field given]

theorem heeds_ofTable (read : Toml.parse? source = some table) (accepted : Accepted table.entries) :
    Heeds table.entries (ofTable table) := by
  have distinct : (names table.entries).Nodup := by
    obtain ⟨entries, rfl, -, distinct⟩ := (parse?_values accepted.holdsValues).mp read
    exact distinct
  constructor
  · rintro ⟨key, item⟩ member field text ⟨named, string⟩
    have found := Table.item?_of_mem distinct member
    rw [Field.of_ofTable, field?, ← named]
    dsimp only at found ⊢
    rw [found, Option.bind_some, string?_eq_some.mpr string, Option.getD_some]
  · intro field absent
    rw [Field.of_ofTable, field?, Table.item?_eq_none.mpr absent]
    rfl

theorem parse_cases (source : Text) :
    (∃ table, Toml.parse? source = some table ∧ Accepted table.entries ∧
      parse source = .ok (ofTable table)) ∨
    ∃ malformation, Malformed source malformation ∧ parse source = .error malformation := by
  unfold parse
  cases read : Toml.parse? source with
  | none => exact .inr ⟨_, .syntactic read, rfl⟩
  | some table =>
    cases refused : table.entries.findSome? refusal? with
    | none =>
      refine .inl ⟨table, rfl, fun entry member => ?_, by simp only [refused]⟩
      exact refusal?_eq_none.mp (List.findSome?_eq_none_iff.mp refused entry member)
    | some refusal =>
      obtain ⟨front, entry, back, cut, found, good⟩ := List.findSome?_eq_some_iff.mp refused
      refine .inr ⟨.refused source refusal, .refused read cut (fun e member => ?_) ?_,
        by simp only [refused]⟩
      · exact refusal?_eq_none.mp (good e member)
      · rcases refusal?_cases entry with ⟨none, -⟩ | ⟨refusal', some, faulty⟩
        · rw [none] at found
          contradiction
        · rw [some] at found
          cases found
          exact faulty

theorem Malformed.not_accepted (malformed : Malformed source malformation)
    (read : Toml.parse? source = some table) : ¬ Accepted table.entries := by
  intro accepted
  cases malformed with
  | syntactic other =>
    rw [other] at read
    contradiction
  | @refused _ front back entry refusal read' cut good faulty =>
    rw [read'] at read
    cases read
    obtain ⟨field, text, gives⟩ := accepted entry (by simp [cut])
    exact faulty.not_gives gives

theorem parse_eq_ok : parse source = .ok s ↔
    ∃ table, Toml.parse? source = some table ∧ Accepted table.entries ∧ Heeds table.entries s := by
  constructor
  · intro parsed
    rcases parse_cases source with ⟨table, read, accepted, given⟩ | ⟨malformation, -, failed⟩
    · rw [given] at parsed
      cases parsed
      exact ⟨table, read, accepted, heeds_ofTable read accepted⟩
    · rw [failed] at parsed
      contradiction
  · rintro ⟨table, read, accepted, heeds⟩
    rcases parse_cases source with ⟨table', read', -, given⟩ | ⟨malformation, malformed, -⟩
    · rw [read] at read'
      cases read'
      rw [given, (heeds_ofTable read accepted).unique accepted heeds]
    · exact absurd accepted (malformed.not_accepted read)

/-- The entries that are accepted are all that is written: the source is a plain assignment of a
string for each of them, and no key comes twice. -/
theorem parse_eq_ok_written : parse source = .ok s ↔
    ∃ entries, Toml.statements? source = some (entries.map Statement.plain) ∧
      (names entries).Nodup ∧ Accepted entries ∧ Heeds entries s := by
  rw [parse_eq_ok]
  constructor
  · rintro ⟨table, read, accepted, heeds⟩
    obtain ⟨entries, rfl, written, distinct⟩ := (parse?_values accepted.holdsValues).mp read
    exact ⟨entries, written, distinct, accepted, heeds⟩
  · rintro ⟨entries, written, distinct, accepted, heeds⟩
    have values : (Table.mk .own none entries).HoldsValues := Accepted.holdsValues accepted
    exact ⟨_, (parse?_values values).mpr ⟨entries, rfl, written, distinct⟩, accepted, heeds⟩

theorem read_eq_ok : read path source = .ok s ↔ parse source = .ok s := by
  unfold read
  split
  · rename_i given
    rw [given, Except.ok.injEq, Except.ok.injEq]
  · rename_i failed
    simp [failed]

theorem exists_read : (∃ s, read path source = .ok s) ↔
    ∃ table, Toml.parse? source = some table ∧ Accepted table.entries := by
  simp only [read_eq_ok, parse_eq_ok]
  constructor
  · rintro ⟨s, table, read, accepted, -⟩
    exact ⟨table, read, accepted⟩
  · rintro ⟨table, read, accepted⟩
    exact ⟨ofTable table, table, read, accepted, heeds_ofTable read accepted⟩

theorem exists_malformed :
    (∃ malformation, Malformed source malformation ∧
      read path source = .error (.settingsMalformed path malformation)) ↔
    ¬ ∃ table, Toml.parse? source = some table ∧ Accepted table.entries := by
  constructor
  · rintro ⟨malformation, malformed, -⟩ ⟨table, read, accepted⟩
    exact malformed.not_accepted read accepted
  · intro other
    rcases parse_cases source with ⟨table, read, accepted, -⟩ | ⟨malformation, malformed, failed⟩
    · exact absurd ⟨table, read, accepted⟩ other
    · exact ⟨malformation, malformed, by simp only [read, failed]⟩

end

/-- Where the settings of a directory stand. -/
def pathIn (directory : Path) : Path := directory.join ⟨fileName⟩

/-- Where the program looks for its settings. -/
def path : Path := pathIn ⟨['.']⟩

theorem pathIn_nonempty (directory : Path) : (pathIn directory).text ≠ [] := by
  have named : fileName ≠ [] := by decide
  unfold pathIn Path.join
  split
  · exact named
  · split <;> simp [named]

/-- What comes of looking for settings at a path: the defaults where the way breaks off at a name
that has no entry, what a text there is read as, and else the fault that keeps a text from being
read. -/
inductive Loaded (tree : Tree) (path : Path) : Except Failure Settings → Prop where
  | absent (breaks : tree.BreaksOff path .missing) : Loaded tree path (.ok default)
  | text {source : Text} (found : tree.find path = .ok (.file source.bytes)) :
    Loaded tree path (read path source)
  | unreadable {fault : Fault} (refuses : tree.Unreadable path fault) :
    Loaded tree path (.error (.settingsUnreadable path fault))

section

open ReferencePage.Tree

variable {tree : Tree} {directory : Path} {answer : Except Failure Settings}

theorem Loaded.answer_eq (loaded : Loaded tree (pathIn directory) answer) :
    (perform (load directory) tree).1 = answer := by
  have reading {read : Except Fault Text} (reads : tree.Reads (pathIn directory) read) :
      (perform (readText (directory.join ⟨fileName⟩)) tree).1 = read := reads.perform
  cases loaded with
  | absent breaks =>
    rw [load, perform_bind, reading (.absent breaks)]
    rfl
  | text found =>
    rw [load, perform_bind, reading (.text found)]
    rfl
  | @unreadable fault refuses =>
    rw [load, perform_bind, reading (.unreadable refuses)]
    cases fault with
    | missing => exact absurd rfl refuses.ne_missing
    | _ => rfl

theorem exists_loaded (tree : Tree) (directory : Path) :
    ∃ answer, Loaded tree (pathIn directory) answer := by
  obtain ⟨text, reads⟩ := exists_reads tree (pathIn_nonempty directory)
  cases reads with
  | absent breaks => exact ⟨_, .absent breaks⟩
  | text found => exact ⟨_, .text found⟩
  | unreadable refuses => exact ⟨_, .unreadable refuses⟩

theorem perform_load_eq :
    (perform (load directory) tree).1 = answer ↔ Loaded tree (pathIn directory) answer := by
  refine ⟨?_, Loaded.answer_eq⟩
  rintro rfl
  obtain ⟨answer, loaded⟩ := exists_loaded tree directory
  exact loaded.answer_eq.symm ▸ loaded

/-- A source gives settings exactly when it is a table in which every key is known and has a string.
Then each field is what stands under its key, or its own default, and nothing else is written; and
else the source is refused as malformed at its path.  In a directory the defaults stand for a file
that is not there, whatever keeps another one from being read is reported, and a text is read. -/
theorem load_exact :
    (∀ path source,
      ((∃ s, read path source = .ok s) ↔
        ∃ table, Toml.parse? source = some table ∧ Accepted table.entries) ∧
      (∀ s, read path source = .ok s ↔
        ∃ table, Toml.parse? source = some table ∧ Accepted table.entries ∧
          Heeds table.entries s) ∧
      (∀ s, read path source = .ok s ↔
        ∃ entries, Toml.statements? source = some (entries.map Statement.plain) ∧
          (names entries).Nodup ∧ Accepted entries ∧ Heeds entries s) ∧
      ((∃ malformation, Malformed source malformation ∧
          read path source = .error (.settingsMalformed path malformation)) ↔
        ¬ ∃ table, Toml.parse? source = some table ∧ Accepted table.entries)) ∧
    ∀ (directory : Path) (tree : Tree),
      (tree.read (pathIn directory) = .error .missing ↔
        tree.BreaksOff (pathIn directory) .missing) ∧
      (perform (load directory) tree).2 = tree ∧
      ∀ answer, (perform (load directory) tree).1 = answer ↔
        Loaded tree (pathIn directory) answer := by
  refine ⟨fun path source => ⟨exists_read, fun s => ?_, fun s => ?_, exists_malformed⟩,
    fun directory tree => ⟨read_eq_missing (pathIn_nonempty directory), perform_load tree directory,
      fun answer => perform_load_eq⟩⟩
  · rw [read_eq_ok, parse_eq_ok]
  · rw [read_eq_ok, parse_eq_ok_written]

/- A key in quotes, and one with a dot; a directory without a file, and one with a directory in its
place. -/
def quotedKey : Text := "# pages\n'output_dir' = 'docs'\n".toList
def dottedKey : Text := "output_dir.name = 'docs'\n".toList
def bareTree : Tree := ⟨[], []⟩
def takenTree : Tree := ⟨[], [([fileName], .directory)]⟩

theorem load_exact_quotedKey :
    (∃ table, Toml.parse? quotedKey = some table ∧ Accepted table.entries ∧
      Heeds table.entries ⟨"swift".toList, ⟨"docs".toList⟩⟩) ∧
    (¬ ∃ table, Toml.parse? dottedKey = some table ∧ Accepted table.entries) ∧
    bareTree.BreaksOff (pathIn ⟨[]⟩) .missing ∧
    (perform (load ⟨[]⟩) bareTree).1 = .ok default ∧
    (perform (load ⟨[]⟩) takenTree).1 =
      .error (.settingsUnreadable (pathIn ⟨[]⟩) .isDirectory) := by
  obtain ⟨reading, loading⟩ := load_exact
  obtain ⟨-, heeded, -, -⟩ := reading (pathIn ⟨[]⟩) quotedKey
  obtain ⟨accepted, -, -, -⟩ := reading (pathIn ⟨[]⟩) dottedKey
  obtain ⟨absent, -, loaded⟩ := loading ⟨[]⟩ bareTree
  obtain ⟨-, -, loaded'⟩ := loading ⟨[]⟩ takenTree
  have breaks : bareTree.BreaksOff (pathIn ⟨[]⟩) .missing := absent.mp rfl
  refine ⟨(heeded _).mp rfl, fun table => ?_, breaks, (loaded _).mpr (.absent breaks),
    (loaded' _).mpr (.unreadable (.directory rfl))⟩
  obtain ⟨s, given⟩ := accepted.mpr table
  have refused : ∃ failure, read (pathIn ⟨[]⟩) dottedKey = .error failure := ⟨_, rfl⟩
  obtain ⟨failure, refused⟩ := refused
  rw [refused] at given
  contradiction

end

end Settings
end ReferencePage
