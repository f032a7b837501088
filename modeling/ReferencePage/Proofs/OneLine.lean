import Mathlib.Data.List.Basic
import ReferencePage.Proofs.Gathered
import ReferencePage.Proofs.MarkedText
import ReferencePage.Proofs.ParameterLists
import ReferencePage.Proofs.Pieces

/-! No line feed gets into a document.  What is read from a source for a name, a type or a
description stays within one line, and the links put none in. -/
namespace ReferencePage

namespace Text

/-- No line feed stands in the text. -/
def OneLine (t : Text) : Prop := '\n' ∉ t

instance (t : Text) : Decidable (OneLine t) := inferInstanceAs (Decidable (¬_))

theorem OneLine.subset {s t : Text} (line : OneLine t) (within : s ⊆ t) : OneLine s :=
  fun member => line (within member)

theorem OneLine.append {s t : Text} (first : OneLine s) (second : OneLine t) :
    OneLine (s ++ t) := by
  simp [OneLine] at *
  exact ⟨first, second⟩

theorem isBlank_lineFeed : isBlank '\n' = true := by decide

theorem Solid.oneLine {t : Text} (solid : Solid t) : OneLine t := by
  intro member
  have other := solid '\n' member
  simp [isBlank_lineFeed] at other

theorem OneWord.oneLine {t : Text} (word : OneWord t) : OneLine t := by
  intro member
  have other := isBlank_of_isWord (word.2 '\n' member)
  simp [isBlank_lineFeed] at other

theorem oneLine_join {separator : Text} (line : OneLine separator) {parts : List Text}
    (each : ∀ part ∈ parts, OneLine part) : OneLine (join separator parts) := by
  induction parts with
  | nil => simp [join, OneLine]
  | cons part parts ih =>
    obtain ⟨first, others⟩ := List.forall_mem_cons.mp each
    cases parts with
    | nil => simpa using first
    | cons next parts =>
      rw [join_cons_cons]
      exact first.append (line.append (ih others))

theorem trimStart_subset (t : Text) : trimStart t ⊆ t := (List.dropWhile_sublist isBlank).subset

theorem trim_subset (t : Text) : trim t ⊆ t := by
  obtain ⟨blanks, cut, -⟩ := trimEnd_cut (trimStart t)
  intro c member
  apply trimStart_subset t
  rw [cut]
  exact List.mem_append_left blanks member

theorem oneLine_collapse (t : Text) : OneLine (collapse t) :=
  oneLine_join (by decide) fun _ member => (mem_words member).2.oneLine

/- What a comment says. -/
section PlainText

theorem oneLine_of_mem_splitOn {t part : Text} (member : part ∈ t.splitOn '\n') :
    OneLine part :=
  not_mem_of_mem_splitOn member

theorem dropReturn_subset (line : Text) : dropReturn line ⊆ line := by
  unfold dropReturn
  split
  · exact List.dropLast_subset line
  · exact List.Subset.refl line

theorem exists_of_mem_lineParts {parts : List Text} {line : Text}
    (member : line ∈ lineParts parts) : ∃ part ∈ parts, line ⊆ part := by
  induction parts with
  | nil => simp [lineParts] at member
  | cons part parts ih =>
    cases parts with
    | nil =>
      unfold lineParts at member
      split at member <;> simp_all
    | cons next parts =>
      rw [lineParts] at member
      rcases List.mem_cons.mp member with rfl | member
      · exact ⟨part, List.mem_cons_self, dropReturn_subset part⟩
      · obtain ⟨other, known, within⟩ := ih member
        exact ⟨other, List.mem_cons_of_mem part known, within⟩

theorem oneLine_of_mem_lines {t line : Text} (member : line ∈ lines t) : OneLine line := by
  obtain ⟨part, known, within⟩ := exists_of_mem_lineParts member
  exact (oneLine_of_mem_splitOn known).subset within

end PlainText

/- Lowercasing. -/
section Lower

/- The images of every run lie behind the line feed. -/
theorem lowerRuns_behind : ∀ run ∈ lowerRuns, 10 < run.first + run.distance := by
  decide +kernel

theorem eq_of_ofNat {n : Nat} (same : Char.ofNat n = '\n') : n = 10 := by
  by_cases valid : n.isValidChar
  · rw [← toNat_ofNat valid, same]
    rfl
  · rw [Char.ofNat, dif_neg valid] at same
    exact absurd same (by decide)

theorem oneLine_lowerChar {c : Char} (differs : c ≠ '\n') : OneLine (lowerChar c) := by
  have number : c.toNat ≠ 10 := by
    intro same
    apply differs
    rw [← Char.ofNat_toNat c, same]
  unfold lowerChar
  split
  · decide
  · intro member
    have ten := eq_of_ofNat (List.mem_singleton.mp member).symm
    rcases image_lowerTree c.toNat with kept | ⟨run, known, point, mapped⟩
    · omega
    · have behind := lowerRuns_behind run known
      obtain ⟨k, -, place⟩ := List.mem_map.mp point
      unfold CaseRun.mapped at mapped
      omega

theorem oneLine_lowerFrom {t : Text} (line : OneLine t) (before : Text) :
    OneLine (lowerFrom before t) := by
  induction t generalizing before with
  | nil => simp [lowerFrom, OneLine]
  | cons c t ih =>
    simp only [OneLine, List.mem_cons, not_or] at line
    refine OneLine.append ?_ (ih line.2 (c :: before))
    split
    · unfold sigma
      split <;> decide
    · exact oneLine_lowerChar (Ne.symm line.1)

theorem oneLine_lower {t : Text} (line : OneLine t) : OneLine (lower t) :=
  oneLine_lowerFrom line []

end Lower

end Text

open Text

theorem oneLine_undecorated {line : Text} (oneLine : OneLine line) :
    OneLine (undecorated line) := by
  have trimmed := oneLine.subset (trimStart_subset line)
  unfold undecorated
  split
  · rename_i t starred
    have tail : OneLine t := trimmed.subset (starred ▸ List.subset_cons_self '*' t)
    exact tail.subset (trim_subset t)
  · exact trimmed.subset (trim_subset _)

theorem oneLine_plainText? {body : Text} : ∀ t ∈ plainText? body, OneLine t := by
  intro t found
  unfold plainText? at found
  split at found
  · contradiction
  · cases found
    apply oneLine_join (by decide)
    intro part member
    obtain ⟨line, known, rfl⟩ := List.mem_map.mp (List.mem_of_mem_filter member)
    exact oneLine_undecorated (oneLine_of_mem_lines known)

theorem oneLine_lineUpTo {isStop : Char → Bool} {t : Text} {p : Passage}
    (found : lineUpTo isStop t = some p) : OneLine p.text := by
  rcases lineUpTo_cases found with taken | ⟨-, blank, one, -, other⟩
  · intro member
    rw [← taken] at member
    have passed := List.all_eq_true.mp List.all_takeWhile '\n' member
    simp at passed
  · simpa [OneLine, one] using Ne.symm other

/- Links. -/
section Link

variable {targets : List Target} {text : Text}

theorem oneLine_link {target : Target} (name : OneLine target.name)
    (anchor : OneLine target.anchor) : OneLine target.link := by
  simp [Target.link, OneLine] at *
  exact ⟨name, anchor⟩

/-- A line feed in a linked text was there before. -/
theorem oneLine_linkText (known : ∀ t ∈ targets, OneLine t.name ∧ OneLine t.anchor)
    (line : OneLine text) : OneLine (linkText targets text) := by
  have source : (pieces targets text).flatMap Piece.source = text := flatMap_source_pieces
  rw [← flatMap_result_pieces]
  intro member
  obtain ⟨piece, put, holds⟩ := List.mem_flatMap.mp member
  cases piece with
  | kept c =>
    apply line
    rw [← source]
    exact List.mem_flatMap.mpr ⟨.kept c, put, holds⟩
  | linked mention target =>
    obtain ⟨name, anchor⟩ := known target (target_of_linked_mem_pieces put).1
    exact oneLine_link name anchor holds

end Link

theorem oneLine_anchor (kind : MemberKind) {name : Text} (line : OneLine name) :
    OneLine (kind.anchor name) := by
  have word : OneLine kind.word := by cases kind <;> decide
  have lowered := oneLine_lower line
  simp [MemberKind.anchor, OneLine] at *
  exact ⟨word, lowered⟩

/- Each part of a document, as it is read and as it is linked. -/

structure Declaration.Plain (d : Declaration) : Prop where
  name : OneLine d.name
  description : OneLine d.description

structure Member.Plain (kind : MemberKind) (m : Member) : Prop where
  word : OneWord m.name
  anchored : m.anchor = kind.anchor m.name
  description : OneLine m.description

/- A grave accent ends the name of a parameter on the page. -/
structure Parameter.Plain (p : Parameter) : Prop where
  name : OneLine p.name
  unquoted : '`' ∉ p.name
  type : OneLine p.type

structure Property.Plain (p : Property) : Prop where
  member : p.toMember.Plain .property
  type : OneLine p.type

structure Method.Plain (m : Method) : Prop where
  member : m.toMember.Plain .method
  parameters : ∀ p ∈ m.parameters, p.Plain
  returnType : OneLine m.returnType

structure Document.Plain (d : Document) : Prop where
  declaration : d.declaration.Plain
  properties : ∀ p ∈ d.properties, p.Plain
  methods : ∀ m ∈ d.methods, m.Plain

theorem oneLine_missingDescription : OneLine missingDescription := by decide

theorem oneLine_description {comment : Option Text} (lines : ∀ t ∈ comment, OneLine t) :
    OneLine (comment.getD missingDescription) := by
  cases comment with
  | none => exact oneLine_missingDescription
  | some t => exact lines t rfl

theorem oneLine_comment (head : Head) : ∀ t ∈ head.comment, OneLine t := by
  intro t found
  obtain ⟨doc, -, found⟩ := Option.bind_eq_some_iff.mp found
  exact oneLine_plainText? t found

theorem oneLine_description_linked {link : Text → Text}
    (kept : ∀ t, OneLine t → OneLine (link t)) {comment : Option Text}
    (line : OneLine (comment.getD missingDescription)) :
    OneLine ((comment.map link).getD missingDescription) := by
  cases comment with
  | none => exact line
  | some t => exact kept t line

theorem Parameter.Normal.plain {p : Parameter} (normal : p.Normal) : p.Plain := by
  have quote : isWord '`' = false := by decide
  have unquoted : ∀ {name : Text}, OneWord name → '`' ∉ name := by
    intro name word member
    have other := word.2 '`' member
    simp [quote] at other
  have type : OneLine p.type := normal.collapsed ▸ oneLine_collapse p.type
  rcases normal.name with word | ⟨label, inner, first, second, two⟩
  · exact ⟨word.oneLine, unquoted word, type⟩
  · refine ⟨?_, ?_, type⟩
    · rw [two]
      exact first.oneLine.append (OneLine.append (show OneLine [' '] by decide) second.oneLine)
    · rw [two]
      simp [unquoted first, unquoted second]

namespace Shape

variable {α : Type} {shape : Shape α} {member : α → Member}

theorem exists_of_mem_collect (names : shape.NamesEntries) {source : Text} {entry : α}
    (known : entry ∈ shape.collect source []) :
    ∃ head ∈ shape.heads source, shape.entry? head = some entry := by
  obtain ⟨added, collected, each⟩ := exists_added names source []
  rw [collected, List.nil_append] at known
  exact each entry known

theorem plain_of_mem_collect (reads : shape.Reads member) {source : Text} {entry : α}
    (known : entry ∈ shape.collect source []) : (member entry).Plain shape.kind := by
  obtain ⟨head, listed, made⟩ := exists_of_mem_collect reads.namesEntries known
  rw [reads.made head entry made]
  exact ⟨word_of_mem_heads reads listed, rfl, oneLine_description (oneLine_comment head)⟩

end Shape

theorem Property.plain_of_mem_collect {source : Text} {p : Property}
    (known : p ∈ Property.shape.collect source []) : p.Plain := by
  refine ⟨Shape.plain_of_mem_collect Property.shape_reads known, ?_⟩
  obtain ⟨head, listed, made⟩ :=
    Shape.exists_of_mem_collect Property.shape_namesEntries known
  obtain ⟨t, read⟩ := Shape.form_of_mem_heads listed
  obtain ⟨named, -, read⟩ := Option.bind_eq_some_iff.mp read
  obtain ⟨rest, -, read⟩ := Option.bind_eq_some_iff.mp read
  obtain ⟨type, line, same⟩ := Option.map_eq_some_iff.mp read
  cases Option.some.inj made
  rw [← same]
  exact (oneLine_lineUpTo line).subset (trim_subset type.text)

theorem oneLine_returnType? {t : Text} : ∀ type ∈ returnType? t, OneLine type := by
  intro type found
  obtain ⟨found, -⟩ := Option.filter_eq_some_iff.mp found
  obtain ⟨p, read, rfl⟩ := Option.map_eq_some_iff.mp found
  obtain ⟨rest, -, line⟩ := Option.bind_eq_some_iff.mp read
  exact (oneLine_lineUpTo line).subset (trim_subset p.text)

theorem Method.plain_of_mem_collect {source : Text} {m : Method}
    (known : m ∈ Method.shape.collect source []) : m.Plain := by
  have member := Shape.plain_of_mem_collect Method.shape_reads known
  obtain ⟨head, -, made⟩ := Shape.exists_of_mem_collect Method.shape_namesEntries known
  obtain ⟨signature, found, rfl⟩ := Option.map_eq_some_iff.mp made
  refine ⟨member, ?parameters, ?returnType⟩
  case parameters =>
    intro p listed
    exact ((Parameter.normalList_listed signature.parameters).normal p listed).plain
  case returnType =>
    obtain ⟨u, -, found⟩ := Option.bind_eq_some_iff.mp found
    obtain ⟨p, -, rfl⟩ := Option.map_eq_some_iff.mp found
    cases returns : returnType? p.rest with
    | none => exact (by decide : OneLine voidType)
    | some type => exact oneLine_returnType? type returns

theorem Declaration.plain_of_ofSource? {source : Text} {d : Declaration}
    (found : ofSource? source = some d) : d.Plain := by
  obtain ⟨head, first, found⟩ := Option.bind_eq_some_iff.mp found
  obtain ⟨keyword, -, rfl⟩ := Option.map_eq_some_iff.mp found
  obtain ⟨t, read⟩ := Head.form_of_mem_declarations (List.mem_of_head? first)
  exact ⟨(oneWord_of_named? read).oneLine, oneLine_description (oneLine_comment head)⟩

theorem Member.Plain.oneLine_anchor {kind : MemberKind} {m : Member} (plain : m.Plain kind) :
    OneLine m.anchor := by
  rw [plain.anchored]
  exact ReferencePage.oneLine_anchor kind plain.word.oneLine

theorem Member.Plain.linked {kind : MemberKind} {m : Member} (plain : m.Plain kind)
    {link : Text → Text} (kept : ∀ t, OneLine t → OneLine (link t)) :
    Member.Plain kind { m with comment := m.comment.map link } :=
  ⟨plain.word, plain.anchored, oneLine_description_linked kept plain.description⟩

namespace Document

variable {d : Document}

theorem Plain.targets (plain : d.Plain) :
    ∀ t ∈ d.targets, OneLine t.name ∧ OneLine t.anchor := by
  intro t known
  obtain ⟨m, member, rfl⟩ := List.mem_map.mp known
  rcases List.mem_append.mp member with property | method
  · obtain ⟨p, listed, rfl⟩ := List.mem_map.mp property
    have plain := (plain.properties p listed).member
    exact ⟨plain.word.oneLine, plain.oneLine_anchor⟩
  · obtain ⟨o, listed, rfl⟩ := List.mem_map.mp method
    have plain := (plain.methods o listed).member
    exact ⟨plain.word.oneLine, plain.oneLine_anchor⟩

theorem Plain.linked (plain : d.Plain) : d.linked.Plain := by
  have kept : ∀ t, OneLine t → OneLine (linkText d.targets t) :=
    fun t line => oneLine_linkText plain.targets line
  refine ⟨?declaration, ?properties, ?methods⟩
  case declaration =>
    exact ⟨plain.declaration.name,
      oneLine_description_linked kept plain.declaration.description⟩
  case properties =>
    rw [properties_linked]
    intro p known
    obtain ⟨before, listed, rfl⟩ := List.mem_map.mp known
    have property := plain.properties before listed
    exact ⟨property.member.linked kept, property.type⟩
  case methods =>
    rw [methods_linked]
    intro m known
    obtain ⟨before, listed, rfl⟩ := List.mem_map.mp known
    have method := plain.methods before listed
    exact ⟨method.member.linked kept, method.parameters, method.returnType⟩

/-- Of every document that is made from a source. -/
theorem plain_of_ofSource? {source : Text} (made : ofSource? source = some d) : d.Plain := by
  obtain ⟨declaration, found, rfl⟩ := Option.map_eq_some_iff.mp made
  have unlinked : (unlinked source declaration).Plain :=
    ⟨Declaration.plain_of_ofSource? found, fun _ => Property.plain_of_mem_collect,
      fun _ => Method.plain_of_mem_collect⟩
  exact unlinked.linked

end Document

/- All that a page says about a member or a document. -/

def Property.texts (p : Property) : List Text := [p.name, p.anchor, p.type, p.description]

def Method.texts (m : Method) : List Text :=
  [m.name, m.anchor, m.returnType, m.description] ++ m.parameters.flatMap fun p => [p.name, p.type]

def Document.texts (d : Document) : List Text :=
  [d.declaration.name, d.declaration.description]
    ++ d.properties.flatMap Property.texts ++ d.methods.flatMap Method.texts

theorem Property.Plain.oneLine_texts {p : Property} (plain : p.Plain) :
    ∀ t ∈ p.texts, OneLine t := by
  simp only [texts, List.forall_mem_cons, List.not_mem_nil, false_imp_iff, implies_true, and_true]
  exact ⟨plain.member.word.oneLine, plain.member.oneLine_anchor, plain.type,
    plain.member.description⟩

theorem Method.Plain.oneLine_texts {m : Method} (plain : m.Plain) : ∀ t ∈ m.texts, OneLine t := by
  simp only [texts, List.forall_mem_append, List.forall_mem_cons, List.not_mem_nil, false_imp_iff,
    implies_true, and_true, List.forall_mem_flatMap]
  refine ⟨⟨plain.member.word.oneLine, plain.member.oneLine_anchor, plain.returnType,
    plain.member.description⟩, ?_⟩
  intro p listed
  exact ⟨(plain.parameters p listed).name, (plain.parameters p listed).type⟩

theorem Document.Plain.oneLine_texts {d : Document} (plain : d.Plain) :
    ∀ t ∈ d.texts, OneLine t := by
  intro t known
  simp only [texts, List.mem_append, List.mem_cons, List.not_mem_nil, or_false,
    List.mem_flatMap] at known
  rcases known with ((rfl | rfl) | ⟨p, listed, known⟩) | ⟨m, listed, known⟩
  · exact plain.declaration.name
  · exact plain.declaration.description
  · exact (plain.properties p listed).oneLine_texts t known
  · exact (plain.methods m listed).oneLine_texts t known

end ReferencePage
