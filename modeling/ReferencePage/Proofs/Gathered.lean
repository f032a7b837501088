import Mathlib.Data.List.Nodup
import ReferencePage.Document.Assembly
import ReferencePage.Proofs.Collected
import ReferencePage.Proofs.LinkedDocument
import ReferencePage.Proofs.Words

/-! Documents gathered step by step from any number of sources.  Whatever was gathered before, the
first complete head with a name makes the one member that bears it, and a source that was gone
through once has nothing more to give. -/
namespace ReferencePage

open Text

theorem nodup_eraseDups {α : Type} [BEq α] [LawfulBEq α] (l : List α) : l.eraseDups.Nodup := by
  match l with
  | [] => exact List.nodup_nil
  | a :: l =>
    rw [List.eraseDups_cons]
    have others := nodup_eraseDups (l.filter fun b => !b == a)
    refine List.nodup_cons.mpr ⟨?_, others⟩
    rw [List.mem_eraseDups]
    simp
termination_by l.length
decreasing_by exact Nat.lt_succ_of_le (List.length_filter_le _ _)

theorem oneWord_of_named? {keywords : List Text} {t : Text} {form : Form}
    (found : named? keywords t = some form) : OneWord form.name.text := by
  obtain ⟨keyword, -, found⟩ := List.exists_of_findSome?_eq_some found
  obtain ⟨rest, -, found⟩ := Option.bind_eq_some_iff.mp found
  obtain ⟨u, -, found⟩ := Option.bind_eq_some_iff.mp found
  obtain ⟨name, word, rfl⟩ := Option.map_eq_some_iff.mp found
  exact (oneWord_of_word? word).1

theorem Form.oneWord_of_method? {t : Text} {form : Form} (found : method? t = some form) :
    OneWord form.name.text :=
  oneWord_of_named? found

theorem Form.oneWord_of_property? {t : Text} {form : Form} (found : property? t = some form) :
    OneWord form.name.text := by
  obtain ⟨named, word, found⟩ := Option.bind_eq_some_iff.mp found
  obtain ⟨rest, -, found⟩ := Option.bind_eq_some_iff.mp found
  obtain ⟨type, -, rfl⟩ := Option.map_eq_some_iff.mp found
  have one : OneWord named.name.text := oneWord_of_named? word
  exact one

/- A head holds a form that was read somewhere. -/
namespace Head

variable {form? : Text → Option Form} {before : Option Char} {t : Text} {head : Head}

theorem form_of_documented? (found : documented? form? before t = some head) :
    ∃ u, form? u = some head.toForm := by
  obtain ⟨comment, -, found⟩ := Option.bind_eq_some_iff.mp found
  obtain ⟨form, read, rfl⟩ := Option.map_eq_some_iff.mp found
  exact ⟨_, read⟩

theorem form_of_mem_declarations {source : Text} (known : head ∈ declarations source) :
    ∃ u, Form.declaration? u = some head.toForm := by
  obtain ⟨before, rest, here⟩ := succeeds_of_mem_scan known
  rcases documented_or_modified here.found with first | second
  · exact form_of_documented? first
  · obtain ⟨-, form, read, rfl⟩ := exists_form_of_modified? second
    exact ⟨_, read⟩

end Head

namespace Shape

variable {α : Type} (shape : Shape α) (member : α → Member)

def heads (source : Text) : List Head := shape.documentedHeads source ++ shape.bareHeads source

/-- What the shape reads: an entry holds the member that its head declares, and a name is a word. -/
structure Reads : Prop where
  named : ∀ entry, shape.name entry = (member entry).name
  made : ∀ head entry, shape.entry? head = some entry →
    member entry = .of shape.kind head.name.text head.comment
  word : ∀ t form, shape.form? t = some form → OneWord form.name.text

/-- The first head with this name that goes on as its kind demands. -/
def FirstComplete (heads : List Head) (name : Text) (head : Head) : Prop :=
  (shape.completeHeads heads).find? (fun h => h.name.text = name) = some head

/-- What a list of members is that was gathered from these sources.  A member has a description of
its own exactly when a comment that says something belongs to the head that it comes from. -/
structure Gathered (sources : List Text) (entries : List α) : Prop where
  distinct : (entries.map fun entry => (member entry).name).Nodup
  word : ∀ entry ∈ entries, OneWord (member entry).name
  anchored : ∀ entry ∈ entries, (member entry).anchor = shape.kind.anchor (member entry).name
  origin : ∀ entry ∈ entries, ∃ head,
    shape.FirstComplete (sources.flatMap shape.heads) (member entry).name head ∧
      ((member entry).note.documented = false ↔ ∀ doc ∈ head.doc, plainText? doc.text = none)
  placeholder : ∀ entry ∈ entries,
    (member entry).note.documented = false → (member entry).description = missingDescription

variable {shape member}

theorem Reads.namesEntries (reads : shape.Reads member) : shape.NamesEntries := by
  intro head entry complete
  rw [reads.named, reads.made head entry complete]
  rfl

theorem collect_eq_foldl (source : Text) (entries : List α) :
    shape.collect source entries = (shape.heads source).foldl shape.add entries :=
  List.foldl_append.symm

theorem foldl_collect (sources : List Text) (entries : List α) :
    sources.foldl (fun entries source => shape.collect source entries) entries =
      (sources.flatMap shape.heads).foldl shape.add entries := by
  induction sources generalizing entries with
  | nil => rfl
  | cons source sources ih =>
    rw [List.foldl_cons, ih, List.flatMap_cons, List.foldl_append, collect_eq_foldl]

theorem map_name_firstEntries (names : shape.NamesEntries) (entries : List α) (heads : List Head) :
    (shape.firstEntries entries heads).map shape.name = shape.newNames entries heads := by
  unfold firstEntries
  rw [List.map_filterMap]
  have each : ∀ name ∈ shape.newNames entries heads,
      (((shape.completeHeads heads).find? fun head => head.name.text = name).bind
        shape.entry?).map shape.name = some name := by
    intro name member
    obtain ⟨⟨head, kept, bears⟩, -⟩ := mem_newNames.mp member
    have found : ((shape.completeHeads heads).find? fun h => h.name.text = name).isSome :=
      List.find?_isSome.mpr ⟨head, kept, by simpa using bears⟩
    obtain ⟨first, found⟩ := Option.isSome_iff_exists.mp found
    have complete := (List.mem_filter.mp (List.mem_of_find?_eq_some found)).2
    obtain ⟨entry, made⟩ := Option.isSome_iff_exists.mp complete
    have same : first.name.text = name := by simpa using List.find?_some found
    rw [found, Option.bind_some, made, Option.map_some, names first entry made, same]
  rw [List.filterMap_congr each, List.filterMap_some]

theorem nodup_firstEntries (names : shape.NamesEntries) (entries : List α) (heads : List Head) :
    ((shape.firstEntries entries heads).map shape.name).Nodup := by
  rw [map_name_firstEntries names]
  exact (nodup_eraseDups _).filter _

theorem form_of_mem_heads {source : Text} {head : Head} (known : head ∈ shape.heads source) :
    ∃ t, shape.form? t = some head.toForm := by
  rcases List.mem_append.mp known with known | known
  · obtain ⟨before, rest, here⟩ := succeeds_of_mem_scan known
    exact Head.form_of_documented? here.found
  · obtain ⟨before, rest, here⟩ := succeeds_of_mem_scan known
    obtain ⟨form, read, rfl⟩ := Head.exists_form_of_bare? here.found
    exact ⟨rest, read⟩

theorem word_of_mem_heads (reads : shape.Reads member) {source : Text} {head : Head}
    (known : head ∈ shape.heads source) : OneWord head.name.text := by
  obtain ⟨t, read⟩ := form_of_mem_heads known
  exact reads.word t head.toForm read

theorem exists_of_mem_firstEntries {entries : List α} {heads : List Head} {entry : α}
    (names : shape.NamesEntries) (known : entry ∈ shape.firstEntries entries heads) :
    ∃ head ∈ heads, shape.FirstComplete heads (shape.name entry) head ∧
      shape.entry? head = some entry := by
  obtain ⟨name, new, made⟩ := List.mem_filterMap.mp known
  obtain ⟨head, first, complete⟩ := Option.bind_eq_some_iff.mp made
  have bears : head.name.text = name := by simpa using List.find?_some first
  have same : shape.name entry = name := (names head entry complete).trans bears
  refine ⟨head, ?_, same ▸ first, complete⟩
  exact (List.mem_filter.mp (List.mem_of_find?_eq_some first)).1

theorem exists_added (names : shape.NamesEntries) (source : Text) (entries : List α) :
    ∃ added, shape.collect source entries = entries ++ added ∧
      ∀ entry ∈ added, ∃ head ∈ shape.heads source, shape.entry? head = some entry := by
  refine ⟨shape.firstEntries entries (shape.heads source), ?_, ?_⟩
  · rw [collect_eq_foldl, foldl_add names]
  · intro entry known
    obtain ⟨head, listed, -, made⟩ := exists_of_mem_firstEntries names known
    exact ⟨head, listed, made⟩

theorem comment_eq_none {head : Head} :
    head.comment = none ↔ ∀ doc ∈ head.doc, plainText? doc.text = none :=
  Option.bind_eq_none_iff

theorem gathered_foldl (reads : shape.Reads member) (sources : List Text) :
    shape.Gathered member sources
      (sources.foldl (fun entries source => shape.collect source entries) []) := by
  have names := reads.namesEntries
  rw [foldl_collect, foldl_add names, List.nil_append]
  have origin : ∀ entry ∈ shape.firstEntries [] (sources.flatMap shape.heads),
      ∃ head ∈ sources.flatMap shape.heads,
        shape.FirstComplete (sources.flatMap shape.heads) (member entry).name head ∧
          member entry = .of shape.kind head.name.text head.comment := by
    intro entry known
    obtain ⟨head, listed, first, complete⟩ := exists_of_mem_firstEntries names known
    exact ⟨head, listed, reads.named entry ▸ first, reads.made head entry complete⟩
  refine ⟨?distinct, ?word, ?anchored, ?origin, ?placeholder⟩
  case distinct =>
    have same : shape.name = fun entry => (member entry).name := funext reads.named
    exact same ▸ nodup_firstEntries names [] (sources.flatMap shape.heads)
  case word =>
    intro entry known
    obtain ⟨head, listed, -, made⟩ := origin entry known
    obtain ⟨source, -, listed⟩ := List.mem_flatMap.mp listed
    rw [made]
    exact word_of_mem_heads reads listed
  case anchored =>
    intro entry known
    obtain ⟨head, -, -, made⟩ := origin entry known
    rw [made]
    rfl
  case origin =>
    intro entry known
    obtain ⟨head, -, first, made⟩ := origin entry known
    refine ⟨head, first, ?_⟩
    rw [← comment_eq_none, made]
    exact Option.isSome_eq_false_iff.trans Option.isNone_iff_eq_none
  case placeholder =>
    intro entry _ missing
    have none := Option.isNone_iff_eq_none.mp (Option.isSome_eq_false_iff.mp missing)
    rw [Member.description, none, Option.getD_none]

theorem Gathered.map {sources : List Text} {entries : List α} {link : Text → Text} {f : α → α}
    (gathered : shape.Gathered member sources entries)
    (linked : ∀ entry, (member entry).LinkedTo link (member (f entry))) :
    shape.Gathered member sources (entries.map f) := by
  have documented : ∀ entry,
      (member (f entry)).note.documented = (member entry).note.documented := by
    intro entry
    rw [(linked entry).note, Note.linked]
  refine ⟨?distinct, ?word, ?anchored, ?origin, ?placeholder⟩
  case distinct =>
    rw [List.map_map]
    exact (List.map_congr_left fun entry _ => (linked entry).name) ▸ gathered.distinct
  case word =>
    intro entry known
    obtain ⟨before, listed, rfl⟩ := List.mem_map.mp known
    rw [(linked before).name]
    exact gathered.word before listed
  case anchored =>
    intro entry known
    obtain ⟨before, listed, rfl⟩ := List.mem_map.mp known
    rw [(linked before).anchor, (linked before).name]
    exact gathered.anchored before listed
  case origin =>
    intro entry known
    obtain ⟨before, listed, rfl⟩ := List.mem_map.mp known
    rw [(linked before).name, documented]
    exact gathered.origin before listed
  case placeholder =>
    intro entry known missing
    obtain ⟨before, -, rfl⟩ := List.mem_map.mp known
    rw [documented] at missing
    have description := congrArg Note.description (linked before).note
    rw [Note.linked, missing] at description
    exact description

theorem add_eq_self {entries : List α} {head : Head}
    (listed : (shape.entry? head).isSome → shape.lists entries head.name.text = true) :
    shape.add entries head = entries := by
  unfold add
  split
  · rfl
  · rename_i unlisted
    have incomplete : shape.entry? head = none := by
      rw [← Option.not_isSome_iff_eq_none]
      exact fun complete => unlisted (listed complete)
    rw [incomplete, Option.toList_none, List.append_nil]

theorem foldl_add_eq_self {entries : List α} {heads : List Head}
    (listed : ∀ head ∈ heads, (shape.entry? head).isSome →
      shape.lists entries head.name.text = true) :
    heads.foldl shape.add entries = entries := by
  induction heads with
  | nil => rfl
  | cons head heads ih =>
    obtain ⟨first, others⟩ := List.forall_mem_cons.mp listed
    rw [List.foldl_cons, add_eq_self first]
    exact ih others

theorem collect_of_mem (names : shape.NamesEntries) {sources : List Text} {source : Text}
    (known : source ∈ sources) :
    shape.collect source (sources.foldl (fun entries source => shape.collect source entries) []) =
      sources.foldl (fun entries source => shape.collect source entries) [] := by
  rw [foldl_collect, collect_eq_foldl]
  apply foldl_add_eq_self
  intro head listed complete
  have before : head ∈ sources.flatMap shape.heads := List.mem_flatMap.mpr ⟨source, known, listed⟩
  rw [foldl_add names, List.nil_append]
  exact lists_firstEntries names before complete rfl

theorem prefix_collect (names : shape.NamesEntries) (source : Text) (entries : List α) :
    entries <+: shape.collect source entries := by
  rw [collect_eq_foldl, foldl_add names]
  exact List.prefix_append _ _

end Shape

theorem Property.shape_reads : Property.shape.Reads Property.toMember where
  named := fun _ => rfl
  made := by
    intro head entry complete
    cases Option.some.inj complete
    rfl
  word := fun _ _ => Form.oneWord_of_property?

theorem Method.shape_reads : Method.shape.Reads Method.toMember where
  named := fun _ => rfl
  made := by
    intro head entry complete
    obtain ⟨signature, -, rfl⟩ := Option.map_eq_some_iff.mp complete
    rfl
  word := fun _ _ => Form.oneWord_of_method?

/-- A member without what its comment says. -/
def Member.outline (m : Member) : Member := { m with comment := m.comment.map fun _ => [] }

def Property.outline (p : Property) : Property := { p with toMember := p.toMember.outline }

def Method.outline (m : Method) : Method := { m with toMember := m.toMember.outline }

/-- A step of a run: to gather the members of one kind from one source. -/
structure Gathering where
  kind : MemberKind
  source : Text
  deriving DecidableEq, Repr

def Gathering.sources (kind : MemberKind) (gatherings : List Gathering) : List Text :=
  (gatherings.filter fun g => g.kind = kind).map Gathering.source

namespace Document

def gather (d : Document) (g : Gathering) : Document :=
  match g.kind with
  | .property => collectProperties g.source d
  | .method => collectMethods g.source d

/-- A run, from a document that has no members yet. -/
def gathered (declaration : Declaration) (gatherings : List Gathering) : Document :=
  gatherings.foldl gather (empty declaration)

/-- One more step on the way from `before` to `after`.  Members of its kind come behind those that
were there, and nothing else changes. -/
structure Grows (kind : MemberKind) (before after : Document) : Prop where
  declaration : after.declaration = before.declaration
  properties : before.properties <+: after.properties
  methods : before.methods <+: after.methods
  others : match kind with
    | .property => after.methods = before.methods
    | .method => after.properties = before.properties

/- The same of two documents whose comments are linked, where a link can lead to a new member. -/
structure GrowsInOutline (kind : MemberKind) (before after : Document) : Prop where
  properties : before.properties.map Property.outline <+: after.properties.map Property.outline
  methods : before.methods.map Method.outline <+: after.methods.map Method.outline
  others : match kind with
    | .property => after.methods.map Method.outline = before.methods.map Method.outline
    | .method => after.properties.map Property.outline = before.properties.map Property.outline

/-- What holds at the end of every run. -/
structure SoundRun (declaration : Declaration) (gatherings : List Gathering) : Prop where
  properties : Property.shape.Gathered Property.toMember (Gathering.sources .property gatherings)
    (gathered declaration gatherings).linked.properties
  methods : Method.shape.Gathered Method.toMember (Gathering.sources .method gatherings)
    (gathered declaration gatherings).linked.methods
  apart : ∀ p ∈ (gathered declaration gatherings).linked.properties,
    ∀ m ∈ (gathered declaration gatherings).linked.methods, p.anchor ≠ m.anchor
  grows : ∀ g, Grows g.kind (gathered declaration gatherings)
    (gathered declaration (gatherings ++ [g]))
  grows_linked : ∀ g, GrowsInOutline g.kind (gathered declaration gatherings).linked
    (gathered declaration (gatherings ++ [g])).linked
  absorbs : ∀ g ∈ gatherings,
    gathered declaration (gatherings ++ [g]) = gathered declaration gatherings

variable (declaration : Declaration) (gatherings : List Gathering)

theorem properties_foldl_gather (d : Document) :
    (gatherings.foldl gather d).properties =
      (Gathering.sources .property gatherings).foldl
        (fun entries source => Property.shape.collect source entries) d.properties := by
  induction gatherings generalizing d with
  | nil => rfl
  | cons g gatherings ih =>
    obtain ⟨kind, source⟩ := g
    rw [List.foldl_cons, ih]
    cases kind <;> rfl

theorem methods_foldl_gather (d : Document) :
    (gatherings.foldl gather d).methods =
      (Gathering.sources .method gatherings).foldl
        (fun entries source => Method.shape.collect source entries) d.methods := by
  induction gatherings generalizing d with
  | nil => rfl
  | cons g gatherings ih =>
    obtain ⟨kind, source⟩ := g
    rw [List.foldl_cons, ih]
    cases kind <;> rfl

theorem gathered_append (g : Gathering) :
    gathered declaration (gatherings ++ [g]) = (gathered declaration gatherings).gather g :=
  List.foldl_concat ..

theorem gathered_properties :
    Property.shape.Gathered Property.toMember (Gathering.sources .property gatherings)
      (gathered declaration gatherings).properties := by
  rw [gathered, properties_foldl_gather]
  exact Shape.gathered_foldl Property.shape_reads _

theorem gathered_methods :
    Method.shape.Gathered Method.toMember (Gathering.sources .method gatherings)
      (gathered declaration gatherings).methods := by
  rw [gathered, methods_foldl_gather]
  exact Shape.gathered_foldl Method.shape_reads _

theorem grows_gather (d : Document) (g : Gathering) : Grows g.kind d (d.gather g) := by
  obtain ⟨kind, source⟩ := g
  cases kind with
  | property =>
    exact ⟨rfl, Shape.prefix_collect Property.shape_namesEntries _ _, List.prefix_refl _, rfl⟩
  | method =>
    exact ⟨rfl, List.prefix_refl _, Shape.prefix_collect Method.shape_namesEntries _ _, rfl⟩

theorem properties_linked (d : Document) : d.linked.properties =
    d.properties.map fun p => { p with comment := p.comment.map (linkText d.targets) } :=
  rfl

theorem methods_linked (d : Document) : d.linked.methods =
    d.methods.map fun m => { m with comment := m.comment.map (linkText d.targets) } :=
  rfl

theorem map_outline_properties (d : Document) :
    d.linked.properties.map Property.outline = d.properties.map Property.outline := by
  simp [properties_linked, Property.outline, Member.outline, Function.comp_def]

theorem map_outline_methods (d : Document) :
    d.linked.methods.map Method.outline = d.methods.map Method.outline := by
  simp [methods_linked, Method.outline, Member.outline, Function.comp_def]

theorem Grows.outline {kind : MemberKind} {before after : Document}
    (grows : Grows kind before after) : GrowsInOutline kind before.linked after.linked := by
  refine ⟨?properties, ?methods, ?others⟩
  case properties =>
    rw [map_outline_properties, map_outline_properties]
    exact grows.properties.map _
  case methods =>
    rw [map_outline_methods, map_outline_methods]
    exact grows.methods.map _
  case others =>
    rw [map_outline_properties, map_outline_properties, map_outline_methods, map_outline_methods]
    have others := grows.others
    cases kind with
    | property => exact congrArg _ others
    | method => exact congrArg _ others

theorem gather_of_mem {g : Gathering} (known : g ∈ gatherings) :
    (gathered declaration gatherings).gather g = gathered declaration gatherings := by
  obtain ⟨kind, source⟩ := g
  have gone : source ∈ Gathering.sources kind gatherings :=
    List.mem_map.mpr ⟨⟨kind, source⟩, List.mem_filter.mpr ⟨known, by simp⟩, rfl⟩
  cases kind with
  | property =>
    have list : (gathered declaration gatherings).properties = _ :=
      properties_foldl_gather gatherings (empty declaration)
    have same : Property.shape.collect source (gathered declaration gatherings).properties =
        (gathered declaration gatherings).properties := by
      rw [list]
      exact Shape.collect_of_mem Property.shape_namesEntries gone
    simp only [gather, collectProperties, same]
  | method =>
    have list : (gathered declaration gatherings).methods = _ :=
      methods_foldl_gather gatherings (empty declaration)
    have same : Method.shape.collect source (gathered declaration gatherings).methods =
        (gathered declaration gatherings).methods := by
      rw [list]
      exact Shape.collect_of_mem Method.shape_namesEntries gone
    simp only [gather, collectMethods, same]

theorem anchor_ne (name other : Text) :
    MemberKind.property.anchor name ≠ MemberKind.method.anchor other := by
  intro same
  have first : MemberKind.property.word.head?.or (some '-') =
      MemberKind.method.word.head?.or (some '-') := by
    simpa only [MemberKind.anchor, List.head?_append, List.head?_cons] using
      congrArg List.head? same
  exact absurd first (by decide)

theorem gathered_linked_properties :
    Property.shape.Gathered Property.toMember (Gathering.sources .property gatherings)
      (gathered declaration gatherings).linked.properties := by
  rw [properties_linked]
  exact (gathered_properties declaration gatherings).map fun p => (property_linkedTo _ p).member

theorem gathered_linked_methods :
    Method.shape.Gathered Method.toMember (Gathering.sources .method gatherings)
      (gathered declaration gatherings).linked.methods := by
  rw [methods_linked]
  exact (gathered_methods declaration gatherings).map fun m => (method_linkedTo _ m).member

theorem soundRun : SoundRun declaration gatherings := by
  have properties := gathered_linked_properties declaration gatherings
  have methods := gathered_linked_methods declaration gatherings
  refine ⟨properties, methods, ?apart, ?grows, ?grows_linked, ?absorbs⟩
  case apart =>
    intro p hp m hm same
    have opens := properties.anchored p hp
    rw [same, methods.anchored m hm] at opens
    exact anchor_ne _ _ opens.symm
  case grows =>
    intro g
    rw [gathered_append]
    exact grows_gather _ g
  case grows_linked =>
    intro g
    rw [gathered_append]
    exact (grows_gather _ g).outline
  case absorbs =>
    intro g known
    rw [gathered_append]
    exact gather_of_mem declaration gatherings known

end Document
end ReferencePage
