import Mathlib.Data.List.Basic
import ReferencePage.Document.Members
import ReferencePage.Proofs.Finds

/-! What the two passes over a source add to a list of members.  Each name gets one entry, from the
first complete head that has it; documented heads come first, and no incomplete head counts. -/
namespace ReferencePage

open Text

theorem eraseDups_filter {α : Type} [BEq α] [LawfulBEq α] (p : α → Bool) (l : List α) :
    (l.filter p).eraseDups = l.eraseDups.filter p := by
  match l with
  | [] => rfl
  | a :: l =>
    have others := eraseDups_filter p (l.filter fun b => !b == a)
    rw [List.eraseDups_cons]
    by_cases holds : p a = true
    · rw [List.filter_cons_of_pos holds, List.filter_cons_of_pos holds, List.eraseDups_cons,
        List.filter_comm, others]
    · rw [List.filter_cons_of_neg holds, List.filter_cons_of_neg holds, ← others,
        List.filter_filter]
      congr 1
      apply List.filter_congr
      intro b _
      by_cases same : b = a
      · simp [same, holds]
      · simp [same]
termination_by l.length
decreasing_by exact Nat.lt_succ_of_le (List.length_filter_le _ _)

namespace Shape

variable {α : Type} (shape : Shape α)

def completeHeads (heads : List Head) : List Head :=
  heads.filter fun head => (shape.entry? head).isSome

/-- The names of complete heads that are not listed yet, in the order of their first heads. -/
def newNames (members : List α) (heads : List Head) : List Text :=
  ((shape.completeHeads heads).map fun head => head.name.text).eraseDups.filter fun name =>
    !shape.lists members name

def firstEntries (members : List α) (heads : List Head) : List α :=
  (shape.newNames members heads).filterMap fun name =>
    ((shape.completeHeads heads).find? fun head => head.name.text = name).bind shape.entry?

def documentedEntries (source : Text) (members : List α) : List α :=
  shape.firstEntries members (shape.documentedHeads source)

/- A name that the first pass has added is not new to the second. -/
def bareEntries (source : Text) (members : List α) : List α :=
  shape.firstEntries (members ++ shape.documentedEntries source members) (shape.bareHeads source)

/-- An entry bears the name of the head it is made from. -/
def NamesEntries : Prop :=
  ∀ head entry, shape.entry? head = some entry → shape.name entry = head.name.text

variable {shape} {members : List α} {head : Head} {heads : List Head}

theorem lists_append (added : List α) (name : Text) :
    shape.lists (members ++ added) name =
      (shape.lists members name || shape.lists added name) :=
  List.any_append

theorem mem_newNames {name : Text} : name ∈ shape.newNames members heads ↔
    (∃ head ∈ shape.completeHeads heads, head.name.text = name) ∧
      shape.lists members name = false := by
  simp [newNames]

theorem firstEntries_cons_incomplete (incomplete : shape.entry? head = none) :
    shape.firstEntries members (head :: heads) = shape.firstEntries members heads := by
  simp [firstEntries, newNames, completeHeads, incomplete]

theorem filterMap_entry_cons {names : List Text} (others : head.name.text ∉ names) :
    (names.filterMap fun name =>
        ((head :: heads).find? fun h => h.name.text = name).bind shape.entry?) =
      names.filterMap fun name => (heads.find? fun h => h.name.text = name).bind shape.entry? := by
  apply List.filterMap_congr
  intro name member
  have differs : head.name.text ≠ name := fun same => others (same ▸ member)
  rw [List.find?_cons_of_neg (by simpa using differs)]

theorem newNames_cons_listed {entry : α} (complete : shape.entry? head = some entry)
    (listed : shape.lists members head.name.text = true) :
    shape.newNames members (head :: heads) = shape.newNames members heads := by
  have kept : shape.completeHeads (head :: heads) = head :: shape.completeHeads heads :=
    List.filter_cons_of_pos (by simp [complete])
  unfold newNames
  rw [kept, List.map_cons, List.eraseDups_cons, List.filter_cons_of_neg (by simp [listed]),
    eraseDups_filter, List.filter_filter]
  apply List.filter_congr
  intro name _
  by_cases same : name = head.name.text
  · simp [same, listed]
  · simp [same]

theorem newNames_cons_new {entry : α} (complete : shape.entry? head = some entry)
    (named : shape.name entry = head.name.text)
    (new : shape.lists members head.name.text = false) :
    shape.newNames members (head :: heads) =
      head.name.text :: shape.newNames (members ++ [entry]) heads := by
  have kept : shape.completeHeads (head :: heads) = head :: shape.completeHeads heads :=
    List.filter_cons_of_pos (by simp [complete])
  unfold newNames
  rw [kept, List.map_cons, List.eraseDups_cons, List.filter_cons_of_pos (by simp [new]),
    eraseDups_filter, List.filter_filter]
  congr 1
  apply List.filter_congr
  intro name _
  rw [lists_append, Bool.not_or]
  congr 1
  simp [lists, named, Bool.beq_comm]

theorem firstEntries_cons_listed {entry : α} (complete : shape.entry? head = some entry)
    (listed : shape.lists members head.name.text = true) :
    shape.firstEntries members (head :: heads) = shape.firstEntries members heads := by
  have kept : shape.completeHeads (head :: heads) = head :: shape.completeHeads heads :=
    List.filter_cons_of_pos (by simp [complete])
  unfold firstEntries
  rw [newNames_cons_listed complete listed, kept]
  apply filterMap_entry_cons
  intro member
  rw [(mem_newNames.mp member).2] at listed
  contradiction

theorem firstEntries_cons_new {entry : α} (complete : shape.entry? head = some entry)
    (named : shape.name entry = head.name.text)
    (new : shape.lists members head.name.text = false) :
    shape.firstEntries members (head :: heads) =
      entry :: shape.firstEntries (members ++ [entry]) heads := by
  have kept : shape.completeHeads (head :: heads) = head :: shape.completeHeads heads :=
    List.filter_cons_of_pos (by simp [complete])
  have first : ((head :: shape.completeHeads heads).find? fun h =>
      h.name.text = head.name.text).bind shape.entry? = some entry := by
    rw [List.find?_cons_of_pos (by simp)]
    exact complete
  unfold firstEntries
  rw [newNames_cons_new complete named new, kept]
  simp only [List.filterMap_cons, first]
  congr 1
  apply filterMap_entry_cons
  intro member
  have later := (mem_newNames.mp member).2
  rw [lists_append] at later
  simp [lists, named] at later

theorem foldl_add (names : shape.NamesEntries) (heads : List Head) (members : List α) :
    heads.foldl shape.add members = members ++ shape.firstEntries members heads := by
  induction heads generalizing members with
  | nil => simp [firstEntries, newNames, completeHeads]
  | cons head heads ih =>
    rw [List.foldl_cons, ih, add]
    cases complete : shape.entry? head with
    | none =>
      rw [firstEntries_cons_incomplete complete, Option.toList_none, List.append_nil, ite_self]
    | some entry =>
      split
      · rename_i listed
        rw [firstEntries_cons_listed complete listed]
      · rename_i new
        rw [firstEntries_cons_new complete (names head entry complete) (by simpa using new)]
        simp

theorem collect_eq (names : shape.NamesEntries) (source : Text) (members : List α) :
    shape.collect source members = members ++ shape.documentedEntries source members ++
      shape.bareEntries source members := by
  rw [collect, collectDocumented, foldl_add names, foldl_add names]
  rfl

theorem mem_firstEntries (names : shape.NamesEntries) {entry : α}
    (member : entry ∈ shape.firstEntries members heads) :
    shape.lists members (shape.name entry) = false := by
  obtain ⟨name, new, made⟩ := List.mem_filterMap.mp member
  obtain ⟨head, first, complete⟩ := Option.bind_eq_some_iff.mp made
  have bears : head.name.text = name := by simpa using List.find?_some first
  rw [names head entry complete, bears]
  exact (mem_newNames.mp new).2

theorem exists_mem_firstEntries (names : shape.NamesEntries) (member : head ∈ heads)
    (complete : (shape.entry? head).isSome) (new : shape.lists members head.name.text = false) :
    ∃ entry ∈ shape.firstEntries members heads, shape.name entry = head.name.text := by
  have kept : head ∈ shape.completeHeads heads := List.mem_filter.mpr ⟨member, complete⟩
  have found : ((shape.completeHeads heads).find? fun h =>
      h.name.text = head.name.text).isSome := List.find?_isSome.mpr ⟨head, kept, by simp⟩
  obtain ⟨first, found⟩ := Option.isSome_iff_exists.mp found
  have first_complete := (List.mem_filter.mp (List.mem_of_find?_eq_some found)).2
  obtain ⟨entry, made⟩ := Option.isSome_iff_exists.mp first_complete
  have bears : first.name.text = head.name.text := by simpa using List.find?_some found
  refine ⟨entry, List.mem_filterMap.mpr ⟨head.name.text, ?_, ?_⟩, ?_⟩
  · exact mem_newNames.mpr ⟨⟨head, kept, rfl⟩, new⟩
  · rw [found]
    exact made
  · rw [names first entry made, bears]

theorem lists_firstEntries (names : shape.NamesEntries) (member : head ∈ heads)
    (complete : (shape.entry? head).isSome) (new : shape.lists members head.name.text = false) :
    shape.lists (shape.firstEntries members heads) head.name.text = true := by
  obtain ⟨entry, added, bears⟩ := exists_mem_firstEntries names member complete new
  exact List.any_eq_true.mpr ⟨entry, added, by simp [bears]⟩

theorem doc_of_mem_documentedHeads {source : Text} (member : head ∈ shape.documentedHeads source) :
    ∃ doc, head.doc = some doc := by
  obtain ⟨before, rest, here⟩ := succeeds_of_mem_scan member
  obtain ⟨comment, -, made⟩ := Option.bind_eq_some_iff.mp here.found
  obtain ⟨form, -, rfl⟩ := Option.map_eq_some_iff.mp made
  exact ⟨comment.body, rfl⟩

theorem doc_of_mem_bareHeads {source : Text} (member : head ∈ shape.bareHeads source) :
    head.doc = none := by
  obtain ⟨before, rest, here⟩ := succeeds_of_mem_scan member
  have found := here.found
  unfold Head.bare? at found
  split at found
  · obtain ⟨form, -, rfl⟩ := Option.map_eq_some_iff.mp found
    rfl
  · contradiction

variable (shape) (members) in
/-- The documented entries and then the bare ones go behind the list.  A complete documented head
keeps every bare one of its name out, and every complete head has its name listed in the end. -/
structure Collects (source : Text) : Prop where
  appended : shape.collect source members = members ++ shape.documentedEntries source members ++
    shape.bareEntries source members
  documented : ∀ head ∈ shape.documentedHeads source, ∃ doc, head.doc = some doc ∧
    shape.entry? head =
      shape.complete? head (.of shape.kind head.name.text (plainText? doc.text))
  bare : ∀ head ∈ shape.bareHeads source, head.doc = none ∧
    shape.entry? head = shape.complete? head (.of shape.kind head.name.text none)
  outranks : ∀ head ∈ shape.documentedHeads source, (shape.entry? head).isSome →
    shape.lists members head.name.text = false →
      (∃ entry ∈ shape.documentedEntries source members, shape.name entry = head.name.text) ∧
        ∀ entry ∈ shape.bareEntries source members, shape.name entry ≠ head.name.text
  lists_complete : ∀ head ∈ shape.documentedHeads source ++ shape.bareHeads source,
    (shape.entry? head).isSome → shape.lists (shape.collect source members) head.name.text = true

theorem collects (names : shape.NamesEntries) (source : Text) (members : List α) :
    shape.Collects members source := by
  have appended := collect_eq names source members
  refine ⟨appended, ?documented, ?bare, ?outranks, ?lists_complete⟩
  case documented =>
    intro head member
    obtain ⟨doc, has⟩ := doc_of_mem_documentedHeads member
    exact ⟨doc, has, by simp [Head.comment, has, entry?]⟩
  case bare =>
    intro head member
    have none := doc_of_mem_bareHeads member
    exact ⟨none, by simp [Head.comment, none, entry?]⟩
  case outranks =>
    intro head member complete new
    refine ⟨exists_mem_firstEntries names member complete new, ?_⟩
    intro other later same
    have listed : shape.lists (shape.documentedEntries source members) head.name.text = true :=
      lists_firstEntries names member complete new
    have unlisted := mem_firstEntries names later
    rw [same, lists_append, listed, Bool.or_true] at unlisted
    contradiction
  case lists_complete =>
    intro head member complete
    rw [appended, lists_append, lists_append]
    by_contra missing
    simp only [Bool.or_eq_true, not_or, Bool.not_eq_true] at missing
    obtain ⟨⟨new, not_documented⟩, not_bare⟩ := missing
    rcases List.mem_append.mp member with member | member
    · have listed : shape.lists (shape.documentedEntries source members) head.name.text = true :=
        lists_firstEntries names member complete new
      rw [listed] at not_documented
      contradiction
    · have new : shape.lists (members ++ shape.documentedEntries source members)
          head.name.text = false := by rw [lists_append, new, not_documented, Bool.or_self]
      have listed : shape.lists (shape.bareEntries source members) head.name.text = true :=
        lists_firstEntries names member complete new
      rw [listed] at not_bare
      contradiction

end Shape

theorem Property.shape_namesEntries : Property.shape.NamesEntries := by
  intro head entry complete
  cases Option.some.inj complete
  rfl

theorem Method.shape_namesEntries : Method.shape.NamesEntries := by
  intro head entry complete
  obtain ⟨signature, -, rfl⟩ := Option.map_eq_some_iff.mp complete
  rfl

/-- Both kinds of members are collected so.  A head of a property is always complete, that of a
method where a signature follows it. -/
theorem collects_members (source : Text) :
    (∀ members, Property.shape.Collects members source) ∧
      (∀ members, Method.shape.Collects members source) ∧
      (∀ head, (Property.shape.entry? head).isSome) ∧
      ∀ head, (Method.shape.entry? head).isSome = (Signature.at? head.rest).isSome := by
  refine ⟨Shape.collects Property.shape_namesEntries source,
    Shape.collects Method.shape_namesEntries source, fun head => rfl, ?_⟩
  intro head
  exact Option.isSome_map

end ReferencePage
