import Mathlib.Data.List.Basic
import ReferencePage.Document.Page
import ReferencePage.Proofs.Folding
import ReferencePage.Proofs.OuterCommas
import ReferencePage.Proofs.Words

/-! Parameter lists, written and read back.  What is read from any text is in a normal form, and a
list in normal form is read back from what is written for it. -/
namespace ReferencePage

open Text

namespace Parameter

/- The type is known by its own text alone; nothing is said of the text it was read from. -/
structure Normal (p : Parameter) : Prop where
  name : OneWord p.name ∨
    ∃ label inner, OneWord label ∧ OneWord inner ∧ p.name = label ++ ' ' :: inner
  type_ne_nil : p.type ≠ []
  collapsed : collapse p.type = p.type
  whole : noOuterComma 0 none p.type = true

/-- Only the last type of a list may leave brackets open. -/
structure NormalList (ps : List Parameter) : Prop where
  normal : ∀ p ∈ ps, p.Normal
  closed : ∀ p ∈ ps.dropLast, depthOver 0 none p.type = 0

end Parameter

def isLead (c : Char) : Bool := isWord c || isBlank c || c = ':'

theorem not_mark_of_isLead {c : Char} (lead : isLead c = true) : isMark c = false :=
  not_mark_of_none (by decide) lead

theorem isLead_colon : isLead ':' = true := by simp [isLead]

def AllLead (t : Text) : Prop := ∀ c ∈ t, isLead c = true

theorem AllLead.append {s t : Text} (front : AllLead s) (behind : AllLead t) :
    AllLead (s ++ t) := by
  intro c member
  rcases List.mem_append.mp member with member | member
  · exact front c member
  · exact behind c member

theorem AllLead.cons {c : Char} {t : Text} (first : isLead c = true) (behind : AllLead t) :
    AllLead (c :: t) := by
  intro d member
  cases member with
  | head => exact first
  | tail _ member => exact behind d member

theorem Text.OneWord.allLead {t : Text} (word : OneWord t) : AllLead t := by
  intro c member
  simp [isLead, word.2 c member]

theorem allLead_of_blanks {t : Text} (blanks : ∀ c ∈ t, isBlank c = true) : AllLead t := by
  intro c member
  simp [isLead, blanks c member]

section Front

variable {lead : Text} (all : AllLead lead) (t : Text)
include all

theorem AllLead.not_mark : ∀ c ∈ lead, isMark c = false := by
  intro c member
  exact not_mark_of_isLead (all c member)

theorem AllLead.getLast?_ne_hyphen : lead.getLast?.or none ≠ some '-' := by
  rw [Option.or_none]
  intro last
  have hyphen := all '-' (List.mem_of_getLast? last)
  have other : isLead '-' = false := by decide
  rw [other] at hyphen
  contradiction

theorem depthOver_lead : depthOver 0 none (lead ++ t) = depthOver 0 none t := by
  rw [depthOver_append, depthOver_plain all.not_mark, depthOver_before all.getLast?_ne_hyphen]

theorem noOuterComma_lead : noOuterComma 0 none (lead ++ t) = noOuterComma 0 none t := by
  rw [noOuterComma_append, noOuterComma_plain all.not_mark, depthOver_plain all.not_mark,
    noOuterComma_before all.getLast?_ne_hyphen, Bool.true_and]

end Front

/- What was read, and what stands in front of the type it was read with. -/
section Read

theorem eq_trimStart_of_afterBlanks? {t rest : Text} (found : afterBlanks? t = some rest) :
    rest = trimStart t := by
  unfold afterBlanks? at found
  split at found
  · split at found
    · exact (Option.some.inj found).symm
    · contradiction
  · contradiction

theorem afterColon?_cut {t : Text} {type : Passage} (found : afterColon? t = some type) :
    type.text ≠ [] ∧ ∃ blanks, t = blanks ++ type.text ∧ ∀ c ∈ blanks, isBlank c = true := by
  obtain ⟨blanks, cut, all⟩ := trimStart_cut t
  unfold afterColon? at found
  split at found
  · rename_i nothing
    rw [nothing, List.append_nil] at cut
    obtain ⟨c, last, rfl⟩ := Option.map_eq_some_iff.mp found
    have whole := List.dropLast_append_getLast? c last
    refine ⟨List.cons_ne_nil c [], t.dropLast, whole.symm, ?_⟩
    intro d member
    exact all d (cut ▸ (List.dropLast_sublist t).subset member)
  · rename_i nonempty
    cases Option.some.inj found
    exact ⟨nonempty, blanks, cut, all⟩

theorem labelledType?_cut {external : Option Passage} {t : Text} {p : ParameterForm}
    (found : labelledType? external t = some p) :
    p.external = external ∧ OneWord p.internal.text ∧ p.type.text ≠ [] ∧
      ∃ lead, t = lead ++ p.type.text ∧ AllLead lead := by
  obtain ⟨name, word, found⟩ := Option.bind_eq_some_iff.mp found
  obtain ⟨rest, colon, found⟩ := Option.bind_eq_some_iff.mp found
  obtain ⟨type, typed, rfl⟩ := Option.map_eq_some_iff.mp found
  obtain ⟨one, whole⟩ := oneWord_of_word? word
  obtain ⟨gap, gap_cut, gap_blank⟩ := trimStart_cut name.rest
  obtain ⟨type_nonempty, blanks, type_cut, blank⟩ := afterColon?_cut typed
  rw [after?_eq_some.mp colon, type_cut] at gap_cut
  refine ⟨rfl, one, type_nonempty, name.text ++ gap ++ ':' :: blanks, ?_, ?_⟩
  · rw [← whole, Passage.whole, gap_cut]
    simp
  · exact (one.allLead.append (allLead_of_blanks gap_blank)).append
      (AllLead.cons isLead_colon (allLead_of_blanks blank))

theorem parameterForm_cut {t : Text} {p : ParameterForm} (found : ParameterForm.at? t = some p) :
    (∀ label ∈ p.external, OneWord label.text) ∧ OneWord p.internal.text ∧ p.type.text ≠ [] ∧
      ∃ lead, t = lead ++ p.type.text ∧ AllLead lead := by
  unfold ParameterForm.at? at found
  rcases Option.or_eq_some_iff.mp (Option.orElse_eq_or ▸ found) with two | ⟨-, one⟩
  · obtain ⟨label, word, two⟩ := Option.bind_eq_some_iff.mp two
    obtain ⟨rest, blanks, two⟩ := Option.bind_eq_some_iff.mp two
    obtain ⟨external, internal, type, lead, cut, all⟩ := labelledType?_cut two
    obtain ⟨one, whole⟩ := oneWord_of_word? word
    obtain ⟨gap, gap_cut, gap_blank⟩ := trimStart_cut label.rest
    have rest_eq := eq_trimStart_of_afterBlanks? blanks
    refine ⟨?_, internal, type, label.text ++ gap ++ lead, ?_, ?_⟩
    · rw [external]
      rintro _ ⟨⟩
      exact one
    · rw [← rest_eq, cut] at gap_cut
      rw [← whole, Passage.whole, gap_cut]
      simp
    · exact (one.allLead.append (allLead_of_blanks gap_blank)).append all
  · obtain ⟨external, rest⟩ := labelledType?_cut one
    refine ⟨?_, rest⟩
    rw [external]
    simp

end Read

namespace Parameter

/-- What is read from a segment is normal, and its type leaves open what the segment does. -/
theorem normal_of_ofSegment? {s : Text} {p : Parameter} (found : ofSegment? s = some p)
    (trimmed : ∀ c ∈ s.getLast?, isBlank c = false) (whole : noOuterComma 0 none s = true) :
    p.Normal ∧ depthOver 0 none p.type = depthOver 0 none s := by
  obtain ⟨form, read, rfl⟩ := Option.map_eq_some_iff.mp found
  obtain ⟨external, internal, nonempty, lead, cut, all⟩ := parameterForm_cut read
  refine ⟨⟨?name, ?type_ne_nil, collapse_collapse _, ?whole⟩, ?_⟩
  case name =>
    unfold ParameterForm.parameter
    cases labelled : form.external with
    | none => exact Or.inl internal
    | some label =>
      refine Or.inr ⟨label.text, form.internal.text, external label labelled, internal, ?_⟩
      simp
  case type_ne_nil =>
    have last : s.getLast? = some (form.type.text.getLast nonempty) := by
      rw [cut, List.getLast?_append, List.getLast?_eq_some_getLast nonempty, Option.some_or]
    exact collapse_ne_nil (List.getLast_mem nonempty) (trimmed _ last)
  case whole =>
    rw [ParameterForm.parameter, noOuterComma_collapse, ← noOuterComma_lead all, ← cut]
    exact whole
  · rw [ParameterForm.parameter, depthOver_collapse, ← depthOver_lead all, ← cut]

/- A part that is blank lists nothing, as an empty one does. -/
theorem listed_eq_filterMap (t : Text) :
    listed t = (splitAtCommas 0 none t).filterMap fun part => ofSegment? (trim part) := by
  unfold listed segments
  generalize splitAtCommas 0 none t = parts
  induction parts with
  | nil => rfl
  | cons part parts ih =>
    rw [List.map_cons, List.filterMap_cons, ← ih]
    by_cases empty : trim part = []
    · rw [List.filter_cons_of_neg (by simp [empty]), empty]
      rfl
    · rw [List.filter_cons_of_pos (by simp [empty]), List.filterMap_cons]

theorem mem_dropLast_filterMap {α β : Type} {f : α → Option β} {l : List α} {b : β}
    (member : b ∈ (l.filterMap f).dropLast) : ∃ a ∈ l.dropLast, f a = some b := by
  induction l with
  | nil => simp at member
  | cons a l ih =>
    have onward : b ∈ (l.filterMap f).dropLast → ∃ a' ∈ (a :: l).dropLast, f a' = some b := by
      intro later
      obtain ⟨a', earlier, made⟩ := ih later
      have nonempty : l ≠ [] := List.ne_nil_of_mem ((List.dropLast_sublist l).subset earlier)
      rw [List.dropLast_cons_of_ne_nil nonempty]
      exact ⟨a', List.mem_cons_of_mem a earlier, made⟩
    cases made : f a with
    | none =>
      rw [List.filterMap_cons_none made] at member
      exact onward member
    | some c =>
      rw [List.filterMap_cons_some made] at member
      by_cases last : l.filterMap f = []
      · simp [last] at member
      · have nonempty : l ≠ [] := by
          rintro rfl
          exact last rfl
        rw [List.dropLast_cons_of_ne_nil last] at member
        rcases List.mem_cons.mp member with rfl | later
        · rw [List.dropLast_cons_of_ne_nil nonempty]
          exact ⟨a, List.mem_cons_self, made⟩
        · exact onward later

theorem normalList_listed (t : Text) : NormalList (listed t) := by
  have cuts := cuts_splitAtCommas t
  rw [listed_eq_filterMap]
  have read : ∀ part ∈ splitAtCommas 0 none t, ∀ p, ofSegment? (trim part) = some p →
      p.Normal ∧ depthOver 0 none p.type = depthOver 0 none part := by
    intro part member p found
    have whole := cuts.whole part member
    rw [← noOuterComma_trim] at whole
    rw [← depthOver_trim part]
    exact normal_of_ofSegment? found (isBlank_getLast?_trim part) whole
  constructor
  · intro p member
    obtain ⟨part, known, found⟩ := List.mem_filterMap.mp member
    exact (read part known p found).1
  · intro p member
    obtain ⟨part, earlier, found⟩ := mem_dropLast_filterMap member
    have known := (List.dropLast_sublist _).subset earlier
    rw [(read part known p found).2]
    exact cuts.closed part earlier

/- Reading back what is written for one parameter. -/
section Declared

theorem isWord_colon : isWord ':' = false := by decide

theorem isBlank_colon : isBlank ':' = false := by decide

variable {type : Text}

theorem labelledType?_declared {external : Option Passage} {name : Text} (word : OneWord name)
    (nonempty : type ≠ []) (first : ∀ c ∈ type.head?, isBlank c = false) :
    labelledType? external (name ++ ':' :: ' ' :: type) =
      some ⟨external, ⟨name, ':' :: ' ' :: type⟩, ⟨type, []⟩⟩ := by
  have colon : trimStart (':' :: ' ' :: type) = ':' :: ' ' :: type :=
    trimStart_eq_self (by simp [isBlank_colon])
  have behind : trimStart (' ' :: type) = type :=
    trimStart_blanks_append (s := [' ']) (by simp [isBlank_space]) first
  have found : afterColon? (' ' :: type) = some ⟨type, []⟩ := by
    unfold afterColon?
    rw [behind]
    split
    · exact absurd rfl nonempty
    · rfl
  rw [labelledType?, word?_append word (by simp [isWord_colon]), Option.bind_some, colon,
    after?_eq_some.mpr (show ':' :: ' ' :: type = [':'] ++ ' ' :: type from rfl),
    Option.bind_some, found, Option.map_some]

theorem oneWord_head? {name t : Text} (word : OneWord name) :
    ∀ c ∈ (name ++ t).head?, isBlank c = false := by
  obtain ⟨c, first, isWord_c⟩ := word.exists_head? t
  rw [first]
  rintro _ ⟨⟩
  exact isBlank_of_isWord isWord_c

theorem isWord_space : isWord ' ' = false := isWord_of_isBlank isBlank_space

theorem parameterForm_oneName {name : Text} (word : OneWord name) (nonempty : type ≠ [])
    (first : ∀ c ∈ type.head?, isBlank c = false) :
    ParameterForm.at? (name ++ ':' :: ' ' :: type) =
      some ⟨none, ⟨name, ':' :: ' ' :: type⟩, ⟨type, []⟩⟩ := by
  have no_blank : afterBlanks? (':' :: ' ' :: type) = none := by simp [afterBlanks?, isBlank_colon]
  unfold ParameterForm.at?
  rw [word?_append word (by simp [isWord_colon]), Option.bind_some, no_blank, Option.bind_none,
    labelledType?_declared word nonempty first]
  rfl

theorem parameterForm_twoNames {label name : Text} (labelWord : OneWord label)
    (word : OneWord name) (nonempty : type ≠ [])
    (first : ∀ c ∈ type.head?, isBlank c = false) :
    ParameterForm.at? (label ++ ' ' :: (name ++ ':' :: ' ' :: type)) =
      some ⟨some ⟨label, ' ' :: (name ++ ':' :: ' ' :: type)⟩, ⟨name, ':' :: ' ' :: type⟩,
        ⟨type, []⟩⟩ := by
  have behind : afterBlanks? (' ' :: (name ++ ':' :: ' ' :: type)) =
      some (name ++ ':' :: ' ' :: type) := by
    rw [afterBlanks?, if_pos isBlank_space]
    exact congrArg some
      (trimStart_blanks_append (s := [' ']) (by simp [isBlank_space]) (oneWord_head? word))
  unfold ParameterForm.at?
  rw [word?_append labelWord (by simp [isWord_space]), Option.bind_some, behind, Option.bind_some,
    labelledType?_declared word nonempty first]
  rfl

variable {p : Parameter}

theorem Normal.isBlank_head?_type (normal : p.Normal) : ∀ c ∈ p.type.head?, isBlank c = false :=
  normal.collapsed ▸ isBlank_head?_collapse p.type

theorem declared_eq (p : Parameter) : p.declared = p.name ++ ':' :: ' ' :: p.type := by
  simp [declared]

theorem ofSegment?_declared (normal : p.Normal) : ofSegment? p.declared = some p := by
  have first := normal.isBlank_head?_type
  rw [declared_eq, ofSegment?]
  rcases normal.name with one | ⟨label, inner, labelWord, word, two⟩
  · rw [parameterForm_oneName one normal.type_ne_nil first]
    simp [ParameterForm.parameter, normal.collapsed]
  · rw [two, List.append_assoc, List.cons_append,
      parameterForm_twoNames labelWord word normal.type_ne_nil first]
    simp [ParameterForm.parameter, normal.collapsed, ← two]

theorem allLead_space : AllLead [' '] :=
  allLead_of_blanks (List.forall_mem_singleton.mpr isBlank_space)

theorem Normal.allLead_name (normal : p.Normal) : AllLead p.name := by
  rcases normal.name with one | ⟨label, inner, labelWord, word, two⟩
  · exact one.allLead
  · rw [two, List.append_cons]
    exact (labelWord.allLead.append allLead_space).append word.allLead

theorem Normal.allLead_front (normal : p.Normal) : AllLead (p.name ++ [':', ' ']) :=
  normal.allLead_name.append (allLead_space.cons isLead_colon)

theorem declared_cut (p : Parameter) : p.declared = (p.name ++ [':', ' ']) ++ p.type := by
  simp [declared]

theorem depthOver_declared (normal : p.Normal) :
    depthOver 0 none p.declared = depthOver 0 none p.type := by
  rw [declared_cut, depthOver_lead normal.allLead_front]

theorem noOuterComma_declared (normal : p.Normal) : noOuterComma 0 none p.declared = true := by
  rw [declared_cut, noOuterComma_lead normal.allLead_front, normal.whole]

theorem trim_declared (normal : p.Normal) : trim p.declared = p.declared := by
  apply trim_eq_self
  · rw [declared_eq]
    rcases normal.name with one | ⟨label, inner, labelWord, word, two⟩
    · exact oneWord_head? one
    · rw [two, List.append_assoc]
      exact oneWord_head? labelWord
  · rw [declared_cut, List.getLast?_append, List.getLast?_eq_some_getLast normal.type_ne_nil,
      Option.some_or, ← List.getLast?_eq_some_getLast normal.type_ne_nil]
    exact normal.collapsed ▸ isBlank_getLast?_collapse p.type

end Declared

/- Reading a text that is cut at an outer comma is reading both its parts. -/
theorem listed_append {s : Text} (closed : depthOver 0 none s = 0) (t : Text) :
    listed (s ++ ',' :: t) = listed s ++ listed t := by
  rw [listed_eq_filterMap, splitAtCommas_append closed, List.filterMap_append,
    ← listed_eq_filterMap, ← listed_eq_filterMap]

theorem listed_of_noOuterComma {s : Text} (whole : noOuterComma 0 none s = true) :
    listed s = (ofSegment? (trim s)).toList := by
  rw [listed_eq_filterMap, splitAtCommas_of_noOuterComma whole, List.filterMap_cons]
  cases ofSegment? (trim s) <;> rfl

theorem listed_blank {c : Char} (blank : isBlank c = true) (t : Text) :
    listed (c :: t) = listed t := by
  obtain ⟨part, others, split⟩ := List.exists_cons_of_ne_nil (splitAtCommas_ne_nil 0 none t)
  have same : trim (c :: part) = trim part := by
    unfold trim trimStart
    rw [List.dropWhile_cons_of_pos blank]
  rw [listed_eq_filterMap, listed_eq_filterMap, splitAtCommas_blank blank, split, growFirst,
    List.filterMap_cons, List.filterMap_cons, same]

theorem listed_list {ps : List Parameter} (normal : NormalList ps) : listed (list ps) = ps := by
  induction ps with
  | nil => rfl
  | cons p ps ih =>
    obtain ⟨first, others⟩ := List.forall_mem_cons.mp normal.normal
    have alone : listed p.declared = [p] := by
      rw [listed_of_noOuterComma (noOuterComma_declared first), trim_declared first,
        ofSegment?_declared first]
      rfl
    cases ps with
    | nil =>
      rw [list, List.map_singleton, join_singleton]
      exact alone
    | cons q ps =>
      have closed := List.forall_mem_cons.mp normal.closed
      have written : list (p :: q :: ps) = p.declared ++ ',' :: ' ' :: list (q :: ps) :=
        join_cons_cons _ _ _ _
      rw [written, listed_append ((depthOver_declared first).trans closed.1), alone,
        listed_blank isBlank_space, ih ⟨others, closed.2⟩]
      rfl

/-- Reading yields the normal form, and writing is undone by reading. -/
theorem listed_list_inverse :
    (∀ t, NormalList (listed t)) ∧ (∀ ps, NormalList ps → listed (list ps) = ps) ∧
      ∀ t, listed (list (listed t)) = listed t := by
  refine ⟨normalList_listed, fun ps normal => listed_list normal, ?_⟩
  intro t
  exact listed_list (normalList_listed t)

/- An arrow, brackets around a comma, and a bracket that the last type leaves open. -/
def unclosedList : List Parameter :=
  [⟨"_ f".toList, "(A) -> B".toList⟩, ⟨"m".toList, "Map<K, V>?".toList⟩,
    ⟨"to last".toList, "[A ) (B, C".toList⟩]

theorem normalList_unclosedList : NormalList unclosedList := by
  constructor
  · intro p member
    simp only [unclosedList, List.mem_cons, List.not_mem_nil, or_false] at member
    rcases member with rfl | rfl | rfl
    · exact ⟨Or.inr ⟨['_'], ['f'], by decide, by decide, rfl⟩, by decide,
        by decide, by decide⟩
    · exact ⟨Or.inl (by decide), by decide, by decide, by decide⟩
    · exact ⟨Or.inr ⟨"to".toList, "last".toList, by decide, by decide, rfl⟩,
        by decide, by decide, by decide⟩
  · decide

theorem listed_list_unclosedList :
    NormalList unclosedList ∧ listed (list unclosedList) = unclosedList :=
  ⟨normalList_unclosedList, listed_list_inverse.2.1 unclosedList normalList_unclosedList⟩

end Parameter
end ReferencePage
