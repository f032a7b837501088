import ReferencePage.Proofs.ParameterSegments

/-! Blanks in a parameter list.  Which blanks part its words does not matter, as long as the words
stay parted: the texts are cut at the same commas, and their segments are written alike. -/
namespace ReferencePage

namespace Text

/-- The texts differ in their blanks alone.  Where blanks stand between the characters of one,
others stand there in the other; only at the end one of them may have none. -/
inductive Respaced : Text → Text → Prop where
  | ends {u v : Text} (blank : ∀ c ∈ u, isBlank c = true) (blank' : ∀ c ∈ v, isBlank c = true) :
      Respaced u v
  | solid {c : Char} {s t : Text} (solid : isBlank c = false) (further : Respaced s t) :
      Respaced (c :: s) (c :: t)
  | gap {u v s t : Text} (nonempty : u ≠ []) (blank : ∀ c ∈ u, isBlank c = true)
      (nonempty' : v ≠ []) (blank' : ∀ c ∈ v, isBlank c = true) (further : Respaced s t) :
      Respaced (u ++ s) (v ++ t)

namespace Respaced

variable {c : Char} {s t w : Text}

theorem symm (spaced : Respaced s t) : Respaced t s := by
  induction spaced with
  | ends blank blank' => exact .ends blank' blank
  | solid other further ih => exact .solid other ih
  | gap nonempty blank nonempty' blank' further ih => exact .gap nonempty' blank' nonempty blank ih

theorem append_left (solid : Solid w) (spaced : Respaced s t) : Respaced (w ++ s) (w ++ t) := by
  induction w with
  | nil => exact spaced
  | cons c w ih =>
    obtain ⟨first, others⟩ := List.forall_mem_cons.mp solid
    exact .solid first (ih others)

theorem words_append (spaced : Respaced s t) (w : Text) : words (w ++ s) = words (w ++ t) := by
  induction spaced generalizing w with
  | ends blank blank' => rw [words_append_blanks blank, words_append_blanks blank']
  | @solid c s t other further ih => simpa using ih (w ++ [c])
  | @gap u v s t nonempty blank nonempty' blank' further ih =>
    obtain ⟨c, u, rfl⟩ := List.exists_cons_of_ne_nil nonempty
    obtain ⟨d, v, rfl⟩ := List.exists_cons_of_ne_nil nonempty'
    obtain ⟨first, others⟩ := List.forall_mem_cons.mp blank
    obtain ⟨first', others'⟩ := List.forall_mem_cons.mp blank'
    have same : words s = words t := ih []
    rw [List.cons_append, List.cons_append, words_append_blank first, words_append_blank first',
      words_blanks_append others, words_blanks_append others', same]

theorem collapse_eq (spaced : Respaced s t) : collapse s = collapse t :=
  congrArg (join [' ']) (spaced.words_append [])

theorem blank_iff (spaced : Respaced s t) :
    (∀ c ∈ s, isBlank c = true) ↔ ∀ c ∈ t, isBlank c = true := by
  induction spaced with
  | ends blank blank' => exact iff_of_true blank blank'
  | solid other further ih => simp [other]
  | gap nonempty blank nonempty' blank' further ih =>
    rw [List.forall_mem_append, List.forall_mem_append, ih]
    exact and_congr_left fun _ => iff_of_true blank blank'

/-- Collapsing a text changes its blanks alone, those in front of it apart. -/
theorem collapse_left (t : Text) : Respaced (collapse t) (Text.trimStart t) := by
  induction t using blank_induction with
  | solid w solid =>
    have nothing : Respaced [] [] := .ends (by simp) (by simp)
    rw [collapse_solid solid, trimStart_eq_self fun c first => solid c (List.mem_of_head? first)]
    simpa using append_left solid nothing
  | blank w c t solid blank ih =>
    by_cases empty : w = []
    · rw [empty, List.nil_append, collapse_cons_blank blank, Text.trimStart,
        List.dropWhile_cons_of_pos blank]
      exact ih
    · obtain ⟨d, w, rfl⟩ := List.exists_cons_of_ne_nil empty
      have started : Text.trimStart (d :: w ++ c :: t) = d :: w ++ c :: t :=
        trimStart_eq_self (by simpa using solid d List.mem_cons_self)
      obtain ⟨blanks, cut, all⟩ := trimStart_cut t
      have gap : ∀ e ∈ c :: blanks, isBlank e = true := List.forall_mem_cons.mpr ⟨blank, all⟩
      have behind : c :: t = (c :: blanks) ++ Text.trimStart t := congrArg (c :: ·) cut
      rw [started, collapse_append_blank solid empty blank]
      split
      · rename_i last
        have rest : ∀ e ∈ c :: t, isBlank e = true := by
          refine List.forall_mem_cons.mpr ⟨blank, fun e member => ?_⟩
          by_contra other
          refine collapse_ne_nil member (Bool.eq_false_iff.mpr other) ?_
          rw [collapse, last]
          rfl
        have none : Respaced [] (c :: t) := .ends (by simp) rest
        simpa using append_left solid none
      · have further : Respaced ([' '] ++ collapse t) ((c :: blanks) ++ Text.trimStart t) :=
          .gap (by simp) (by simp [isBlank_space]) (by simp) gap ih
        rw [← behind] at further
        exact append_left solid further

theorem trimStart (spaced : Respaced s t) : Respaced (trimStart s) (trimStart t) := by
  induction spaced with
  | ends blank blank' =>
    rw [trimStart_eq_nil.mpr blank, trimStart_eq_nil.mpr blank']
    exact .ends (by simp) (by simp)
  | solid other further ih =>
    rw [trimStart_eq_self (by simpa using other), trimStart_eq_self (by simpa using other)]
    exact .solid other further
  | gap nonempty blank nonempty' blank' further ih =>
    rw [Text.trimStart, Text.trimStart, List.dropWhile_append_of_pos blank,
      List.dropWhile_append_of_pos blank']
    exact ih

theorem trimEnd (spaced : Respaced s t) : Respaced (trimEnd s) (trimEnd t) := by
  induction spaced with
  | ends blank blank' =>
    rw [trimEnd_eq_nil.mpr blank, trimEnd_eq_nil.mpr blank']
    exact .ends (by simp) (by simp)
  | solid other further ih =>
    rw [trimEnd_cons other, trimEnd_cons other]
    exact .solid other ih
  | @gap u v s t nonempty blank nonempty' blank' further ih =>
    by_cases all : ∀ c ∈ s, isBlank c = true
    · have all' := further.blank_iff.mp all
      rw [trimEnd_eq_nil.mpr (List.forall_mem_append.mpr ⟨blank, all⟩),
        trimEnd_eq_nil.mpr (List.forall_mem_append.mpr ⟨blank', all'⟩)]
      exact .ends (by simp) (by simp)
    · rw [trimEnd_append all, trimEnd_append fun all' => all (further.blank_iff.mpr all')]
      exact .gap nonempty blank nonempty' blank' ih

theorem trim (spaced : Respaced s t) : Respaced (trim s) (trim t) := spaced.trimStart.trimEnd

theorem exists_cons (spaced : Respaced (c :: s) t) (solid : isBlank c = false) :
    ∃ u, t = c :: u ∧ Respaced s u := by
  generalize whole : c :: s = r at spaced
  cases spaced with
  | ends blank blank' =>
    have first := blank c (whole ▸ List.mem_cons_self)
    simp [solid] at first
  | @solid d r u other further =>
    obtain ⟨rfl, rfl⟩ := List.cons.inj whole
    exact ⟨u, rfl, further⟩
  | gap nonempty blank nonempty' blank' further =>
    obtain ⟨d, u, rfl⟩ := List.exists_cons_of_ne_nil nonempty
    obtain ⟨rfl, -⟩ := List.cons.inj whole
    have first := blank c List.mem_cons_self
    simp [solid] at first

theorem exists_append (spaced : Respaced (w ++ s) t) (solid : Solid w) :
    ∃ u, t = w ++ u ∧ Respaced s u := by
  induction w generalizing t with
  | nil => exact ⟨t, rfl, spaced⟩
  | cons c w ih =>
    obtain ⟨first, others⟩ := List.forall_mem_cons.mp solid
    obtain ⟨r, rfl, behind⟩ := spaced.exists_cons first
    obtain ⟨u, rfl, further⟩ := ih behind others
    exact ⟨u, rfl, further⟩

theorem exists_blanks (spaced : Respaced (w ++ c :: s) t) (blank : ∀ d ∈ w, isBlank d = true)
    (solid : isBlank c = false) :
    ∃ v u, t = v ++ c :: u ∧ (∀ d ∈ v, isBlank d = true) ∧ (w ≠ [] → v ≠ []) ∧
      Respaced s u := by
  have first : Text.trimStart (w ++ c :: s) = c :: s :=
    trimStart_blanks_append blank (by simpa using solid)
  have trimmed := spaced.trimStart
  rw [first] at trimmed
  obtain ⟨u, same, further⟩ := trimmed.exists_cons solid
  obtain ⟨v, cut, all⟩ := trimStart_cut t
  rw [same] at cut
  refine ⟨v, u, cut, all, ?_, further⟩
  rintro nonempty rfl
  rw [List.nil_append] at cut
  obtain ⟨d, w, rfl⟩ := List.exists_cons_of_ne_nil nonempty
  obtain ⟨r, again, -⟩ := (cut ▸ spaced).symm.exists_cons solid
  have blank_d := blank d List.mem_cons_self
  rw [(List.cons.inj again).1, solid] at blank_d
  exact Bool.false_ne_true blank_d

end Respaced
end Text

open Text

/- The parts between commas. -/
section Commas

theorem growFirst_eq {c : Char} {parts : List Text} (nonempty : parts ≠ []) :
    growFirst c parts = parts.modifyHead (c :: ·) := by
  obtain ⟨part, others, rfl⟩ := List.exists_cons_of_ne_nil nonempty
  rfl

theorem splitAtCommas_gap {u : Text} (nonempty : u ≠ []) (blank : ∀ c ∈ u, isBlank c = true)
    (depth : Nat) (before : Option Char) (t : Text) :
    splitAtCommas depth before (u ++ t) = (splitAtCommas depth none t).modifyHead (u ++ ·) := by
  induction u generalizing before with
  | nil => exact absurd rfl nonempty
  | cons c u ih =>
    obtain ⟨first, others⟩ := List.forall_mem_cons.mp blank
    rw [List.cons_append, splitAtCommas_blank first, growFirst_eq (splitAtCommas_ne_nil _ _ _)]
    by_cases last : u = []
    · rw [last]
      rfl
    · rw [ih last others, List.modifyHead_modifyHead]
      rfl

theorem forall₂_modifyHead {f g : Text → Text} {parts parts' : List Text}
    (each : ∀ s t, Respaced s t → Respaced (f s) (g t))
    (alike : List.Forall₂ Respaced parts parts') :
    List.Forall₂ Respaced (parts.modifyHead f) (parts'.modifyHead g) := by
  cases alike with
  | nil => exact .nil
  | cons first others => exact .cons (each _ _ first) others

theorem Text.Respaced.splitAtCommas {s t : Text} (spaced : Respaced s t) (depth : Nat)
    (before : Option Char) :
    List.Forall₂ Respaced (splitAtCommas depth before s) (splitAtCommas depth before t) := by
  induction spaced generalizing depth before with
  | @ends u v blank blank' =>
    have whole : ∀ {w : Text}, (∀ c ∈ w, isBlank c = true) →
        ReferencePage.splitAtCommas depth before w = [w] := fun all =>
      splitAtCommas_of_noOuterComma
        (noOuterComma_plain (fun c member => not_mark_of_isBlank (all c member)) depth before)
    rw [whole blank, whole blank']
    exact .cons (.ends blank blank') .nil
  | @solid c s t other further ih =>
    unfold ReferencePage.splitAtCommas
    split
    · exact .cons (.ends (by simp) (by simp)) (ih depth (some c))
    · rw [growFirst_eq (splitAtCommas_ne_nil _ _ s), growFirst_eq (splitAtCommas_ne_nil _ _ t)]
      exact forall₂_modifyHead (fun _ _ => .solid other) (ih _ _)
  | @gap u v s t nonempty blank nonempty' blank' further ih =>
    rw [splitAtCommas_gap nonempty blank, splitAtCommas_gap nonempty' blank']
    exact forall₂_modifyHead (fun _ _ => .gap nonempty blank nonempty' blank') (ih depth none)

end Commas

/- Parameters as they are written. -/
section Written

variable {t : Text}

theorem WrittenParameter.getLast?_text (w : WrittenParameter) :
    w.text.getLast? = w.type.getLast? := by
  obtain ⟨c, last⟩ := Option.isSome_iff_exists.mp (List.getLast?_isSome.mpr w.nonempty)
  have behind : (w.gap ++ ':' :: w.type).getLast? = some c := by
    rw [List.getLast?_append, List.getLast?_cons, last]
    rfl
  rw [text, front, List.getLast?_append, List.getLast?_append, behind, last]
  rfl

/- The type that the other text has is not empty, as this one ends with no blank. -/
theorem exists_front_of_respaced {w : WrittenParameter} (spaced : Respaced w.front t)
    (last : ∀ c ∈ w.type.getLast?, isBlank c = false) (label : Option WrittenLabel) :
    ∃ w' : WrittenParameter, w'.label = label ∧ t = w'.front ∧ w'.name = w.name ∧
      collapse w'.type = collapse w.type := by
  have solid : Solid w.name := fun c member => isBlank_of_isWord (w.oneWord.2 c member)
  obtain ⟨behind, rfl, gapped⟩ := spaced.exists_append solid
  obtain ⟨gap, type, rfl, blank, -, typed⟩ := gapped.exists_blanks w.blank Parameter.isBlank_colon
  have nonempty : type ≠ [] := by
    rintro rfl
    have all := typed.blank_iff.mpr (by simp)
    have other := last _ (List.getLast?_eq_some_getLast w.nonempty)
    rw [all _ (List.getLast_mem w.nonempty)] at other
    contradiction
  exact ⟨⟨label, w.name, gap, type, w.oneWord, blank, nonempty⟩, rfl, rfl, rfl,
    typed.collapse_eq.symm⟩

theorem exists_text_of_respaced {w : WrittenParameter} (spaced : Respaced w.text t)
    (last : ∀ c ∈ w.text.getLast?, isBlank c = false) :
    ∃ w' : WrittenParameter, t = w'.text ∧ w'.parameter = w.parameter := by
  rw [w.getLast?_text] at last
  cases labelled : w.label with
  | none =>
    rw [WrittenParameter.text, labelled] at spaced
    obtain ⟨w', label, rfl, name, type⟩ := exists_front_of_respaced spaced last none
    refine ⟨w', ?_, ?_⟩
    · rw [WrittenParameter.text, label]
      rfl
    · rw [WrittenParameter.parameter, WrittenParameter.parameter, label, labelled, name, type]
  | some written =>
    have solid : Solid written.word :=
      fun c member => isBlank_of_isWord (written.oneWord.2 c member)
    obtain ⟨c, more, cut⟩ : ∃ c more, w.front = c :: more :=
      List.exists_cons_of_ne_nil (by simp [WrittenParameter.front])
    have first : isBlank c = false :=
      isBlank_head?_of_oneWord w.oneWord _ c (by rw [← WrittenParameter.front, cut]; rfl)
    rw [WrittenParameter.text, labelled, Option.elim_some, List.append_assoc] at spaced
    obtain ⟨behind, rfl, gapped⟩ := spaced.exists_append solid
    rw [cut] at gapped
    obtain ⟨blanks, rest, rfl, blank, nonempty, further⟩ := gapped.exists_blanks written.blank first
    have front : Respaced w.front (c :: rest) := cut ▸ .solid first further
    obtain ⟨w', label, same, name, type⟩ := exists_front_of_respaced front last
      (some ⟨written.word, blanks, written.oneWord, nonempty written.nonempty, blank⟩)
    refine ⟨w', ?_, ?_⟩
    · rw [WrittenParameter.text, label, Option.elim_some, ← same, List.append_assoc]
    · rw [WrittenParameter.parameter, WrittenParameter.parameter, label, labelled, name, type]
      rfl

end Written

namespace Parameter

variable {s t : Text}

theorem ofSegment?_of_respaced (spaced : Respaced s t) (last : ∀ c ∈ s.getLast?, isBlank c = false)
    {p : Parameter} (found : ofSegment? s = some p) : ofSegment? t = some p := by
  obtain ⟨w, rfl, rfl⟩ := ofSegment?_eq_some.mp found
  exact ofSegment?_eq_some.mpr (exists_text_of_respaced spaced last)

theorem ofSegment?_trim_respaced (spaced : Respaced s t) :
    ofSegment? (trim s) = ofSegment? (trim t) := by
  refine Option.ext fun p => ⟨fun found => ?_, fun found => ?_⟩
  · exact ofSegment?_of_respaced spaced.trim (isBlank_getLast?_trim s) found
  · exact ofSegment?_of_respaced spaced.trim.symm (isBlank_getLast?_trim t) found

theorem listed_respaced (spaced : Respaced s t) : listed s = listed t := by
  have alike := spaced.splitAtCommas 0 none
  rw [listed_eq_filterMap, listed_eq_filterMap]
  generalize splitAtCommas 0 none s = parts, splitAtCommas 0 none t = parts' at alike ⊢
  induction alike with
  | nil => rfl
  | cons first others ih =>
    rw [List.filterMap_cons, List.filterMap_cons, ofSegment?_trim_respaced first, ih]

theorem listed_trimStart (t : Text) : listed (trimStart t) = listed t := by
  induction t with
  | nil => rfl
  | cons c t ih =>
    by_cases blank : isBlank c = true
    · rw [trimStart, List.dropWhile_cons_of_pos blank, listed_blank blank]
      exact ih
    · rw [trimStart_eq_self (by simpa using blank)]

/-- How the words of a text are parted makes no difference to the parameters that it lists. -/
theorem listed_collapse :
    (∀ t, listed (collapse t) = listed t) ∧
    ∀ s t, words s = words t → listed s = listed t := by
  have collapsed : ∀ t, listed (collapse t) = listed t := fun t =>
    (listed_respaced (.collapse_left t)).trans (listed_trimStart t)
  refine ⟨collapsed, fun s t same => ?_⟩
  calc
    listed s = listed (collapse s) := (collapsed s).symm
    _ = listed (collapse t) := by rw [collapse, same, ← collapse]
    _ = listed t := collapsed t

/- A hyphen apart from what would make an arrow of it, blanks of several kinds, and line breaks at
both ends and inside a type. -/
def spreadList : Text := "\r\n  f : (Int,\n\tInt) - > A,\n 7,\u00a0g\u2003h:Map<K,\n V>\n".toList

def lineList : Text := "f : (Int, Int) - > A, 7, g h:Map<K, V>".toList

theorem listed_collapse_spreadList :
    words spreadList = words lineList ∧ listed spreadList = listed lineList := by
  have same : words spreadList = words lineList := by decide +kernel
  exact ⟨same, listed_collapse.2 spreadList lineList same⟩

end Parameter
end ReferencePage
