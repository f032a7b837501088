import ReferencePage.Proofs.NamedHeads
import ReferencePage.Proofs.ParameterLists

/-! Parameters as they are written in a segment: a label and blanks, or none, then a name, perhaps
blanks, a colon and all behind it.  A segment of that form lists one parameter and any other lists
none, whatever stands in the segments around it. -/
namespace ReferencePage

open Text

structure WrittenLabel where
  word : Text
  blanks : Text
  oneWord : OneWord word
  nonempty : blanks ≠ []
  blank : ∀ c ∈ blanks, isBlank c = true

/- `type` is all behind the colon, the blanks that it begins with among it. -/
structure WrittenParameter where
  label : Option WrittenLabel
  name : Text
  gap : Text
  type : Text
  oneWord : OneWord name
  blank : ∀ c ∈ gap, isBlank c = true
  nonempty : type ≠ []

namespace WrittenParameter

def front (w : WrittenParameter) : Text := w.name ++ (w.gap ++ ':' :: w.type)

def text (w : WrittenParameter) : Text :=
  (w.label.elim [] fun label => label.word ++ label.blanks) ++ w.front

/-- One space stands between a label and the name, and between the words of the type. -/
def parameter (w : WrittenParameter) : Parameter where
  name := (w.label.elim [] fun label => label.word ++ [' ']) ++ w.name
  type := collapse w.type

end WrittenParameter

/- What comes behind a colon. -/
section AfterColon

variable {t : Text}

theorem exists_afterColon? (nonempty : t ≠ []) :
    ∃ type, afterColon? t = some type ∧ collapse type.text = collapse t := by
  cases solid : trimStart t with
  | cons c u =>
    refine ⟨⟨c :: u, []⟩, by rw [afterColon?, solid], ?_⟩
    obtain ⟨blanks, cut, blank⟩ := trimStart_cut t
    rw [solid] at cut
    rw [collapse, collapse, cut, words_blanks_append blank]
  | nil =>
    obtain ⟨blanks, cut, blank⟩ := trimStart_cut t
    rw [solid, List.append_nil] at cut
    have last := List.getLast?_eq_some_getLast nonempty
    have all : ∀ c ∈ t, isBlank c = true := fun c member => blank c (cut ▸ member)
    refine ⟨⟨[t.getLast nonempty], []⟩, by rw [afterColon?, solid, last, Option.map_some], ?_⟩
    rw [collapse, collapse, words_blanks all,
      words_blanks (List.forall_mem_singleton.mpr (all _ (List.getLast_mem nonempty)))]

theorem ne_nil_of_afterColon? {type : Passage} (found : afterColon? t = some type) : t ≠ [] := by
  rintro rfl
  contradiction

end AfterColon

/- A name that is followed by a colon. -/
section LabelledType

variable {external : Option Passage}

theorem WrittenParameter.isWord_head?_gap (w : WrittenParameter) :
    ∀ c ∈ (w.gap ++ ':' :: w.type).head?, isWord c = false := by
  cases gap : w.gap with
  | nil => simp [Parameter.isWord_colon]
  | cons d rest =>
    rintro _ ⟨⟩
    exact isWord_of_isBlank (w.blank d (gap ▸ List.mem_cons_self))

theorem labelledType?_front (w : WrittenParameter)
    (label : external.map Passage.text = w.label.map WrittenLabel.word) :
    (labelledType? external w.front).map ParameterForm.parameter = some w.parameter := by
  obtain ⟨type, found, same⟩ := exists_afterColon? w.nonempty
  have colon : trimStart (w.gap ++ ':' :: w.type) = [':'] ++ w.type :=
    trimStart_blanks_append w.blank (by simp [Parameter.isBlank_colon])
  have read : labelledType? external w.front =
      some ⟨external, ⟨w.name, w.gap ++ ':' :: w.type⟩, type⟩ := by
    rw [labelledType?, WrittenParameter.front, word?_append w.oneWord w.isWord_head?_gap,
      Option.bind_some, colon, after?_eq_some.mpr rfl, Option.bind_some, found, Option.map_some]
  have names : (external.elim [] fun label => label.text ++ [' ']) =
      w.label.elim [] fun label => label.word ++ [' '] := by
    cases external <;> cases written : w.label <;> simp_all
  rw [read, Option.map_some, ParameterForm.parameter, WrittenParameter.parameter, names, same]

theorem exists_front {t : Text} {p : ParameterForm} (found : labelledType? external t = some p)
    (label : Option WrittenLabel) : ∃ w : WrittenParameter, w.label = label ∧ t = w.front := by
  obtain ⟨name, word, found⟩ := Option.bind_eq_some_iff.mp found
  obtain ⟨behind, colon, found⟩ := Option.bind_eq_some_iff.mp found
  obtain ⟨type, typed, -⟩ := Option.map_eq_some_iff.mp found
  obtain ⟨one, whole⟩ := oneWord_of_word? word
  obtain ⟨gap, cut, blank⟩ := trimStart_cut name.rest
  rw [after?_eq_some.mp colon] at cut
  refine ⟨⟨label, name.text, gap, behind, one, blank, ne_nil_of_afterColon? typed⟩, rfl, ?_⟩
  rw [← whole, Passage.whole, cut]
  rfl

theorem labelledType?_colon (t : Text) : labelledType? external (':' :: t) = none := by
  have none : word? (':' :: t) = none := by
    rw [word?, List.takeWhile_cons_of_neg (by simp [Parameter.isWord_colon])]
  rw [labelledType?, none, Option.bind_none]

end LabelledType

namespace Parameter

variable {s : Text} {p : Parameter}

theorem ofSegment?_text (w : WrittenParameter) : ofSegment? w.text = some w.parameter := by
  cases written : w.label with
  | none =>
    have cut : w.text = w.name ++ (w.gap ++ ':' :: w.type) := by
      simp [WrittenParameter.text, WrittenParameter.front, written]
    have alone := @labelledType?_front none w (by rw [written]; rfl)
    -- Behind the name no other name follows: blanks do, or the colon at once.
    have noSecond : ((afterBlanks? (w.gap ++ ':' :: w.type)).bind fun rest =>
        labelledType? (some ⟨w.name, w.gap ++ ':' :: w.type⟩) rest) = none := by
      by_cases empty : w.gap = []
      · rw [empty, List.nil_append, afterBlanks?, if_neg (by simp [isBlank_colon]), Option.bind_none]
      · rw [afterBlanks?_append empty w.blank (by simp [isBlank_colon]), Option.bind_some,
          labelledType?_colon]
    rw [WrittenParameter.front, ← cut] at alone
    rw [ofSegment?, ParameterForm.at?, Option.orElse_eq_or]
    nth_rewrite 1 [cut]
    rw [word?_append w.oneWord w.isWord_head?_gap, Option.bind_some, noSecond, Option.none_or, alone]
  | some label =>
    have cut : w.text = label.word ++ (label.blanks ++ w.front) := by
      simp [WrittenParameter.text, written]
    have second := @labelledType?_front (some ⟨label.word, label.blanks ++ w.front⟩) w
      (by rw [written]; rfl)
    have behind : afterBlanks? (label.blanks ++ w.front) = some w.front :=
      afterBlanks?_append label.nonempty label.blank (isBlank_head?_of_oneWord w.oneWord _)
    obtain ⟨form, read, made⟩ := Option.map_eq_some_iff.mp second
    rw [ofSegment?, ParameterForm.at?, Option.orElse_eq_or, cut,
      word?_append label.oneWord (isWord_head?_of_blanks label.nonempty label.blank w.front),
      Option.bind_some, behind, Option.bind_some, read, Option.some_or, Option.map_some, made]

theorem exists_text (found : ofSegment? s = some p) : ∃ w : WrittenParameter, s = w.text := by
  obtain ⟨form, read, -⟩ := Option.map_eq_some_iff.mp found
  rw [ParameterForm.at?, Option.orElse_eq_or] at read
  rcases Option.or_eq_some_iff.mp read with two | ⟨-, one⟩
  · obtain ⟨label, word, two⟩ := Option.bind_eq_some_iff.mp two
    obtain ⟨rest, behind, two⟩ := Option.bind_eq_some_iff.mp two
    obtain ⟨oneWord, whole⟩ := oneWord_of_word? word
    obtain ⟨blanks, cut, nonempty, blank⟩ := afterBlanks?_cut behind
    obtain ⟨w, labelled, rfl⟩ :=
      exists_front two (some ⟨label.text, blanks, oneWord, nonempty, blank⟩)
    refine ⟨w, ?_⟩
    rw [← whole, Passage.whole, cut, WrittenParameter.text, labelled]
    simp
  · obtain ⟨w, unlabelled, rfl⟩ := exists_front one none
    refine ⟨w, ?_⟩
    rw [WrittenParameter.text, unlabelled]
    rfl

/-- A segment lists what is written in it, and nothing where it is not written as a parameter. -/
theorem ofSegment?_eq_some :
    ofSegment? s = some p ↔ ∃ w : WrittenParameter, s = w.text ∧ w.parameter = p := by
  constructor
  · intro found
    obtain ⟨w, rfl⟩ := exists_text found
    exact ⟨w, rfl, Option.some.inj ((ofSegment?_text w).symm.trans found)⟩
  · rintro ⟨w, rfl, rfl⟩
    exact ofSegment?_text w

theorem join_growFirst {c : Char} {parts : List Text} (nonempty : parts ≠ []) :
    join [','] (growFirst c parts) = c :: join [','] parts := by
  obtain ⟨part, others, rfl⟩ := List.exists_cons_of_ne_nil nonempty
  cases others with
  | nil => simp [growFirst]
  | cons next others => rw [growFirst, join_cons_cons, join_cons_cons, List.cons_append]

theorem join_splitAtCommas (depth : Nat) (before : Option Char) (t : Text) :
    join [','] (splitAtCommas depth before t) = t := by
  induction t generalizing depth before with
  | nil => rfl
  | cons c t ih =>
    have nonempty := splitAtCommas_ne_nil (depthAfter depth before c) (some c) t
    rw [splitAtCommas]
    split
    · rename_i cut
      obtain ⟨rfl, rfl⟩ : c = ',' ∧ depth = 0 := by simpa using cut
      have again := ih 0 (some ',')
      obtain ⟨part, others, split⟩ :=
        List.exists_cons_of_ne_nil (splitAtCommas_ne_nil 0 (some ',') t)
      rw [split] at again ⊢
      rw [join_cons_cons, again]
      rfl
    · rw [join_growFirst nonempty, ih]

theorem listed_join {parts : List Text} (cuts : Cuts parts) :
    listed (join [','] parts) = parts.flatMap listed := by
  induction parts with
  | nil => rfl
  | cons part parts ih =>
    cases parts with
    | nil => simp
    | cons next parts =>
      obtain ⟨-, whole⟩ := List.forall_mem_cons.mp cuts.whole
      obtain ⟨first, closed⟩ := List.forall_mem_cons.mp cuts.closed
      rw [join_cons_cons, List.singleton_append, listed_append first, ih ⟨whole, closed⟩]
      exact List.flatMap_cons.symm

/-- The commas outside every bracket decide which parameters a text lists.  A text is cut at them,
each part lists one parameter if it is written as one and none otherwise, and the parts in front of
a comma and behind it list what they do alone. -/
theorem listed_segments :
    (∀ s t, depthOver 0 none s = 0 → listed (s ++ ',' :: t) = listed s ++ listed t) ∧
    (∀ t, noOuterComma 0 none t = true → (listed t).length ≤ 1 ∧
      ∀ p, listed t = [p] ↔ ∃ w : WrittenParameter, trim t = w.text ∧ w.parameter = p) ∧
    (∀ parts, Cuts parts → listed (join [','] parts) = parts.flatMap listed) ∧
    ∀ t, ∃ parts, Cuts parts ∧ t = join [','] parts := by
  refine ⟨fun s t closed => listed_append closed t, ?segment, fun parts => listed_join,
    fun t => ⟨_, cuts_splitAtCommas t, (join_splitAtCommas 0 none t).symm⟩⟩
  case segment =>
    intro t whole
    rw [listed_of_noOuterComma whole]
    refine ⟨Option.length_toList_le, fun p => ?_⟩
    rw [← ofSegment?_eq_some]
    cases ofSegment? (trim t) <;> simp

/- An arrow and a bracket that nothing opened in front of a comma, an empty segment, a segment that
is dropped, and a parameter over two lines. -/
def crowdedSegments : List Text :=
  ["f : (A, B) -> C>".toList, [], " 7 ->".toList, " in\n m:\tMap<K,\n V> ".toList]

def crowdedFront : Text := "f : (A, B) -> C>,, 7 ->".toList

def crowdedBack : Text := " in\n m:\tMap<K,\n V> ".toList

theorem listed_segments_crowded :
    depthOver 0 none crowdedFront = 0 ∧
    listed (crowdedFront ++ ',' :: crowdedBack) = listed crowdedFront ++ listed crowdedBack ∧
    noOuterComma 0 none crowdedBack = true ∧
    listed crowdedBack = [⟨"in m".toList, "Map<K, V>".toList⟩] ∧
    Cuts crowdedSegments ∧
      listed (join [','] crowdedSegments) = crowdedSegments.flatMap listed := by
  have closed : depthOver 0 none crowdedFront = 0 := by decide
  have whole : noOuterComma 0 none crowdedBack = true := by decide
  have cuts : Cuts crowdedSegments := ⟨by decide, by decide⟩
  have written : listed crowdedBack = [⟨"in m".toList, "Map<K, V>".toList⟩] :=
    ((listed_segments.2.1 crowdedBack whole).2 _).mpr
      ⟨⟨some ⟨"in".toList, "\n ".toList, by decide, by decide, List.all_eq_true.mp (by decide)⟩,
        ['m'], [], "\tMap<K,\n V>".toList, by decide, by simp, by decide⟩, by decide, by decide⟩
  exact ⟨closed, listed_segments.1 _ _ closed, whole, written, cuts,
    listed_segments.2.2.1 _ cuts⟩

end Parameter
end ReferencePage
