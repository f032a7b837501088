import Mathlib.Data.List.Duplicate
import ReferencePage.Document.Anchor
import ReferencePage.Proofs.Mentions
import ReferencePage.Proofs.SmallLetters

/-! When two members share an anchor, and when a mention of the one is a mention of the other. -/
namespace ReferencePage

open Text

theorem mem_repeatedFrom {once again rest : List Text} (earlier : again ⊆ once) {t : Text} :
    t ∈ repeatedFrom once again rest ↔
      t ∉ again ∧ (t ∈ once ∧ t ∈ rest ∨ List.Duplicate t rest) := by
  induction rest generalizing once again with
  | nil => simp [repeatedFrom]
  | cons u rest ih =>
    unfold repeatedFrom
    split
    · rename_i known
      rw [ih earlier, List.duplicate_cons_iff, List.mem_cons]
      by_cases same : t = u
      · simp [same, known]
      · simp [same, Ne.symm same]
    · rename_i fresh
      split
      · rename_i before
        have earlier : u :: again ⊆ once := List.cons_subset.mpr ⟨before, earlier⟩
        rw [List.mem_cons, ih earlier, List.duplicate_cons_iff, List.mem_cons, List.mem_cons]
        by_cases same : t = u
        · simp [same, before, fresh]
        · simp [same, Ne.symm same]
      · rename_i first
        have earlier : again ⊆ u :: once := List.subset_cons_of_subset u earlier
        rw [ih earlier, List.duplicate_cons_iff, List.mem_cons, List.mem_cons]
        by_cases same : t = u
        · subst same
          simp only [fresh, first, true_or, true_and, false_and, false_or]
        · simp [same, Ne.symm same]

theorem mem_repeated {texts : List Text} {t : Text} :
    t ∈ repeated texts ↔ List.Duplicate t texts := by
  simp [repeated, mem_repeatedFrom (List.Subset.refl [])]

theorem Document.mem_sharedAnchors_of_both {d : Document} {m n : Member}
    (both : [m, n].Sublist d.members) (same : m.anchor = n.anchor) :
    m.anchor ∈ d.sharedAnchors := by
  have twice := both.map Member.anchor
  simp only [List.map_cons, List.map_nil, ← same] at twice
  exact mem_repeated.mpr (List.duplicate_iff_sublist.mpr twice)

theorem mention?_word {name word : Text} (one : OneWord word) :
    mention? name none word = some ⟨word, []⟩ ↔ name.map fold = word.map fold := by
  obtain ⟨c, first, opens⟩ := one.exists_head? []
  obtain ⟨d, last, closes⟩ := one.exists_getLast? []
  rw [List.append_nil] at first
  rw [List.nil_append] at last
  rw [← List.getLast?_nil, mention?_eq_some]
  simp only [List.append_nil, List.nil_append, List.head?_nil, List.getLast?_nil, true_and, border,
    first, last, Option.any_some, Option.any_none, opens, closes]
  exact ⟨fun both => both.1.symm, fun same => ⟨same.symm, rfl, rfl⟩⟩

namespace MemberKind

theorem anchor_eq_iff (kind : MemberKind) {a b : Text} :
    kind.anchor a = kind.anchor b ↔ lower a = lower b := by
  simp [anchor]

/-- Members of one kind share an anchor exactly when the name of the one, with the dotted capital
written as two characters, mentions the name of the other and both have the same forms of their own
at the same places.  Where no letter has such a form and none is that capital, sharing an anchor and
being mentioned are the same.  An anchor that two members share is reported. -/
theorem anchor_eq_iff_mention (kind : MemberKind) (a : Text) {b : Text} (word : OneWord b) :
    (kind.anchor a = kind.anchor b ↔
        mention? (dotApart a) none (dotApart b) = some ⟨dotApart b, []⟩ ∧
          ownForms (dotApart a) = ownForms (dotApart b)) ∧
      ((∀ c ∈ a ++ b, c ∉ 'İ' :: 'Σ' :: ownFormLetters) →
        (kind.anchor a = kind.anchor b ↔ mention? a none b = some ⟨b, []⟩)) ∧
      ∀ (d : Document) (comment comment' : Option Text),
        [Member.of kind a comment, Member.of kind b comment'].Sublist d.members →
          kind.anchor a = kind.anchor b → kind.anchor a ∈ d.sharedAnchors := by
  have exact := kind.anchor_eq_iff.trans (lower_eq_iff (a := a) (b := b))
  refine ⟨?_, ?_, ?_⟩
  · rw [exact, mention?_word word.dotApart]
  · intro plain
    obtain ⟨undotted, undotted'⟩ : 'İ' ∉ a ∧ 'İ' ∉ b := by
      constructor <;> intro member <;> exact plain 'İ' (by simp [member]) List.mem_cons_self
    rw [exact, mention?_word word, dotApart_eq_self undotted, dotApart_eq_self undotted']
    constructor
    · exact And.left
    · intro folded
      have sizes : a.length = b.length := by simpa using congrArg List.length folded
      refine ⟨folded, ?_⟩
      unfold ownForms
      rw [ownFormsFrom_eq_replicate, ownFormsFrom_eq_replicate, sizes]
      · intro c member own
        exact plain c (List.mem_append_right a member) (List.mem_cons_of_mem _ own)
      · intro c member own
        exact plain c (List.mem_append_left b member) (List.mem_cons_of_mem _ own)
  · intro d comment comment' both same
    exact Document.mem_sharedAnchors_of_both both same

def capitalName : Text := "Count".toList
def smallName : Text := "count".toList

def tally : Document where
  declaration := ⟨"Tally".toList, .classType, none⟩
  properties := [⟨.of .property capitalName none, "Int".toList⟩,
    ⟨.of .property smallName none, "Int".toList⟩]
  methods := []

theorem anchor_eq_iff_mention_tally :
    OneWord smallName ∧ (∀ c ∈ capitalName ++ smallName, c ∉ 'İ' :: 'Σ' :: ownFormLetters) ∧
      [Member.of .property capitalName none, Member.of .property smallName none].Sublist
        tally.members ∧
      (property.anchor capitalName = property.anchor smallName ↔
        mention? (dotApart capitalName) none (dotApart smallName) =
            some ⟨dotApart smallName, []⟩ ∧
          ownForms (dotApart capitalName) = ownForms (dotApart smallName)) ∧
      (property.anchor capitalName = property.anchor smallName ↔
        mention? capitalName none smallName = some ⟨smallName, []⟩) ∧
      property.anchor capitalName ∈ tally.sharedAnchors := by
  have word : OneWord smallName := by decide
  have plain : ∀ c ∈ capitalName ++ smallName, c ∉ 'İ' :: 'Σ' :: ownFormLetters := by
    have none : ((capitalName ++ smallName).all fun c =>
        decide (c ∉ 'İ' :: 'Σ' :: ownFormLetters)) = true := by decide
    simpa only [List.all_eq_true, decide_eq_true_eq] using none
  have both : [Member.of .property capitalName none, Member.of .property smallName none].Sublist
      tally.members := List.Sublist.refl _
  obtain ⟨inGeneral, ofPlain, reported⟩ := anchor_eq_iff_mention .property capitalName word
  exact ⟨word, plain, both, inGeneral, ofPlain plain,
    reported tally none none both (by decide)⟩

/-- Neither half of the equivalence holds of all names: a sigma that is not final does not share an
anchor with the capital that mentions it, and a name shares one with the two characters that its
dotted capital becomes, which do not mention it. -/
theorem not_anchor_eq_iff_mention :
    (¬∀ (kind : MemberKind) (a b : Text), OneWord a → OneWord b →
        mention? a none b = some ⟨b, []⟩ → kind.anchor a = kind.anchor b) ∧
      ¬∀ (kind : MemberKind) (a b : Text), OneWord a → OneWord b →
        kind.anchor a = kind.anchor b → mention? a none b = some ⟨b, []⟩ := by
  constructor
  · intro always
    have shared := always .property "aσ".toList "AΣ".toList (by decide) (by decide)
      (by decide)
    revert shared
    decide
  · intro always
    have mentioned := always .property "İ".toList "i\u0307".toList (by decide)
      (by decide) (by decide)
    revert mentioned
    decide

end MemberKind
end ReferencePage
