import Mathlib.Data.List.Basic
import ReferencePage.Proofs.Folding
import ReferencePage.Proofs.Words

/-! Small letters and folding.  Some letters fold to another one and yet have a small form of their
own, and a capital sigma has two small forms.  One capital becomes two small characters.  With this
one written as the two, texts have the same small letters exactly where they fold to the same and
hold the same forms of their own at the same places. -/
namespace ReferencePage.Text

/- The tables. -/
section Tables

theorem lowerRuns_fold : ∀ run ∈ lowerRuns, ∀ n ∈ run.points,
    (run.mapped n).isValidChar ∧ image foldTree (run.mapped n) = image foldTree n := by
  decide +kernel

end Tables

def small (c : Char) : Char := Char.ofNat (image lowerTree c.toNat)

theorem fold_small (c : Char) : fold (small c) = fold c := by
  rcases image_lowerTree c.toNat with kept | ⟨run, member, point, mapped⟩
  · simp [small, kept]
  · obtain ⟨valid, same⟩ := lowerRuns_fold run member _ point
    simp [small, fold, mapped, toNat_ofNat valid, same]

def smallBetween (before : Text) (c : Char) (after : Text) : Char :=
  if c = 'Σ' then sigma before after else small c

theorem fold_sigma (before after : Text) : fold (sigma before after) = fold 'Σ' := by
  unfold sigma
  split <;> decide

theorem fold_smallBetween (before : Text) (c : Char) (after : Text) :
    fold (smallBetween before c after) = fold c := by
  unfold smallBetween
  split
  · rename_i capital
    simp [capital, fold_sigma]
  · exact fold_small c

/-- The small letter of a character, where the character it folds to has another one. -/
def ownForm? (before : Text) (c : Char) (after : Text) : Option Char :=
  if smallBetween before c after = small (fold c) then none else some (smallBetween before c after)

def ownFormsFrom (before : Text) : Text → List (Option Char)
  | [] => []
  | c :: t => ownForm? before c t :: ownFormsFrom (c :: before) t

/-- For each place of a text the small form of its own that the letter there has. -/
def ownForms (t : Text) : List (Option Char) := ownFormsFrom [] t

/-- Two letters have the same small letter when they fold to the same and have the same form of
their own, or none. -/
theorem smallBetween_eq_iff {before after before' after' : Text} {c d : Char} :
    smallBetween before c after = smallBetween before' d after' ↔
      fold c = fold d ∧ ownForm? before c after = ownForm? before' d after' := by
  constructor
  · intro same
    have folded : fold c = fold d := by
      rw [← fold_smallBetween before c after, same, fold_smallBetween]
    simp [ownForm?, same, folded]
  · rintro ⟨folded, forms⟩
    unfold ownForm? at forms
    split at forms <;> split at forms <;> simp_all

theorem lowerFrom_cons {before t : Text} {c : Char} (undotted : c ≠ 'İ') :
    lowerFrom before (c :: t) = smallBetween before c t :: lowerFrom (c :: before) t := by
  rw [lowerFrom, smallBetween]
  split <;> simp [lowerChar, small, undotted]

theorem lowerFrom_nil (before : Text) : lowerFrom before [] = [] := rfl

theorem lowerFrom_eq_iff {a b : Text} (first : 'İ' ∉ a) (second : 'İ' ∉ b) (before before' : Text) :
    lowerFrom before a = lowerFrom before' b ↔
      a.map fold = b.map fold ∧ ownFormsFrom before a = ownFormsFrom before' b := by
  induction a generalizing b before before' with
  | nil =>
    cases b with
    | nil => simp [ownFormsFrom, lowerFrom_nil]
    | cons d b =>
      simp only [List.mem_cons, not_or] at second
      simp [lowerFrom_nil, lowerFrom_cons (Ne.symm second.1)]
  | cons c a ih =>
    simp only [List.mem_cons, not_or] at first
    cases b with
    | nil => simp [lowerFrom_nil, lowerFrom_cons (Ne.symm first.1)]
    | cons d b =>
      simp only [List.mem_cons, not_or] at second
      simp [lowerFrom_cons (Ne.symm first.1), lowerFrom_cons (Ne.symm second.1), ownFormsFrom,
        smallBetween_eq_iff, ih first.2 second.2]
      tauto

/-- The dotted capital is written as the two characters that it becomes. -/
def dotApart (t : Text) : Text := t.flatMap fun c => if c = 'İ' then ['i', '\u0307'] else [c]

theorem not_mem_dotApart (t : Text) : 'İ' ∉ dotApart t := by
  intro member
  obtain ⟨c, -, written⟩ := List.mem_flatMap.mp member
  split at written
  · revert written
    decide
  · rename_i other
    exact other (List.mem_singleton.mp written).symm

theorem dotApart_eq_self {t : Text} (undotted : 'İ' ∉ t) : dotApart t = t := by
  induction t with
  | nil => rfl
  | cons c t ih =>
    simp only [List.mem_cons, not_or] at undotted
    simp [dotApart, Ne.symm undotted.1] at *
    exact ih undotted.2

theorem dotApart_cons (c : Char) (t : Text) :
    dotApart (c :: t) = (if c = 'İ' then ['i', '\u0307'] else [c]) ++ dotApart t :=
  List.flatMap_cons

theorem casedNext_cons (c : Char) (t : Text) :
    casedNext (c :: t) = if isCaseIgnorable c then casedNext t else isCased c := by
  unfold casedNext
  split <;> simp_all

/- To what stands before and after it, the capital and the two characters are the same: a letter
with case, and a mark that is passed over. -/
theorem casedNext_dotted (t : Text) : casedNext ('İ' :: t) = true := by
  rw [casedNext_cons, if_neg (by decide)]
  decide

theorem casedNext_i (t : Text) : casedNext ('i' :: t) = true := by
  rw [casedNext_cons, if_neg (by decide)]
  decide

theorem casedNext_dot (t : Text) : casedNext ('\u0307' :: t) = casedNext t := by
  rw [casedNext_cons, if_pos (by decide)]

theorem casedNext_dotApart (t : Text) : casedNext (dotApart t) = casedNext t := by
  induction t with
  | nil => rfl
  | cons c t ih =>
    rw [dotApart_cons]
    split
    · rename_i dotted
      simp [dotted, casedNext_dotted, casedNext_i]
    · simp [casedNext_cons, ih]

theorem lowerFrom_dotApart {before before' : Text} (alike : casedNext before = casedNext before')
    (t : Text) : lowerFrom before (dotApart t) = lowerFrom before' t := by
  induction t generalizing before before' with
  | nil => rfl
  | cons c t ih =>
    rw [dotApart_cons]
    split
    · rename_i dotted
      have behind : casedNext ('\u0307' :: 'i' :: before) = casedNext ('İ' :: before') := by
        rw [casedNext_dot, casedNext_i, casedNext_dotted]
      have small_i : lowerChar 'i' = ['i'] := by decide
      have small_dot : lowerChar '\u0307' = ['\u0307'] := by decide
      have large : lowerChar 'İ' = ['i', '\u0307'] := rfl
      simp [dotted, lowerFrom, small_i, small_dot, large, ih behind]
    · have behind : casedNext (c :: before) = casedNext (c :: before') := by
        rw [casedNext_cons, casedNext_cons, alike]
      simp [lowerFrom, sigma, alike, casedNext_dotApart, ih behind]

/-- Texts have the same small letters exactly when, with the dotted capital written out, they fold
to the same and hold the same forms of their own. -/
theorem lower_eq_iff {a b : Text} : lower a = lower b ↔
    (dotApart a).map fold = (dotApart b).map fold ∧
      ownForms (dotApart a) = ownForms (dotApart b) := by
  unfold lower ownForms
  rw [← lowerFrom_dotApart (Eq.refl (casedNext [])) a,
    ← lowerFrom_dotApart (Eq.refl (casedNext [])) b]
  exact lowerFrom_eq_iff (not_mem_dotApart a) (not_mem_dotApart b) [] []

theorem OneWord.dotApart {t : Text} (word : OneWord t) : OneWord (dotApart t) := by
  obtain ⟨c, t, rfl⟩ := List.exists_cons_of_ne_nil word.1
  constructor
  · rw [dotApart_cons]
    split <;> simp
  · have letter : isWord 'i' = true := by decide
    have dot : isWord '\u0307' = true := by decide
    have marks : ∀ d ∈ ['i', '\u0307'], isWord d = true := by simp [letter, dot]
    intro d member
    obtain ⟨e, known, written⟩ := List.mem_flatMap.mp member
    split at written
    · exact marks d written
    · rw [List.mem_singleton.mp written]
      exact word.2 e known

/-- The letters that fold to another one and have a small form of their own wherever they stand. -/
def ownFormLetters : List Char :=
  ['µ', 'ſ', '\u0345', 'ς', 'ϐ', 'ϑ', 'ϕ', 'ϖ', 'ϰ', 'ϱ', 'ϵ', '\u1C80', '\u1C81', '\u1C82',
    '\u1C83', '\u1C84', '\u1C85', '\u1C86', '\u1C87', '\u1C88', '\u1E9B', '\u1FBE', '\u1FD3',
    '\u1FE3', '\uFB05']

theorem foldRuns_small : ∀ run ∈ foldRuns, ∀ n ∈ run.points, (run.mapped n).isValidChar ∧
    (image lowerTree (run.mapped n) = image lowerTree n ∨ Char.ofNat n ∈ ownFormLetters) := by
  decide +kernel

theorem small_fold {c : Char} (plain : c ∉ ownFormLetters) : small (fold c) = small c := by
  rcases image_foldTree c.toNat with kept | ⟨run, member, point, mapped⟩
  · simp [fold, kept]
  · obtain ⟨valid, same | own⟩ := foldRuns_small run member _ point
    · simp [small, fold, mapped, toNat_ofNat valid, same]
    · rw [Char.ofNat_toNat] at own
      exact absurd own plain

theorem ownForm?_eq_none {c : Char} (plain : c ∉ 'Σ' :: ownFormLetters) (before after : Text) :
    ownForm? before c after = none := by
  simp only [List.mem_cons, not_or] at plain
  simp [ownForm?, smallBetween, plain.1, small_fold plain.2]

theorem ownFormsFrom_eq_replicate {t : Text} (plain : ∀ c ∈ t, c ∉ 'Σ' :: ownFormLetters)
    (before : Text) : ownFormsFrom before t = List.replicate t.length none := by
  induction t generalizing before with
  | nil => rfl
  | cons c t ih =>
    obtain ⟨first, others⟩ := List.forall_mem_cons.mp plain
    simp [ownFormsFrom, ownForm?_eq_none first, ih others, List.replicate_succ]

end ReferencePage.Text
