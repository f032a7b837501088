import Mathlib.Data.List.Basic
import ReferencePage.Proofs.Finds
import ReferencePage.Proofs.Spacing
import ReferencePage.Source.Bracket

/-! Commas outside every bracket.  They alone cut a text into parts, and how blanks are spread
between its words changes neither the count of open brackets nor where such a comma stands. -/
namespace ReferencePage

open Text

/-- The count of open brackets behind a text, which starts from `depth`. -/
def depthOver : Nat → Option Char → Text → Nat
  | depth, _, [] => depth
  | depth, before, c :: t => depthOver (depthAfter depth before c) (some c) t

/-- No comma of the text is met while the count is zero. -/
def noOuterComma : Nat → Option Char → Text → Bool
  | _, _, [] => true
  | depth, before, c :: t =>
    !(c = ',' && depth = 0) && noOuterComma (depthAfter depth before c) (some c) t

theorem depthOver_append (depth : Nat) (before : Option Char) (s t : Text) :
    depthOver depth before (s ++ t) =
      depthOver (depthOver depth before s) (s.getLast?.or before) t := by
  induction s generalizing depth before with
  | nil => rfl
  | cons c s ih =>
    rw [List.cons_append, depthOver, ih, depthOver, getLast?_cons_or]

theorem noOuterComma_append (depth : Nat) (before : Option Char) (s t : Text) :
    noOuterComma depth before (s ++ t) =
      (noOuterComma depth before s &&
        noOuterComma (depthOver depth before s) (s.getLast?.or before) t) := by
  induction s generalizing depth before with
  | nil => rfl
  | cons c s ih =>
    rw [List.cons_append, noOuterComma, ih, noOuterComma, depthOver, Bool.and_assoc,
      getLast?_cons_or]

/- What comes before matters only when it is a hyphen. -/
section Before

variable {before : Option Char}

theorem depthAfter_before (other : before ≠ some '-') (depth : Nat) (c : Char) :
    depthAfter depth before c = depthAfter depth none c := by
  have arrow : isArrowHead before c = isArrowHead none c := by
    simp [isArrowHead, other]
  rw [depthAfter, depthAfter, arrow]

theorem depthOver_before (other : before ≠ some '-') (depth : Nat) (t : Text) :
    depthOver depth before t = depthOver depth none t := by
  cases t with
  | nil => rfl
  | cons c t => rw [depthOver, depthOver, depthAfter_before other]

theorem noOuterComma_before (other : before ≠ some '-') (depth : Nat) (t : Text) :
    noOuterComma depth before t = noOuterComma depth none t := by
  cases t with
  | nil => rfl
  | cons c t => rw [noOuterComma, noOuterComma, depthAfter_before other]

theorem splitAtCommas_before (other : before ≠ some '-') (depth : Nat) (t : Text) :
    splitAtCommas depth before t = splitAtCommas depth none t := by
  cases t with
  | nil => rfl
  | cons c t => rw [splitAtCommas, splitAtCommas, depthAfter_before other]

end Before

def marks : List Char := ['<', '[', '(', '>', ']', ')', ',']

def isMark (c : Char) : Bool := c ∈ marks

theorem depthAfter_of_not_mark {c : Char} (plain : isMark c = false) (depth : Nat)
    (before : Option Char) : depthAfter depth before c = depth := by
  simp only [isMark, marks, List.mem_cons, List.not_mem_nil, or_false, decide_eq_false_iff_not,
    not_or]
    at plain
  simp [depthAfter, plain]

theorem ne_comma_of_not_mark {c : Char} (plain : isMark c = false) : c ≠ ',' := by
  rintro rfl
  simp [isMark, marks] at plain

theorem depthOver_plain {s : Text} (plain : ∀ c ∈ s, isMark c = false) (depth : Nat)
    (before : Option Char) : depthOver depth before s = depth := by
  induction s generalizing before with
  | nil => rfl
  | cons c s ih =>
    rw [depthOver, depthAfter_of_not_mark (plain c List.mem_cons_self)]
    exact ih (fun d member => plain d (List.mem_cons_of_mem c member)) _

theorem noOuterComma_plain {s : Text} (plain : ∀ c ∈ s, isMark c = false) (depth : Nat)
    (before : Option Char) : noOuterComma depth before s = true := by
  induction s generalizing before with
  | nil => rfl
  | cons c s ih =>
    have first := plain c List.mem_cons_self
    rw [noOuterComma, depthAfter_of_not_mark first,
      ih fun d member => plain d (List.mem_cons_of_mem c member)]
    simp [ne_comma_of_not_mark first]

theorem not_mark_of_none {p : Char → Bool} (none : marks.any p = false) {c : Char}
    (holds : p c = true) : isMark c = false := by
  rw [isMark, decide_eq_false_iff_not]
  intro member
  exact List.any_eq_false.mp none c member holds

theorem not_mark_of_isBlank {c : Char} (blank : isBlank c = true) : isMark c = false :=
  not_mark_of_none (by decide) blank

theorem ne_hyphen_of_isBlank {c : Char} (blank : isBlank c = true) : some c ≠ some '-' := by
  intro same
  rw [Option.some.inj same] at blank
  contradiction

/- A blank only hides what stands before it. -/
section Blank

variable {c : Char} (blank : isBlank c = true)
include blank

theorem depthOver_blank (depth : Nat) (before : Option Char) (t : Text) :
    depthOver depth before (c :: t) = depthOver depth none t := by
  rw [depthOver, depthAfter_of_not_mark (not_mark_of_isBlank blank),
    depthOver_before (ne_hyphen_of_isBlank blank)]

theorem noOuterComma_blank (depth : Nat) (before : Option Char) (t : Text) :
    noOuterComma depth before (c :: t) = noOuterComma depth none t := by
  have plain := not_mark_of_isBlank blank
  rw [noOuterComma, depthAfter_of_not_mark plain,
    noOuterComma_before (ne_hyphen_of_isBlank blank)]
  simp [ne_comma_of_not_mark plain]

theorem splitAtCommas_blank (depth : Nat) (before : Option Char) (t : Text) :
    splitAtCommas depth before (c :: t) = growFirst c (splitAtCommas depth none t) := by
  have plain := not_mark_of_isBlank blank
  rw [splitAtCommas, if_neg (by simp [ne_comma_of_not_mark plain]), depthAfter_of_not_mark plain,
    splitAtCommas_before (ne_hyphen_of_isBlank blank)]

end Blank

theorem depth_and_comma_collapse (t : Text) (depth : Nat) :
    depthOver depth none (collapse t) = depthOver depth none t ∧
      noOuterComma depth none (collapse t) = noOuterComma depth none t := by
  induction t using blank_induction generalizing depth with
  | solid w solid => rw [collapse_solid solid]; exact ⟨rfl, rfl⟩
  | blank w c t solid blank ih =>
    by_cases empty : w = []
    · rw [empty, List.nil_append, collapse_cons_blank blank, depthOver_blank blank,
        noOuterComma_blank blank]
      exact ih depth
    · obtain ⟨depths, commas⟩ := ih (depthOver depth none w)
      rw [depthOver_append, noOuterComma_append, depthOver_blank blank, noOuterComma_blank blank,
        ← depths, ← commas, collapse_append_blank solid empty blank]
      split
      · rename_i last
        rw [collapse, last]
        exact ⟨rfl, (Bool.and_true _).symm⟩
      · rw [depthOver_append, noOuterComma_append, depthOver_blank isBlank_space,
          noOuterComma_blank isBlank_space]
        exact ⟨rfl, rfl⟩

theorem depthOver_collapse (t : Text) : depthOver 0 none (collapse t) = depthOver 0 none t :=
  (depth_and_comma_collapse t 0).1

theorem noOuterComma_collapse (t : Text) :
    noOuterComma 0 none (collapse t) = noOuterComma 0 none t :=
  (depth_and_comma_collapse t 0).2

theorem depthOver_trim (t : Text) : depthOver 0 none (trim t) = depthOver 0 none t := by
  rw [← depthOver_collapse, collapse_trim, depthOver_collapse]

theorem noOuterComma_trim (t : Text) :
    noOuterComma 0 none (trim t) = noOuterComma 0 none t := by
  rw [← noOuterComma_collapse, collapse_trim, noOuterComma_collapse]

theorem growFirst_append {c : Char} {parts others : List Text} (nonempty : parts ≠ []) :
    growFirst c (parts ++ others) = growFirst c parts ++ others := by
  obtain ⟨part, parts, rfl⟩ := List.exists_cons_of_ne_nil nonempty
  rfl

theorem splitAtCommas_ne_nil (depth : Nat) (before : Option Char) (t : Text) :
    splitAtCommas depth before t ≠ [] := by
  cases t with
  | nil => simp [splitAtCommas]
  | cons c t =>
    unfold splitAtCommas
    split
    · simp
    · cases splitAtCommas (depthAfter depth before c) (some c) t <;> simp [growFirst]

theorem splitAtCommas_append {depth : Nat} {before : Option Char} {s : Text}
    (closed : depthOver depth before s = 0) (t : Text) :
    splitAtCommas depth before (s ++ ',' :: t) =
      splitAtCommas depth before s ++ splitAtCommas 0 none t := by
  induction s generalizing depth before with
  | nil =>
    obtain rfl : depth = 0 := closed
    have cut : splitAtCommas 0 before (',' :: t) = [] :: splitAtCommas 0 (some ',') t := by
      simp [splitAtCommas]
    rw [List.nil_append, cut, splitAtCommas_before (by decide)]
    rfl
  | cons c s ih =>
    rw [List.cons_append, splitAtCommas, splitAtCommas]
    split
    · rename_i cut
      simp only [Bool.and_eq_true, decide_eq_true_eq] at cut
      obtain ⟨rfl, rfl⟩ := cut
      rw [ih (by simpa [depthOver, depthAfter] using closed), List.cons_append]
    · rw [ih closed, growFirst_append (splitAtCommas_ne_nil _ _ s)]

theorem splitAtCommas_of_noOuterComma {depth : Nat} {before : Option Char} {t : Text}
    (none : noOuterComma depth before t = true) : splitAtCommas depth before t = [t] := by
  induction t generalizing depth before with
  | nil => rfl
  | cons c t ih =>
    rw [noOuterComma, Bool.and_eq_true, Bool.not_eq_true'] at none
    rw [splitAtCommas, none.1, ih none.2]
    rfl

/-- No part has an outer comma, and only the last may leave brackets open. -/
structure Cuts (parts : List Text) : Prop where
  whole : ∀ part ∈ parts, noOuterComma 0 none part = true
  closed : ∀ part ∈ parts.dropLast, depthOver 0 none part = 0

theorem Cuts.cons {part : Text} {parts : List Text} (cuts : Cuts parts)
    (whole : noOuterComma 0 none part = true)
    (closed : parts ≠ [] → depthOver 0 none part = 0) : Cuts (part :: parts) := by
  constructor
  · exact List.forall_mem_cons.mpr ⟨whole, cuts.whole⟩
  · cases parts with
    | nil => simp
    | cons next parts =>
      rw [List.dropLast_cons_cons]
      exact List.forall_mem_cons.mpr ⟨closed (by simp), cuts.closed⟩

/- The first part goes on from the count and the character that the split began with. -/
theorem splitAtCommas_cuts (depth : Nat) (before : Option Char) (t : Text) :
    ∃ part parts, splitAtCommas depth before t = part :: parts ∧ Cuts parts ∧
      noOuterComma depth before part = true ∧
      (parts ≠ [] → depthOver depth before part = 0) := by
  induction t generalizing depth before with
  | nil => exact ⟨[], [], rfl, ⟨by simp, by simp⟩, rfl, by simp⟩
  | cons c t ih =>
    unfold splitAtCommas
    split
    · rename_i cut
      simp only [Bool.and_eq_true, decide_eq_true_eq] at cut
      obtain ⟨rfl, rfl⟩ := cut
      obtain ⟨part, parts, split, cuts, whole, closed⟩ := ih 0 (some ',')
      rw [noOuterComma_before (by decide)] at whole
      rw [depthOver_before (by decide)] at closed
      exact ⟨[], part :: parts, by rw [split], cuts.cons whole closed, rfl, fun _ => rfl⟩
    · rename_i onward
      obtain ⟨part, parts, split, cuts, whole, closed⟩ := ih (depthAfter depth before c) (some c)
      refine ⟨c :: part, parts, by rw [split]; rfl, cuts, ?_, closed⟩
      rw [noOuterComma, whole, Bool.and_true]
      exact Bool.not_eq_true' _ |>.mpr (Bool.eq_false_iff.mpr onward)

theorem cuts_splitAtCommas (t : Text) : Cuts (splitAtCommas 0 none t) := by
  obtain ⟨part, parts, split, cuts, whole, closed⟩ := splitAtCommas_cuts 0 none t
  rw [split]
  exact cuts.cons whole closed

end ReferencePage
