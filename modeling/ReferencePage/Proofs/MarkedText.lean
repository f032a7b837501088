import Mathlib.Data.List.TakeWhile
import ReferencePage.Proofs.Spacing
import ReferencePage.Source.Form

/-! The text after a mark, up to a stop or to the end of its line.  Where anything but blanks comes
before the stop, the text begins with the first of it; where nothing does, a blank stands for it. -/
namespace ReferencePage

open Text

def Passes (isStop : Char → Bool) (t : Text) : Prop := ∀ c ∈ t, isStop c = false ∧ c ≠ '\n'

section LineUpTo

variable {isStop : Char → Bool} {t text rest : Text}

theorem lineUpTo_cut (behind : trimStart t = text ++ rest) (nonempty : text ≠ [])
    (passes : Passes isStop text) (stops : ∀ c ∈ rest.head?, isStop c = true ∨ c = '\n') :
    lineUpTo isStop t = some ⟨text, rest⟩ := by
  have taken : (trimStart t).takeWhile (fun c => !isStop c && c != '\n') = text := by
    have none_taken : rest.takeWhile (fun c => !isStop c && c != '\n') = [] := by
      cases rest with
      | nil => rfl
      | cons c rest =>
        refine List.takeWhile_cons_of_neg ?_
        rcases stops c (by simp) with stop | rfl
        · simp [stop]
        · simp
    rw [behind, List.takeWhile_append_of_pos, none_taken, List.append_nil]
    intro c member
    simpa using passes c member
  unfold lineUpTo
  dsimp only
  rw [taken, behind]
  split
  · exact absurd rfl nonempty
  · rw [List.drop_left]

theorem trimStart_cut_of_head? {c : Char} (first : (trimStart t).head? = some c)
    (passes : isStop c = false) :
    ∃ text rest, trimStart t = text ++ rest ∧ text ≠ [] ∧ Passes isStop text ∧
      ∀ d ∈ rest.head?, isStop d = true ∨ d = '\n' := by
  have solid := isBlank_head?_trimStart t c first
  have differs : c ≠ '\n' := by
    rintro rfl
    contradiction
  refine ⟨(trimStart t).takeWhile (fun c => !isStop c && c != '\n'),
    (trimStart t).dropWhile (fun c => !isStop c && c != '\n'),
    List.takeWhile_append_dropWhile.symm, ?_, ?_, ?_⟩
  · obtain ⟨u, cut⟩ := List.head?_eq_some_iff.mp first
    simp [cut, passes, differs]
  · intro d member
    simpa using List.all_eq_true.mp List.all_takeWhile d member
  · intro d member
    have stops := List.head?_dropWhile_not (fun c => !isStop c && c != '\n') (trimStart t)
    rw [Option.mem_def.mp member] at stops
    by_cases stop : isStop d = true
    · exact .inl stop
    · exact .inr (by simpa [stop] using stops)

/-- What is read is all up to the stop, or the blank that stands for it. -/
theorem lineUpTo_cases {p : Passage} (found : lineUpTo isStop t = some p) :
    (trimStart t).takeWhile (fun c => !isStop c && c != '\n') = p.text ∨
      (trimStart t).takeWhile (fun c => !isStop c && c != '\n') = [] ∧
        ∃ blank, p.text = [blank] ∧ isBlank blank = true ∧ blank ≠ '\n' := by
  unfold lineUpTo at found
  dsimp only at found
  split at found
  · rename_i none_taken
    refine .inr ⟨none_taken, ?_⟩
    split at found
    · contradiction
    · rename_i blank before kept
      cases Option.some.inj found
      have member : blank ∈ t.takeWhile isBlank := by
        rw [← List.mem_reverse]
        exact (List.dropWhile_sublist _).subset (kept ▸ List.mem_cons_self)
      have first := List.head?_dropWhile_not (· == '\n') (t.takeWhile isBlank).reverse
      rw [kept] at first
      exact ⟨blank, rfl, List.all_eq_true.mp List.all_takeWhile blank member, by simpa using first⟩
  · cases Option.some.inj found
    exact .inl rfl

theorem suffix_lineUpTo {p : Passage} (found : lineUpTo isStop t = some p) : p.rest <:+ t := by
  unfold lineUpTo at found
  dsimp only at found
  split at found
  · split at found
    · contradiction
    · cases Option.some.inj found
      exact List.drop_suffix _ t
  · cases Option.some.inj found
    exact (List.drop_suffix _ _).trans (List.dropWhile_suffix isBlank)

theorem passes_lineUpTo (solid : ∀ c, isStop c = true → isBlank c = false) {p : Passage}
    (found : lineUpTo isStop t = some p) : Passes isStop p.text := by
  rcases lineUpTo_cases found with taken | ⟨-, blank, one, isBlank_blank, other⟩
  · intro c member
    rw [← taken] at member
    simpa using List.all_eq_true.mp List.all_takeWhile c member
  · intro c member
    obtain rfl : c = blank := List.mem_singleton.mp (one ▸ member)
    refine ⟨Bool.eq_false_iff.mpr fun stops => ?_, other⟩
    rw [solid c stops] at isBlank_blank
    contradiction

theorem lineUpTo_whole {p : Passage} (found : lineUpTo isStop t = some p) :
    ∃ blanks, t = blanks ++ p.whole ∧ ∀ c ∈ blanks, isBlank c = true := by
  unfold lineUpTo at found
  dsimp only at found
  split at found
  · split at found
    · contradiction
    · rename_i blank before kept
      cases Option.some.inj found
      -- Behind the blank only line feeds were dropped, and what follows the blanks.
      obtain ⟨dropped, cut⟩ :=
        List.dropWhile_suffix (l := (t.takeWhile isBlank).reverse) (· == '\n')
      rw [kept] at cut
      have blanks : t.takeWhile isBlank = before.reverse ++ blank :: dropped.reverse := by
        rw [← List.reverse_reverse (t.takeWhile isBlank), ← cut]
        simp
      have front : (before.reverse ++ [blank]) <+: t := by
        have within : (before.reverse ++ [blank]) <+: t.takeWhile isBlank :=
          ⟨dropped.reverse, by rw [blanks, List.append_assoc, List.singleton_append]⟩
        exact within.trans (List.takeWhile_prefix isBlank)
      refine ⟨before.reverse, ?_, ?_⟩
      · rw [Passage.whole, ← List.append_assoc]
        simpa using (List.prefix_iff_eq_append.mp front).symm
      · intro c member
        have inside : c ∈ t.takeWhile isBlank := blanks ▸ List.mem_append_left _ member
        exact List.all_eq_true.mp List.all_takeWhile c inside
  · cases Option.some.inj found
    obtain ⟨blanks, cut, blank⟩ := trimStart_cut t
    refine ⟨blanks, ?_, blank⟩
    rw [Passage.whole, List.prefix_iff_eq_append.mp (List.takeWhile_prefix _)]
    exact cut

theorem trim_lineUpTo {p : Passage} (found : lineUpTo isStop t = some p) :
    trim p.text = trim ((trimStart t).takeWhile fun c => !isStop c && c != '\n') := by
  rcases lineUpTo_cases found with taken | ⟨none_taken, blank, one, isBlank_blank, -⟩
  · rw [taken]
  · rw [none_taken, one]
    simp [trim, trimStart, trimEnd, isBlank_blank]

theorem trim_lineUpTo_of_head? (nothing : ∀ c ∈ (trimStart t).head?, isStop c = true) {p : Passage}
    (found : lineUpTo isStop t = some p) : trim p.text = [] := by
  have none_taken : (trimStart t).takeWhile (fun c => !isStop c && c != '\n') = [] := by
    cases cut : trimStart t with
    | nil => rfl
    | cons c u => exact List.takeWhile_cons_of_neg (by simp [nothing c (by simp [cut])])
  rw [trim_lineUpTo found, none_taken]
  rfl

end LineUpTo
end ReferencePage
