import Mathlib.Data.List.Basic
import Mathlib.Data.List.TakeWhile
import ReferencePage.Text.Blank

/-! Words between blanks, and what trimming and collapsing leave of them.  A text cut at a blank has
the words of both its parts; everything here follows from that. -/
namespace ReferencePage.Text

/-- No blank stands in the text. -/
def Solid (t : Text) : Prop := ∀ c ∈ t, isBlank c = false

/-- Every text is solid, or a blank stands behind its first solid part. -/
theorem blank_induction {motive : Text → Prop} (solid : ∀ w, Solid w → motive w)
    (blank : ∀ w c t, Solid w → isBlank c = true → motive t → motive (w ++ c :: t))
    (t : Text) : motive t := by
  suffices ∀ w, Solid w → motive (w ++ t) from this [] (by simp [Solid])
  induction t with
  | nil =>
    intro w none
    rw [List.append_nil]
    exact solid w none
  | cons c t ih =>
    intro w none
    by_cases here : isBlank c = true
    · exact blank w c t none here (ih [] (by simp [Solid]))
    · have longer : Solid (w ++ [c]) := by
        intro d member
        rcases List.mem_append.mp member with member | member
        · exact none d member
        · rw [List.mem_singleton.mp member]
          exact Bool.eq_false_iff.mpr here
      simpa using ih (w ++ [c]) longer

@[simp] theorem words_nil : words [] = [] := by simp [words]

theorem words_append_blank {c : Char} (blank : isBlank c = true) (s t : Text) :
    words (s ++ c :: t) = words s ++ words t := by
  unfold words
  rw [List.splitOnP_append_cons s t blank, List.filter_append]

theorem words_cons_blank {c : Char} (blank : isBlank c = true) (t : Text) :
    words (c :: t) = words t := by
  simpa using words_append_blank blank [] t

theorem words_solid {w : Text} (nonempty : w ≠ []) (solid : Solid w) : words w = [w] := by
  unfold words
  rw [List.splitOnP_eq_singleton solid]
  simp [nonempty]

theorem words_blanks {s : Text} (blanks : ∀ c ∈ s, isBlank c = true) : words s = [] := by
  induction s with
  | nil => exact words_nil
  | cons c s ih =>
    rw [words_cons_blank (blanks c List.mem_cons_self)]
    exact ih fun d member => blanks d (List.mem_cons_of_mem c member)

theorem mem_words {t w : Text} (member : w ∈ words t) : w ≠ [] ∧ Solid w := by
  induction t using blank_induction with
  | solid v solid =>
    by_cases empty : v = []
    · simp [empty] at member
    · rw [words_solid empty solid, List.mem_singleton] at member
      exact member ▸ ⟨empty, solid⟩
  | blank v c t solid blank ih =>
    rw [words_append_blank blank, List.mem_append] at member
    rcases member with member | member
    · by_cases empty : v = []
      · simp [empty] at member
      · rw [words_solid empty solid, List.mem_singleton] at member
        exact member ▸ ⟨empty, solid⟩
    · exact ih member

/-- What a text is cut at stands in none of its parts. -/
theorem not_mem_of_mem_splitOn {separator : Char} {t part : Text}
    (member : part ∈ t.splitOn separator) : separator ∉ part := by
  induction t generalizing part with
  | nil => simp_all
  | cons c t ih =>
    rw [List.splitOn_cons_eq_if_modifyHead] at member
    split at member
    · rcases List.mem_cons.mp member with rfl | member
      · simp
      · exact ih member
    · rename_i differs
      obtain ⟨first, others, split⟩ := List.exists_cons_of_ne_nil (List.splitOn_ne_nil separator t)
      rw [split, List.modifyHead_cons] at member
      rcases List.mem_cons.mp member with rfl | member
      · have apart := ih (split ▸ List.mem_cons_self)
        rintro (_ | _)
        · simp at differs
        · contradiction
      · exact ih (split ▸ List.mem_cons_of_mem _ member)

theorem join_cons_cons (separator w v : Text) (parts : List Text) :
    join separator (w :: v :: parts) = w ++ (separator ++ join separator (v :: parts)) := by
  simp [join, List.intercalate_cons_cons]

@[simp] theorem join_singleton (separator w : Text) : join separator [w] = w := by simp [join]

theorem isBlank_space : isBlank ' ' = true := by decide

theorem words_join {ws : List Text} (proper : ∀ w ∈ ws, w ≠ [] ∧ Solid w) :
    words (join [' '] ws) = ws := by
  induction ws with
  | nil => exact words_nil
  | cons w ws ih =>
    obtain ⟨nonempty, solid⟩ := proper w List.mem_cons_self
    have others := ih fun v member => proper v (List.mem_cons_of_mem w member)
    cases ws with
    | nil => rw [join_singleton, words_solid nonempty solid]
    | cons v ws =>
      rw [join_cons_cons, List.singleton_append, words_append_blank isBlank_space,
        words_solid nonempty solid, others, List.singleton_append]

@[simp] theorem words_collapse (t : Text) : words (collapse t) = words t :=
  words_join fun _ member => mem_words member

@[simp] theorem collapse_collapse (t : Text) : collapse (collapse t) = collapse t := by
  rw [collapse, words_collapse, collapse]

theorem collapse_solid {w : Text} (solid : Solid w) : collapse w = w := by
  by_cases empty : w = []
  · simp [empty, collapse, join]
  · rw [collapse, words_solid empty solid, join_singleton]

theorem collapse_append_blank {w t : Text} {c : Char} (solid : Solid w) (nonempty : w ≠ [])
    (blank : isBlank c = true) :
    collapse (w ++ c :: t) = if words t = [] then w else w ++ ' ' :: collapse t := by
  unfold collapse
  rw [words_append_blank blank, words_solid nonempty solid]
  cases words t with
  | nil => simp
  | cons v ws =>
    rw [List.singleton_append, join_cons_cons]
    simp

theorem collapse_cons_blank {t : Text} {c : Char} (blank : isBlank c = true) :
    collapse (c :: t) = collapse t := by
  rw [collapse, words_cons_blank blank, collapse]

/- Trimming takes blanks off both ends. -/
section Trim

theorem trimStart_cut (t : Text) : ∃ blanks, t = blanks ++ trimStart t ∧
    ∀ c ∈ blanks, isBlank c = true :=
  ⟨t.takeWhile isBlank, List.takeWhile_append_dropWhile.symm,
    List.all_eq_true.mp List.all_takeWhile⟩

theorem trimEnd_cut (t : Text) : ∃ blanks, t = trimEnd t ++ blanks ∧
    ∀ c ∈ blanks, isBlank c = true := by
  obtain ⟨blanks, cut, all⟩ := trimStart_cut t.reverse
  refine ⟨blanks.reverse, ?_, fun c member => all c (List.mem_reverse.mp member)⟩
  have whole := congrArg List.reverse cut
  rwa [List.reverse_reverse, List.reverse_append] at whole

theorem words_blanks_append {s t : Text} (blanks : ∀ c ∈ s, isBlank c = true) :
    words (s ++ t) = words t := by
  induction s with
  | nil => rfl
  | cons c s ih =>
    rw [List.cons_append, words_cons_blank (blanks c List.mem_cons_self)]
    exact ih fun d member => blanks d (List.mem_cons_of_mem c member)

theorem words_append_blanks {s t : Text} (blanks : ∀ c ∈ t, isBlank c = true) :
    words (s ++ t) = words s := by
  cases t with
  | nil => rw [List.append_nil]
  | cons c t =>
    rw [words_append_blank (blanks c List.mem_cons_self),
      words_blanks fun d member => blanks d (List.mem_cons_of_mem c member), List.append_nil]

@[simp] theorem words_trim (t : Text) : words (trim t) = words t := by
  obtain ⟨front, cut, front_blank⟩ := trimStart_cut t
  obtain ⟨back, cut', back_blank⟩ := trimEnd_cut (trimStart t)
  calc
    words (trim t) = words (trim t ++ back) := (words_append_blanks back_blank).symm
    _ = words (front ++ (trim t ++ back)) := (words_blanks_append front_blank).symm
    _ = words t := by rw [trim, ← cut', ← cut]

theorem collapse_trim (t : Text) : collapse (trim t) = collapse t := by
  rw [collapse, words_trim, collapse]

theorem trimStart_eq_self {t : Text} (first : ∀ c ∈ t.head?, isBlank c = false) :
    trimStart t = t := by
  cases t with
  | nil => rfl
  | cons c t => exact List.dropWhile_cons_of_neg (by simp [first c (by simp)])

theorem trim_eq_self {t : Text} (first : ∀ c ∈ t.head?, isBlank c = false)
    (last : ∀ c ∈ t.getLast?, isBlank c = false) : trim t = t := by
  have reversed : trimStart t.reverse = t.reverse :=
    trimStart_eq_self (by simpa [List.head?_reverse] using last)
  unfold trim trimEnd
  rw [trimStart_eq_self first]
  unfold trimStart at reversed
  rw [reversed, List.reverse_reverse]

theorem trimStart_blanks_append {s t : Text} (blanks : ∀ c ∈ s, isBlank c = true)
    (first : ∀ c ∈ t.head?, isBlank c = false) : trimStart (s ++ t) = t := by
  unfold trimStart
  rw [List.dropWhile_append_of_pos blanks]
  exact trimStart_eq_self first

theorem isBlank_head?_trimStart (t : Text) : ∀ c ∈ (trimStart t).head?, isBlank c = false := by
  intro c first
  have stops := List.head?_dropWhile_not isBlank t
  rw [show (t.dropWhile isBlank).head? = some c from first] at stops
  exact stops

theorem isBlank_getLast?_trim (t : Text) : ∀ c ∈ (trim t).getLast?, isBlank c = false := by
  intro c last
  rw [trim, trimEnd, List.getLast?_reverse] at last
  exact isBlank_head?_trimStart _ c last

theorem isBlank_head?_trim (t : Text) : ∀ c ∈ (trim t).head?, isBlank c = false := by
  intro c first
  obtain ⟨blanks, cut, -⟩ := trimEnd_cut (trimStart t)
  apply isBlank_head?_trimStart t c
  rw [cut, List.head?_append]
  rw [trim] at first
  simp [Option.mem_def.mp first]

theorem trim_trim (t : Text) : trim (trim t) = trim t :=
  trim_eq_self (isBlank_head?_trim t) (isBlank_getLast?_trim t)

/-- What stands between blanks, and has none of its own. -/
theorem trim_between {before w after : Text} (blank : ∀ c ∈ before, isBlank c = true)
    (blank' : ∀ c ∈ after, isBlank c = true) (nonempty : w ≠ []) (solid : Solid w) :
    trim (before ++ (w ++ after)) = w := by
  have first : ∀ c ∈ (w ++ after).head?, isBlank c = false := by
    intro c member
    rw [List.head?_append_of_ne_nil w nonempty] at member
    exact solid c (List.mem_of_mem_head? member)
  have last : ∀ c ∈ w.reverse.head?, isBlank c = false := by
    intro c member
    exact solid c (List.mem_reverse.mp (List.mem_of_mem_head? member))
  have back : trimStart (w ++ after).reverse = w.reverse := by
    rw [List.reverse_append]
    exact trimStart_blanks_append (fun c member => blank' c (List.mem_reverse.mp member)) last
  rw [trim, trimStart_blanks_append blank first, trimEnd]
  rw [trimStart] at back
  rw [back, List.reverse_reverse]

theorem trimStart_eq_nil {t : Text} : trimStart t = [] ↔ ∀ c ∈ t, isBlank c = true :=
  List.dropWhile_eq_nil_iff

theorem trimEnd_eq_nil {t : Text} : trimEnd t = [] ↔ ∀ c ∈ t, isBlank c = true := by
  rw [trimEnd, List.reverse_eq_nil_iff, List.dropWhile_eq_nil_iff]
  simp only [List.mem_reverse]

theorem trimEnd_append {t : Text} (something : ¬∀ c ∈ t, isBlank c = true) (s : Text) :
    trimEnd (s ++ t) = s ++ trimEnd t := by
  have kept : t.reverse.dropWhile isBlank ≠ [] := by
    rwa [Ne, ← List.reverse_eq_nil_iff, ← trimEnd, trimEnd_eq_nil]
  rw [trimEnd, List.reverse_append, List.dropWhile_append, if_neg (by simpa using kept),
    List.reverse_append, List.reverse_reverse, trimEnd]

theorem trimEnd_cons {c : Char} (solid : isBlank c = false) (t : Text) :
    trimEnd (c :: t) = c :: trimEnd t := by
  by_cases all : ∀ d ∈ t, isBlank d = true
  · have none : t.reverse.dropWhile isBlank = [] := by
      rwa [← List.reverse_eq_nil_iff, ← trimEnd, trimEnd_eq_nil]
    have alone : [c].dropWhile isBlank = [c] := List.dropWhile_cons_of_neg (by simp [solid])
    rw [trimEnd_eq_nil.mpr all, trimEnd, List.reverse_cons, List.dropWhile_append, none, alone]
    rfl
  · exact trimEnd_append all [c]

end Trim

/- A collapsed text has nothing to trim. -/
section Collapse

theorem isBlank_head?_join {ws : List Text} (proper : ∀ w ∈ ws, w ≠ [] ∧ Solid w) :
    ∀ c ∈ (join [' '] ws).head?, isBlank c = false := by
  intro c first
  cases ws with
  | nil => simp [join] at first
  | cons w ws =>
    obtain ⟨nonempty, solid⟩ := proper w List.mem_cons_self
    obtain ⟨d, u, rfl⟩ := List.exists_cons_of_ne_nil nonempty
    apply solid c
    cases ws <;> simp_all [join_cons_cons]

theorem isBlank_getLast?_join {ws : List Text} (proper : ∀ w ∈ ws, w ≠ [] ∧ Solid w) :
    ∀ c ∈ (join [' '] ws).getLast?, isBlank c = false := by
  induction ws with
  | nil => simp [join]
  | cons w ws ih =>
    have others := ih fun v member => proper v (List.mem_cons_of_mem w member)
    obtain ⟨nonempty, solid⟩ := proper w List.mem_cons_self
    intro c last
    cases ws with
    | nil =>
      rw [join_singleton] at last
      exact solid c (List.mem_of_getLast? last)
    | cons v ws =>
      have later : join [' '] (v :: ws) ≠ [] := by
        intro empty
        have all := words_join fun u member => proper u (List.mem_cons_of_mem w member)
        rw [empty, words_nil] at all
        contradiction
      rw [join_cons_cons, List.getLast?_append, List.getLast?_append,
        List.getLast?_eq_some_getLast later, Option.some_or, Option.some_or] at last
      exact others c (List.getLast?_eq_some_getLast later ▸ last)

theorem isBlank_head?_collapse (t : Text) : ∀ c ∈ (collapse t).head?, isBlank c = false :=
  isBlank_head?_join fun _ member => mem_words member

theorem isBlank_getLast?_collapse (t : Text) : ∀ c ∈ (collapse t).getLast?, isBlank c = false :=
  isBlank_getLast?_join fun _ member => mem_words member

end Collapse

theorem collapse_ne_nil {t : Text} {c : Char} (member : c ∈ t) (solid : isBlank c = false) :
    collapse t ≠ [] := by
  intro empty
  have none : words t = [] := by rw [← words_collapse, empty, words_nil]
  clear empty
  induction t using blank_induction with
  | solid w all =>
    rw [words_solid (List.ne_nil_of_mem member) all] at none
    contradiction
  | blank w d t all blank ih =>
    rw [words_append_blank blank, List.append_eq_nil_iff] at none
    rcases List.mem_append.mp member with member | member
    · rw [words_solid (List.ne_nil_of_mem member) all] at none
      exact List.cons_ne_nil _ _ none.1
    · rcases List.mem_cons.mp member with rfl | member
      · rw [blank] at solid
        contradiction
      · exact ih member none.2

end ReferencePage.Text
