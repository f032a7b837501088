import Mathlib.Data.List.Basic
import Mathlib.Data.List.SplitBy
import ReferencePage.Text.Word

/-! Maximal words.  A text is cut into runs of word characters and runs of anything else; two
maximal words that share a character are the same. -/
namespace ReferencePage.Text

def OneWord (t : Text) : Prop := t ≠ [] ∧ ∀ c ∈ t, isWord c = true

instance (t : Text) : Decidable (OneWord t) := @instDecidableAnd _ _ _ (List.decidableBAll _ t)

theorem OneWord.exists_head? {w : Text} (word : OneWord w) (t : Text) :
    ∃ c, (w ++ t).head? = some c ∧ isWord c = true := by
  cases w with
  | nil => exact absurd rfl word.1
  | cons c w => exact ⟨c, rfl, word.2 c List.mem_cons_self⟩

theorem OneWord.exists_getLast? {w : Text} (word : OneWord w) (s : Text) :
    ∃ c, (s ++ w).getLast? = some c ∧ isWord c = true := by
  refine ⟨w.getLast word.1, ?_, word.2 _ (List.getLast_mem word.1)⟩
  rw [List.getLast?_append, List.getLast?_eq_some_getLast word.1, Option.some_or]

theorem oneWord_of_word? {t : Text} {p : Passage} (found : word? t = some p) :
    OneWord p.text ∧ p.whole = t := by
  obtain ⟨nonempty, word, whole⟩ := word?_eq_some found
  exact ⟨⟨nonempty, word⟩, whole⟩

theorem word?_append {w t : Text} (word : OneWord w) (stops : ∀ c ∈ t.head?, isWord c = false) :
    word? (w ++ t) = some ⟨w, t⟩ := by
  have none_taken : t.takeWhile isWord = [] := by
    cases t with
    | nil => rfl
    | cons c t => exact List.takeWhile_cons_of_neg (by simp [stops c (by simp)])
  have none_dropped : t.dropWhile isWord = t := by
    cases t with
    | nil => rfl
    | cons c t => exact List.dropWhile_cons_of_neg (by simp [stops c (by simp)])
  have taken : (w ++ t).takeWhile isWord = w := by
    rw [List.takeWhile_append_of_pos word.2, none_taken, List.append_nil]
  have dropped : (w ++ t).dropWhile isWord = t := by
    rw [List.dropWhile_append_of_pos word.2, none_dropped]
  unfold word?
  rw [taken, dropped]
  split
  · exact absurd rfl word.1
  · rfl

/-- The longest parts of a text that hold word characters only, or none. -/
def runs (t : Text) : List Text := t.splitBy fun a b => isWord a == isWord b

theorem runs_append {kind : Bool} {run rest : Text} (nonempty : run ≠ [])
    (uniform : ∀ c ∈ run, isWord c = kind) (changes : ∀ c ∈ rest.head?, isWord c = !kind) :
    runs (run ++ rest) = run :: runs rest := by
  have together : runs run = [run] := by
    apply List.splitBy_of_isChain nonempty
    apply List.Pairwise.isChain
    rw [List.pairwise_iff_forall_sublist]
    intro a b both
    rw [uniform a (both.subset (by simp)), uniform b (both.subset (by simp)), beq_self_eq_true]
  have apart : runs (run ++ rest) = runs run ++ runs rest := by
    apply List.splitBy_append
    intro a last b first
    rw [uniform a (List.mem_of_getLast? last), changes b first]
    cases kind <;> rfl
  rw [apart, together, List.singleton_append]

theorem runs_induction {motive : Text → Prop} (nil : motive [])
    (cons : ∀ kind run rest, run ≠ [] → (∀ c ∈ run, isWord c = kind) →
      (∀ c ∈ rest.head?, isWord c = !kind) → motive rest → motive (run ++ rest))
    (t : Text) : motive t := by
  induction size : t.length using Nat.strong_induction_on generalizing t with
  | _ n ih =>
    cases t with
    | nil => exact nil
    | cons c t =>
      let same := fun d => isWord d == isWord c
      have whole : c :: t = (c :: t.takeWhile same) ++ t.dropWhile same := by
        rw [List.cons_append, List.takeWhile_append_dropWhile]
      rw [whole]
      apply cons (isWord c) (c :: t.takeWhile same) (t.dropWhile same) (List.cons_ne_nil _ _)
      · intro d member
        rcases List.mem_cons.mp member with rfl | member
        · rfl
        · exact beq_iff_eq.mp (List.all_eq_true.mp List.all_takeWhile d member)
      · intro d first
        have stops := List.head?_dropWhile_not same t
        rw [Option.mem_def.mp first] at stops
        exact Bool.eq_not.mpr (by simpa [same] using stops)
      · apply ih (t.dropWhile same).length _ _ rfl
        have shorter := (List.dropWhile_sublist same (l := t)).length_le
        rw [← size, List.length_cons]
        omega

/-- The characters from `start` up to `stop` are a maximal word. -/
structure WordAt (text : Text) (start stop : Nat) : Prop where
  order : start < stop
  inside : ∀ k, start ≤ k → k < stop → text[k]?.any isWord = true
  opens : ∀ k, k + 1 = start → text[k]?.any isWord = false
  closes : text[stop]?.any isWord = false

theorem WordAt.start_le {text : Text} {start stop start' stop' : Nat}
    (word : WordAt text start stop) (other : WordAt text start' stop')
    (meet : start < stop') : start ≤ start' := by
  by_contra later
  have before := word.opens (start - 1) (by omega)
  have within := other.inside (start - 1) (by omega) (by omega)
  rw [before] at within
  contradiction

theorem WordAt.stop_le {text : Text} {start stop start' stop' : Nat}
    (word : WordAt text start stop) (other : WordAt text start' stop')
    (meet : start < stop') : stop ≤ stop' := by
  by_contra longer
  have within := word.inside stop' (by omega) (by omega)
  rw [other.closes] at within
  contradiction

theorem WordAt.unique {text : Text} {start stop start' stop' : Nat}
    (word : WordAt text start stop) (other : WordAt text start' stop')
    (before : start < stop') (after : start' < stop) : start = start' ∧ stop = stop' := by
  have := word.start_le other before
  have := other.start_le word after
  have := word.stop_le other before
  have := other.stop_le word after
  omega

theorem wordAt_of_cut {text before w after : Text} (cut : text = before ++ (w ++ after))
    (word : OneWord w) (opens : before.getLast?.any isWord = false)
    (closes : after.head?.any isWord = false) :
    WordAt text before.length (before.length + w.length) := by
  have size := List.length_pos_iff.mpr word.1
  subst cut
  constructor
  · omega
  · intro k low high
    rw [List.getElem?_append_right low, List.getElem?_append_left (by omega),
      List.getElem?_eq_getElem (by omega), Option.any_some]
    exact word.2 _ (List.getElem_mem _)
  · intro k last
    rw [List.getElem?_append_left (by omega), show k = before.length - 1 by omega,
      ← List.getLast?_eq_getElem?]
    exact opens
  · rw [List.getElem?_append_right (by omega), List.getElem?_append_right (by omega)]
    simpa [List.head?_eq_getElem?] using closes

end ReferencePage.Text
