import Mathlib.Data.List.Basic
import ReferencePage.Proofs.SearchTree
import ReferencePage.Text.Blank
import ReferencePage.Text.Case

/-! Folding maps words to words: a character and its folded image are both word characters, or both
are not.  The tables decide it, range by range. -/
namespace ReferencePage.Text

/- Each table fits a search tree: it is not too long, and in order. -/
theorem fits_wordRanges : wordRanges.length < 2 ^ RangeTree.height ∧
    RangeTree.Ascending Prod.fst Prod.snd wordRanges := by
  decide +kernel

theorem fits_foldRuns : foldRuns.length < 2 ^ RangeTree.height ∧
    RangeTree.Ascending CaseRun.first CaseRun.last foldRuns := by
  decide +kernel

theorem fits_lowerRuns : lowerRuns.length < 2 ^ RangeTree.height ∧
    RangeTree.Ascending CaseRun.first CaseRun.last lowerRuns := by
  decide +kernel

theorem find?_wordTree {n : Nat} {r : Nat × Nat} :
    wordTree.find? n = some r ↔ r ∈ wordRanges ∧ r.1 ≤ n ∧ n ≤ r.2 :=
  RangeTree.find?_ofAscending fits_wordRanges.1 fits_wordRanges.2

theorem contains_wordTree {n : Nat} :
    wordTree.contains n = true ↔ ∃ r ∈ wordRanges, r.1 ≤ n ∧ n ≤ r.2 :=
  RangeTree.contains_ofPairs fits_wordRanges.1 fits_wordRanges.2

theorem find?_foldTree {n : Nat} {run : CaseRun} :
    foldTree.find? n = some run ↔ run ∈ foldRuns ∧ run.first ≤ n ∧ n ≤ run.last :=
  RangeTree.find?_ofAscending fits_foldRuns.1 fits_foldRuns.2

/- No range of word characters touches the numbers that stand for no character. -/
theorem wordRanges_valid :
    ∀ r ∈ wordRanges, (r.2 < 0xD800 ∨ 0xDFFF < r.1) ∧ r.2 < 0x110000 := by
  decide +kernel

theorem toNat_ofNat {n : Nat} (valid : n.isValidChar) : (Char.ofNat n).toNat = n := by
  rw [Char.ofNat, dif_pos valid]
  rfl

theorem isWord_ofNat {n : Nat} (word : wordTree.contains n = true) :
    isWord (Char.ofNat n) = true := by
  obtain ⟨r, member, low, high⟩ := contains_wordTree.mp word
  have valid : n.isValidChar := by
    have := wordRanges_valid r member
    unfold Nat.isValidChar
    omega
  rw [isWord, toNat_ofNat valid]
  exact word

/-- One range of the table reaches from `low` to `high`. -/
def wordsFrom (low high : Nat) : Bool := (wordTree.find? low).any fun r => high ≤ r.2

theorem contains_of_wordsFrom {low high n : Nat} (range : wordsFrom low high = true)
    (above : low ≤ n) (below : n ≤ high) : wordTree.contains n = true := by
  obtain ⟨r, found, reaches⟩ := (Option.any_eq_true _ _).mp range
  obtain ⟨listed, opens, -⟩ := find?_wordTree.mp found
  have reaches : high ≤ r.2 := of_decide_eq_true reaches
  exact contains_wordTree.mpr ⟨r, listed, by omega, by omega⟩

def CaseRun.mapped (run : CaseRun) (n : Nat) : Nat := (n + run.distance).toNat

/- The points of a run, for the one run whose gaps are no word characters. -/
def CaseRun.points (run : CaseRun) : List Nat :=
  (List.range ((run.last - run.first) / run.step + 1)).map fun k => run.first + k * run.step

def CaseRun.mapsWords (run : CaseRun) : Bool :=
  (wordsFrom run.first run.last || run.points.all wordTree.contains) &&
    wordsFrom (run.mapped run.first) (run.mapped run.last)

theorem foldRuns_mapsWords : ∀ run ∈ foldRuns, run.mapsWords = true := by decide +kernel

theorem CaseRun.mem_points {run : CaseRun} {n : Nat} (above : run.first ≤ n) (below : n ≤ run.last)
    (step : (n - run.first) % run.step = 0) : n ∈ run.points := by
  have whole := Nat.div_add_mod (n - run.first) run.step
  have order : (n - run.first) / run.step ≤ (run.last - run.first) / run.step :=
    Nat.div_le_div_right (by omega)
  refine List.mem_map.mpr ⟨(n - run.first) / run.step, List.mem_range.mpr (by omega), ?_⟩
  rw [Nat.mul_comm]
  omega

theorem image_caseTree {runs : List CaseRun} (fits : runs.length < 2 ^ RangeTree.height ∧
    RangeTree.Ascending CaseRun.first CaseRun.last runs) (n : Nat) :
    image (caseTree runs) n = n ∨
      ∃ run ∈ runs, n ∈ run.points ∧ image (caseTree runs) n = run.mapped n := by
  unfold image
  split
  · exact Or.inl rfl
  · rename_i run found
    obtain ⟨member, above, below⟩ := (RangeTree.find?_ofAscending fits.1 fits.2).mp found
    split
    · rename_i step
      exact Or.inr ⟨run, member, CaseRun.mem_points above below step, rfl⟩
    · exact Or.inl rfl

theorem image_foldTree (n : Nat) : image foldTree n = n ∨
    ∃ run ∈ foldRuns, n ∈ run.points ∧ image foldTree n = run.mapped n :=
  image_caseTree fits_foldRuns n

theorem image_lowerTree (n : Nat) : image lowerTree n = n ∨
    ∃ run ∈ lowerRuns, n ∈ run.points ∧ image lowerTree n = run.mapped n :=
  image_caseTree fits_lowerRuns n

theorem CaseRun.contains_of_mapsWords {run : CaseRun} (words : run.mapsWords = true) {n : Nat}
    (above : run.first ≤ n) (below : n ≤ run.last) (step : (n - run.first) % run.step = 0) :
    wordTree.contains n = true ∧ wordTree.contains (run.mapped n) = true := by
  obtain ⟨sources, images⟩ := Bool.and_eq_true_iff.mp words
  constructor
  · rcases Bool.or_eq_true_iff.mp sources with range | points
    · exact contains_of_wordsFrom range above below
    · exact List.all_eq_true.mp points n (mem_points above below step)
  · apply contains_of_wordsFrom images <;> unfold mapped <;> omega

theorem isWord_fold (c : Char) : isWord (fold c) = isWord c := by
  unfold fold image
  split
  · rw [Char.ofNat_toNat]
  · rename_i run found
    obtain ⟨member, above, below⟩ := find?_foldTree.mp found
    split
    · rename_i step
      have words := CaseRun.contains_of_mapsWords (foldRuns_mapsWords run member) above below step
      rw [show isWord c = true from words.1]
      exact isWord_ofNat words.2
    · rw [Char.ofNat_toNat]

theorem isWord_of_fold {s t : Text} (same : s.map fold = t.map fold)
    (word : ∀ c ∈ t, isWord c = true) : ∀ c ∈ s, isWord c = true := by
  intro c member
  have folded : fold c ∈ t.map fold := same ▸ List.mem_map_of_mem member
  obtain ⟨d, other, eq⟩ := List.mem_map.mp folded
  rw [← isWord_fold c, ← eq, isWord_fold d]
  exact word d other

def blankPoints : List Nat :=
  [9, 10, 11, 12, 13, 0x20, 0x85, 0xA0, 0x1680, 0x2000, 0x2001, 0x2002, 0x2003, 0x2004, 0x2005,
    0x2006, 0x2007, 0x2008, 0x2009, 0x200A, 0x2028, 0x2029, 0x202F, 0x205F, 0x3000]

theorem toNat_mem_blankPoints {c : Char} (blank : isBlank c = true) : c.toNat ∈ blankPoints := by
  simp only [isBlank, Bool.or_eq_true, Bool.and_eq_true, decide_eq_true_eq] at blank
  simp only [blankPoints, List.mem_cons, List.not_mem_nil, or_false]
  omega

theorem isWord_of_isBlank {c : Char} (blank : isBlank c = true) : isWord c = false := by
  have apart : ∀ n ∈ blankPoints, wordTree.contains n = false := by decide
  exact apart _ (toNat_mem_blankPoints blank)

theorem isBlank_of_isWord {c : Char} (word : isWord c = true) : isBlank c = false := by
  by_contra blank
  rw [isWord_of_isBlank (Bool.not_eq_false _ |>.mp blank)] at word
  contradiction

end ReferencePage.Text
