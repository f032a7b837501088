import Mathlib.Algebra.Group.Nat.Defs
import Mathlib.Data.List.Basic
import Mathlib.Data.List.Chain
import ReferencePage.Text.RangeTree

/-! A search tree finds what its table lists.  The table has to ascend, and it must not be longer
than a tree of the fixed height can hold. -/
namespace ReferencePage.Text.RangeTree

variable {α : Type} {first last : α → Nat}

def values : RangeTree α → List α
  | leaf => []
  | node _ _ value below above => below.values ++ value :: above.values

/-- Every node carries the ends of the range that is its value. -/
def Keyed (first last : α → Nat) : RangeTree α → Prop
  | leaf => True
  | node f l value below above =>
    f = first value ∧ l = last value ∧ below.Keyed first last ∧ above.Keyed first last

/-- Ranges are not empty, and each ends before the next begins. -/
def Ascending (first last : α → Nat) (ranges : List α) : Prop :=
  (∀ r ∈ ranges, first r ≤ last r) ∧ ranges.IsChain fun r s => last r < first s

instance (ranges : List α) : Decidable (Ascending first last ranges) :=
  inferInstanceAs (Decidable (_ ∧ _))

theorem Ascending.pairwise {ranges : List α} (ascends : Ascending first last ranges) :
    ranges.Pairwise fun r s => last r < first s := by
  have strict : ranges.Pairwise fun r s => first r ≤ last r ∧ last r < first s := by
    have : IsTrans α fun r s => first r ≤ last r ∧ last r < first s :=
      ⟨fun r s t rs st => ⟨rs.1, by omega⟩⟩
    apply List.isChain_iff_pairwise.mp
    exact ascends.2.imp_of_mem_imp fun r s hr _ h => ⟨ascends.1 r hr, h⟩
  exact strict.imp And.right

theorem values_grow (first last : α → Nat) (height : Nat) (ranges : List α) :
    (grow first last height ranges).1.values ++ (grow first last height ranges).2 = ranges := by
  induction height generalizing ranges with
  | zero => rfl
  | succ height ih =>
    have lower := ih ranges
    unfold grow
    split
    · rename_i below h
      rw [h] at lower
      exact lower
    · rename_i below range rest h
      rw [h] at lower
      have upper := ih rest
      simp only [values, List.append_assoc, List.cons_append, upper]
      exact lower

theorem keyed_grow (height : Nat) (ranges : List α) :
    (grow first last height ranges).1.Keyed first last := by
  induction height generalizing ranges with
  | zero => exact trivial
  | succ height ih =>
    have lower := ih ranges
    unfold grow
    split
    · rename_i below h
      rw [h] at lower
      exact lower
    · rename_i below range rest h
      rw [h] at lower
      exact ⟨rfl, rfl, lower, ih rest⟩

theorem length_values_grow (height : Nat) (ranges : List α)
    (left : (grow first last height ranges).2 ≠ []) :
    (grow first last height ranges).1.values.length + 1 = 2 ^ height := by
  induction height generalizing ranges with
  | zero => rfl
  | succ height ih =>
    have lower := ih ranges
    unfold grow at left ⊢
    split
    · rename_i below h
      simp [h] at left
    · rename_i below range rest h
      rw [h] at lower left
      have lower := lower (by simp)
      have upper := ih rest left
      simp only [values, List.length_append, List.length_cons] at lower upper ⊢
      omega

theorem values_ofAscending (first last : α → Nat) {ranges : List α}
    (short : ranges.length < 2 ^ height) :
    (ofAscending first last ranges).values = ranges := by
  have all := values_grow first last height ranges
  by_cases left : (grow first last height ranges).2 = []
  · rw [left, List.append_nil] at all
    exact all
  · have full := length_values_grow height ranges left
    have sizes := congrArg List.length all
    rw [List.length_append] at sizes
    have remain := List.length_pos_iff.mpr left
    omega

theorem find?_eq_some {tree : RangeTree α} (keyed : tree.Keyed first last)
    (ascends : Ascending first last tree.values) {n : Nat} {value : α} :
    tree.find? n = some value ↔ value ∈ tree.values ∧ first value ≤ n ∧ n ≤ last value := by
  have nonempty := ascends.1
  have apart := ascends.pairwise
  clear ascends
  induction tree with
  | leaf => simp [find?, values]
  | node f l range below above lower upper =>
    obtain ⟨rfl, rfl, keyed_below, keyed_above⟩ := keyed
    simp only [values, List.forall_mem_append, List.forall_mem_cons] at nonempty
    obtain ⟨before, after, across⟩ := List.pairwise_append.mp apart
    obtain ⟨behind, later⟩ := List.pairwise_cons.mp after
    have lower := lower keyed_below nonempty.1 before
    have upper := upper keyed_above nonempty.2.2 later
    simp only [values, List.mem_append, List.mem_cons, find?]
    have in_below : ∀ v ∈ below.values, last v < first range := fun v hv => across v hv _ (by simp)
    split
    · rename_i less
      apply lower.trans
      constructor
      · rintro ⟨member, bounds⟩
        exact ⟨Or.inl member, bounds⟩
      · rintro ⟨member | rfl | member, low, high⟩
        · exact ⟨member, low, high⟩
        · omega
        · have := behind _ member
          have := nonempty.2.1
          omega
    · split
      · rename_i more
        apply upper.trans
        constructor
        · rintro ⟨member, bounds⟩
          exact ⟨Or.inr (Or.inr member), bounds⟩
        · rintro ⟨member | rfl | member, low, high⟩
          · have := in_below _ member
            omega
          · omega
          · exact ⟨member, low, high⟩
      · constructor
        · intro same
          cases Option.some.inj same
          exact ⟨Or.inr (Or.inl rfl), by omega, by omega⟩
        · rintro ⟨member | rfl | member, low, high⟩
          · have := in_below _ member
            omega
          · rfl
          · have := behind _ member
            omega

/-- A tree made from a table finds a range exactly where the table lists one. -/
theorem find?_ofAscending {ranges : List α} (short : ranges.length < 2 ^ height)
    (ascends : Ascending first last ranges) {n : Nat} {value : α} :
    (ofAscending first last ranges).find? n = some value ↔
      value ∈ ranges ∧ first value ≤ n ∧ n ≤ last value := by
  have all := values_ofAscending first last short
  have keyed : (ofAscending first last ranges).Keyed first last := keyed_grow height ranges
  rw [find?_eq_some keyed (all.symm ▸ ascends), all]

theorem contains_ofPairs {ranges : List (Nat × Nat)} (short : ranges.length < 2 ^ height)
    (ascends : Ascending Prod.fst Prod.snd ranges) {n : Nat} :
    (ofPairs ranges).contains n = true ↔ ∃ r ∈ ranges, r.1 ≤ n ∧ n ≤ r.2 := by
  rw [contains, Option.isSome_iff_exists]
  exact exists_congr fun r => find?_ofAscending short ascends

end ReferencePage.Text.RangeTree
