import Mathlib.Data.List.Basic
import Mathlib.Data.Nat.Digits.Lemmas
import Mathlib.Tactic.Ring
import Mathlib.Tactic.Tauto
import ReferencePage.Proofs.Spacing
import ReferencePage.Text.Decimal

/-! Numbers in decimal digits, each of which counts by its place.  Texts of digits that are equally
long stand in the order of the numbers that they denote. -/
namespace ReferencePage.Text

/-- The number that digits denote by their places. -/
def placeValue (t : Text) : Nat := Nat.ofDigits 10 (t.reverse.map digitValue)

structure Denotes (t : Text) (n : Nat) : Prop where
  nonempty : t ≠ []
  digits : ∀ c ∈ t, isDigit c = true
  value : placeValue t = n

/-- A sign or none, and digits behind it. -/
inductive Numeral : Text → Int → Prop where
  | bare {t : Text} {n : Nat} (digits : Denotes t n) : Numeral t n
  | plus {t : Text} {n : Nat} (digits : Denotes t n) : Numeral ('+' :: t) n
  | minus {t : Text} {n : Nat} (digits : Denotes t n) : Numeral ('-' :: t) (-n)

/-- Digits that fill a width: no fewer, and more only where the number needs them. -/
structure Fills (width : Nat) (t : Text) (n : Nat) : Prop where
  denotes : Denotes t n
  wide : width ≤ t.length
  tight : width < t.length → t.head? ≠ some '0'

def TwoDigits (t : Text) (n : Nat) : Prop := Denotes t n ∧ t.length = 2

section PlaceValue

theorem placeValue_append (s t : Text) :
    placeValue (s ++ t) = placeValue s * 10 ^ t.length + placeValue t := by
  simp only [placeValue, List.reverse_append, List.map_append, Nat.ofDigits_append,
    List.length_map, List.length_reverse]
  ring

theorem placeValue_singleton (c : Char) : placeValue [c] = digitValue c := by
  simp [placeValue]

theorem placeValue_cons (c : Char) (t : Text) :
    placeValue (c :: t) = digitValue c * 10 ^ t.length + placeValue t := by
  rw [← List.singleton_append, placeValue_append, placeValue_singleton]

theorem digitsValue_eq (t : Text) : digitsValue t = placeValue t := by
  induction t using List.reverseRecOn with
  | nil => rfl
  | append_singleton t c ih =>
    rw [placeValue_append, placeValue_singleton, ← ih, List.length_singleton, digitsValue,
      List.foldl_append, List.foldl_cons, List.foldl_nil, ← digitsValue]
    ring

theorem toNat_of_isDigit {c : Char} (digit : isDigit c = true) : 48 ≤ c.toNat ∧ c.toNat ≤ 57 := by
  rw [isDigit, Bool.and_eq_true, decide_eq_true_eq, decide_eq_true_eq] at digit
  exact digit

theorem digitValue_lt {c : Char} (digit : isDigit c = true) : digitValue c < 10 := by
  have below := (toNat_of_isDigit digit).2
  change c.toNat - 48 < 10
  omega

theorem placeValue_lt {t : Text} (digits : ∀ c ∈ t, isDigit c = true) :
    placeValue t < 10 ^ t.length := by
  have small : ∀ d ∈ t.reverse.map digitValue, d < 10 := by
    intro d member
    obtain ⟨c, within, rfl⟩ := List.mem_map.mp member
    exact digitValue_lt (digits c (List.mem_reverse.mp within))
  simpa [placeValue] using Nat.ofDigits_lt_base_pow_length (by decide) small

theorem Denotes.unique {t : Text} {m n : Nat} (denotes : Denotes t m) (denotes' : Denotes t n) :
    m = n :=
  denotes.value.symm.trans denotes'.value

end PlaceValue

/- What is read as a number. -/
section Reading

variable {t : Text} {n : Nat} {z : Int}

theorem natural?_eq_some : natural? t = some n ↔ Denotes t n := by
  unfold natural?
  rw [digitsValue_eq]
  split
  · rename_i written
    simp only [decide_eq_true_eq, Bool.and_eq_true, List.all_eq_true] at written
    exact ⟨fun read => ⟨written.1, written.2, Option.some.inj read⟩,
      fun denotes => congrArg some denotes.value⟩
  · rename_i other
    simp only [decide_eq_true_eq, Bool.and_eq_true, List.all_eq_true] at other
    exact ⟨fun read => by contradiction,
      fun denotes => absurd ⟨denotes.nonempty, denotes.digits⟩ other⟩

theorem Denotes.head?_ne {c : Char} (denotes : Denotes t n) (other : isDigit c = false) :
    t.head? ≠ some c := by
  intro first
  have digit := denotes.digits c (List.mem_of_mem_head? first)
  rw [other] at digit
  contradiction

theorem integer?_eq_some : integer? t = some z ↔ Numeral t z := by
  constructor
  · intro read
    unfold integer? at read
    split at read
    all_goals
      obtain ⟨_, lifted, rfl⟩ := Option.map_eq_some_iff.mp read
      obtain ⟨n, digits, same⟩ := Option.bind_eq_some_iff.mp lifted
      cases same
      have denotes := natural?_eq_some.mp digits
    · exact .minus denotes
    · exact .plus denotes
    · exact .bare denotes
  · intro numeral
    cases numeral with
    | bare denotes =>
      unfold integer?
      split
      · exact absurd rfl (denotes.head?_ne (c := '-') (by decide))
      · exact absurd rfl (denotes.head?_ne (c := '+') (by decide))
      · rw [natural?_eq_some.mpr denotes]
        rfl
    | plus denotes =>
      rw [integer?, natural?_eq_some.mpr denotes]
      rfl
    | minus denotes =>
      rw [integer?, natural?_eq_some.mpr denotes]
      rfl

theorem Numeral.unique {w : Int} (numeral : Numeral t z) (numeral' : Numeral t w) : z = w :=
  Option.some.inj ((integer?_eq_some.mpr numeral).symm.trans (integer?_eq_some.mpr numeral'))

theorem Numeral.nonempty (numeral : Numeral t z) : t ≠ [] := by
  cases numeral with
  | bare denotes => exact denotes.nonempty
  | plus => exact List.cons_ne_nil _ _
  | minus => exact List.cons_ne_nil _ _

theorem isBlank_of_isDigit {c : Char} (digit : isDigit c = true) : isBlank c = false := by
  obtain ⟨above, below⟩ := toNat_of_isDigit digit
  simp only [isBlank, Bool.or_eq_false_iff, Bool.and_eq_false_iff, decide_eq_false_iff_not]
  omega

theorem Numeral.solid (numeral : Numeral t z) : Solid t := by
  have digits {t : Text} {n : Nat} (denotes : Denotes t n) : Solid t :=
    fun c member => isBlank_of_isDigit (denotes.digits c member)
  cases numeral with
  | bare denotes => exact digits denotes
  | plus denotes => exact List.forall_mem_cons.mpr ⟨by decide, digits denotes⟩
  | minus denotes => exact List.forall_mem_cons.mpr ⟨by decide, digits denotes⟩

end Reading

/- What a number is written as. -/
section Writing

variable {width m n : Nat}

theorem isDigit_of_mem_digits {c : Char} (member : c ∈ digits n) : isDigit c = true := by
  have known := Nat.isDigit_of_mem_toDigits (by decide) (by decide) member
  rw [Char.isDigit, Bool.and_eq_true, decide_eq_true_eq, decide_eq_true_eq] at known
  rw [isDigit, Bool.and_eq_true, decide_eq_true_eq, decide_eq_true_eq]
  exact known

theorem placeValue_digits (n : Nat) : placeValue (digits n) = n := by
  have single {d : Nat} (small : d < 10) : digitValue d.digitChar = d :=
    Nat.toNat_digitChar_sub_48_of_lt_ten small
  induction n using Nat.strongRecOn with
  | ind n ih =>
    unfold digits at *
    rw [Nat.toDigits_eq_if (by decide)]
    split
    · rename_i small
      rw [placeValue_singleton, single small]
    · rename_i large
      rw [placeValue_append, placeValue_singleton, List.length_singleton,
        single (Nat.mod_lt n (by decide)), ih (n / 10) (by omega)]
      omega

theorem head?_digits (pos : 0 < n) : (digits n).head? ≠ some '0' := by
  induction n using Nat.strongRecOn with
  | ind n ih =>
    unfold digits at *
    rw [Nat.toDigits_eq_if (by decide)]
    split
    · simpa using pos.ne'
    · rename_i large
      rw [List.head?_append_of_ne_nil _ Nat.toDigits_ne_nil]
      exact ih (n / 10) (by omega) (by omega)

theorem placeValue_padded (width n : Nat) : placeValue (padded width n) = n := by
  have zeros (count : Nat) : placeValue (List.replicate count '0') = 0 := by
    induction count with
    | zero => rfl
    | succ count ih =>
      rw [List.replicate_succ, placeValue_cons, ih]
      simp [digitValue]
  rw [padded, placeValue_append, zeros, placeValue_digits, Nat.zero_mul, Nat.zero_add]

theorem padded_inj : padded width m = padded width n ↔ m = n :=
  ⟨fun same => by rw [← placeValue_padded width m, same, placeValue_padded], congrArg _⟩

theorem denotes_padded (width n : Nat) : Denotes (padded width n) n := by
  refine ⟨?_, ?_, placeValue_padded width n⟩
  · simp [padded, digits, Nat.toDigits_ne_nil]
  · intro c member
    rcases List.mem_append.mp member with zero | digit
    · rw [List.eq_of_mem_replicate zero]
      decide
    · exact isDigit_of_mem_digits digit

theorem length_padded (width n : Nat) :
    (padded width n).length = max width (digits n).length := by
  rw [padded, List.length_append, List.length_replicate]
  omega

theorem length_padded_of_lt (pos : 0 < width) (short : n < 10 ^ width) :
    (padded width n).length = width := by
  rw [length_padded]
  exact Nat.max_eq_left ((Nat.length_toDigits_le_iff (by decide) pos).mpr short)

theorem fills_padded (pos : 0 < width) (n : Nat) : Fills width (padded width n) n := by
  refine ⟨denotes_padded width n, ?_, ?_⟩
  · rw [length_padded]
    exact Nat.le_max_left _ _
  · intro longer
    rw [length_padded] at longer
    have none : width - (digits n).length = 0 := by omega
    rw [padded, none, List.replicate_zero, List.nil_append]
    apply head?_digits
    apply Nat.pos_of_ne_zero
    rintro rfl
    have single : (digits 0).length = 1 := rfl
    omega

theorem twoDigits_padded (short : n < 100) : TwoDigits (padded 2 n) n :=
  ⟨denotes_padded 2 n, length_padded_of_lt (by decide) short⟩

theorem TwoDigits.cut {s s' t t' : Text} {mark : Char} (two : TwoDigits s m)
    (two' : TwoDigits s' n) (same : s ++ mark :: t = s' ++ mark :: t') : s = s' ∧ t = t' := by
  obtain ⟨front, back⟩ := List.append_inj same (two.2.trans two'.2.symm)
  exact ⟨front, (List.cons.inj back).2⟩

end Writing

section Order

variable {s t s' t' : Text}

theorem append_lt_append_iff (same : s.length = s'.length) :
    s ++ t < s' ++ t' ↔ s < s' ∨ s = s' ∧ t < t' := by
  induction s generalizing s' with
  | nil =>
    cases s' with
    | nil => simp
    | cons c s' => contradiction
  | cons c s ih =>
    cases s' with
    | nil => contradiction
    | cons d s' =>
      rw [List.cons_append, List.cons_append, List.cons_lt_cons_iff, List.cons_lt_cons_iff,
        ih (Nat.succ.inj same), List.cons.injEq]
      tauto

theorem digitValue_lt_iff {c d : Char} (digit : isDigit c = true) (digit' : isDigit d = true) :
    (digitValue c < digitValue d ↔ c < d) ∧ (digitValue c = digitValue d ↔ c = d) := by
  have above := (toNat_of_isDigit digit).1
  have above' := (toNat_of_isDigit digit').1
  rw [Char.lt_def, UInt32.lt_iff_toNat_lt, ← Char.toNat_inj]
  change (c.toNat - 48 < d.toNat - 48 ↔ c.toNat < d.toNat) ∧
    (c.toNat - 48 = d.toNat - 48 ↔ c.toNat = d.toNat)
  omega

/- A digit in front counts more than all that follow. -/
theorem mul_add_lt_mul_add_iff {a b base m n : Nat} (below : m < base) (below' : n < base) :
    a * base + m < b * base + n ↔ a < b ∨ a = b ∧ m < n := by
  rcases Nat.lt_trichotomy a b with less | same | more
  · have := Nat.mul_le_mul_right base (Nat.succ_le_of_lt less)
    rw [Nat.succ_mul] at this
    omega
  · subst same
    omega
  · have := Nat.mul_le_mul_right base (Nat.succ_le_of_lt more)
    rw [Nat.succ_mul] at this
    omega

theorem lt_iff_placeValue_lt (digits : ∀ c ∈ s, isDigit c = true)
    (digits' : ∀ c ∈ t, isDigit c = true) (same : s.length = t.length) :
    s < t ↔ placeValue s < placeValue t := by
  induction s generalizing t with
  | nil =>
    cases t with
    | nil => simp
    | cons d t => simp at same
  | cons c s ih =>
    cases t with
    | nil => simp at same
    | cons d t =>
      obtain ⟨digit, digits⟩ := List.forall_mem_cons.mp digits
      obtain ⟨digit', digits'⟩ := List.forall_mem_cons.mp digits'
      have size : s.length = t.length := Nat.succ.inj same
      have below := placeValue_lt digits
      rw [size] at below
      obtain ⟨less, equal⟩ := digitValue_lt_iff digit digit'
      rw [List.cons_lt_cons_iff, ih digits digits' size, ← less, ← equal, placeValue_cons,
        placeValue_cons, size, mul_add_lt_mul_add_iff below (placeValue_lt digits')]

variable {width m n : Nat} (pos : 0 < width) (short : m < 10 ^ width) (short' : n < 10 ^ width)
include pos short short'

theorem padded_lt_iff : padded width m < padded width n ↔ m < n := by
  have size := length_padded_of_lt pos short
  have size' := length_padded_of_lt pos short'
  rw [lt_iff_placeValue_lt (denotes_padded width m).digits (denotes_padded width n).digits
    (size.trans size'.symm), placeValue_padded, placeValue_padded]

theorem padded_append_lt_iff {mark : Char} :
    padded width m ++ mark :: s < padded width n ++ mark :: t ↔ m < n ∨ m = n ∧ s < t := by
  have size := length_padded_of_lt pos short
  have size' := length_padded_of_lt pos short'
  rw [append_lt_append_iff (size.trans size'.symm), padded_lt_iff pos short short', padded_inj,
    List.cons_lt_cons_self]

end Order
end ReferencePage.Text
