import Mathlib.Data.List.Basic
import ReferencePage.Text.Scan

/-! What a scan finds.  Every find is what the recogniser makes of some place in the text, and every
place where the recogniser succeeds is the place of a find or lies inside one. -/
namespace ReferencePage.Text

variable {α : Type}

/-- The recogniser makes `x` of the place between `before` and `rest`. -/
structure Recogniser.Succeeds (recognise : Recogniser α) (text before rest : Text) (x : α) :
    Prop where
  cut : text = before ++ rest
  inside : rest ≠ []
  found : recognise before.getLast? rest = some x

/-- `x` was made of this place, or of an earlier one and covers this place. -/
def Recogniser.Covers (recognise : Recogniser α) (size : α → Nat) (text : Text) (place : Nat)
    (x : α) : Prop :=
  ∃ before rest, recognise.Succeeds text before rest x ∧
    (before.length = place ∨ before.length < place ∧ place < before.length + size x)

variable {recognise : Recogniser α} {size : α → Nat} {text : Text}

theorem succeeds_of_mem_scanFrom {x : α} (rest start : Text) (cut : text = start ++ rest)
    (skip : Nat) (member : x ∈ scanFrom recognise size skip start.getLast? rest) :
    ∃ before after, recognise.Succeeds text before after x := by
  induction rest generalizing start skip with
  | nil => simp [scanFrom] at member
  | cons c t ih =>
    have onward : ∀ skip, x ∈ scanFrom recognise size skip (some c) t →
        ∃ before after, recognise.Succeeds text before after x := by
      intro skip member
      exact ih (start ++ [c]) (by simpa using cut) skip (by simpa using member)
    cases skip with
    | succ skip => exact onward skip member
    | zero =>
      unfold scanFrom at member
      split at member
      · rename_i found here
        rcases List.mem_cons.mp member with rfl | member
        · exact ⟨start, c :: t, cut, List.cons_ne_nil c t, here⟩
        · exact onward _ member
      · exact onward _ member

theorem succeeds_of_mem_scan {x : α} (member : x ∈ scan recognise size text) :
    ∃ before rest, recognise.Succeeds text before rest x :=
  succeeds_of_mem_scanFrom text [] rfl 0 member

theorem ordered_scanFrom {place : α → Nat}
    (placed : ∀ before rest x, recognise.Succeeds text before rest x → place x = before.length)
    (rest start : Text) (cut : text = start ++ rest) (skip : Nat) :
    (∀ x ∈ scanFrom recognise size skip start.getLast? rest, start.length + skip ≤ place x) ∧
      (scanFrom recognise size skip start.getLast? rest).Pairwise
        fun x y => place x + size x ≤ place y := by
  induction rest generalizing start skip with
  | nil => simp [scanFrom]
  | cons c t ih =>
    have onward : ∀ skip,
        (∀ x ∈ scanFrom recognise size skip (some c) t, start.length + 1 + skip ≤ place x) ∧
          (scanFrom recognise size skip (some c) t).Pairwise
            fun x y => place x + size x ≤ place y := by
      intro skip
      simpa using ih (start ++ [c]) (by simpa using cut) skip
    cases skip with
    | succ skip =>
      refine ⟨fun x member => ?_, (onward skip).2⟩
      have := (onward skip).1 x member
      omega
    | zero =>
      unfold scanFrom
      split
      · rename_i found here
        have first : place found = start.length :=
          placed start (c :: t) found ⟨cut, List.cons_ne_nil c t, here⟩
        obtain ⟨behind, ordered⟩ := onward (size found - 1)
        refine ⟨?_, List.pairwise_cons.mpr ⟨fun x member => ?_, ordered⟩⟩
        · intro x member
          rcases List.mem_cons.mp member with rfl | member
          · omega
          · have := behind x member
            omega
        · have := behind x member
          omega
      · refine ⟨fun x member => ?_, (onward 0).2⟩
        have := (onward 0).1 x member
        omega

/- The next `skip` characters belong to the last find; the place that succeeds is not among them. -/
theorem mem_scanFrom_of_succeeds {before after : Text} {y : α}
    (here : recognise.Succeeds text before after y) (rest start : Text)
    (cut : text = start ++ rest) (skip : Nat) (behind : start.length + skip ≤ before.length) :
    ∃ x ∈ scanFrom recognise size skip start.getLast? rest,
      recognise.Covers size text before.length x := by
  induction rest generalizing start skip with
  | nil =>
    have sizes := congrArg List.length (here.cut.symm.trans cut)
    have inside := List.length_pos_iff.mpr here.inside
    simp only [List.length_append, List.length_nil] at sizes
    omega
  | cons c t ih =>
    have onward : ∀ skip, start.length + 1 + skip ≤ before.length →
        ∃ x ∈ scanFrom recognise size skip (some c) t,
          recognise.Covers size text before.length x := by
      intro skip behind
      simpa using ih (start ++ [c]) (by simpa using cut) skip (by simpa using behind)
    cases skip with
    | succ skip => exact onward skip (by omega)
    | zero =>
      unfold scanFrom
      split
      · rename_i x found
        have find : recognise.Succeeds text start (c :: t) x :=
          ⟨cut, List.cons_ne_nil c t, found⟩
        by_cases covered : before.length < start.length + max 1 (size x)
        · exact ⟨x, List.mem_cons_self, start, c :: t, find, by omega⟩
        · obtain ⟨x', member, covers⟩ := onward (size x - 1) (by omega)
          exact ⟨x', List.mem_cons_of_mem x member, covers⟩
      · rename_i fails
        by_cases same : before.length = start.length
        · have same := List.append_inj (here.cut.symm.trans cut) same
          have found := here.found
          rw [same.1, same.2, fails] at found
          contradiction
        · exact onward 0 (by omega)

theorem mem_scan_of_succeeds (size : α → Nat) {before rest : Text} {y : α}
    (here : recognise.Succeeds text before rest y) :
    ∃ x ∈ scan recognise size text, recognise.Covers size text before.length x :=
  mem_scanFrom_of_succeeds here text [] rfl 0 (by simp)

/- The places in front of `start` are known to fail. -/
theorem first_of_head?_scanFrom {x : α} (rest start : Text) (cut : text = start ++ rest)
    (fails : ∀ before after y, recognise.Succeeds text before after y →
      start.length ≤ before.length)
    (first : (scanFrom recognise size 0 start.getLast? rest).head? = some x) :
    ∃ before after, recognise.Succeeds text before after x ∧
      ∀ before' after' y, recognise.Succeeds text before' after' y →
        before.length ≤ before'.length := by
  induction rest generalizing start with
  | nil => simp [scanFrom] at first
  | cons c t ih =>
    unfold scanFrom at first
    split at first
    · rename_i found here
      cases Option.some.inj first
      exact ⟨start, c :: t, ⟨cut, List.cons_ne_nil c t, here⟩, fails⟩
    · rename_i none
      refine ih (start ++ [c]) (by simpa using cut) ?_ (by simpa using first)
      intro before after y here
      rw [List.length_append, List.length_singleton]
      refine Nat.lt_of_le_of_ne (fails before after y here) fun same => ?_
      obtain ⟨rfl, rfl⟩ := List.append_inj (cut.symm.trans here.cut) same
      rw [here.found] at none
      contradiction

theorem first_of_head?_scan {x : α} (first : (scan recognise size text).head? = some x) :
    ∃ before after, recognise.Succeeds text before after x ∧
      ∀ before' after' y, recognise.Succeeds text before' after' y →
        before.length ≤ before'.length :=
  first_of_head?_scanFrom text [] rfl (fun _ _ _ _ => Nat.zero_le _) first

theorem getLast?_cons_or (c : Char) (s : Text) (before : Option Char) :
    (c :: s).getLast?.or before = s.getLast?.or (some c) := by
  rw [List.getLast?_cons]
  cases s.getLast? <;> rfl

/-- Finds that begin in the front part of a text and end there are followed by those of the rest,
which are looked for as if nothing had been found before. -/
theorem scanFrom_append (before : Option Char) (front : Text) {rest : Text}
    (fits : ∀ a b x, front = a ++ b → b ≠ [] →
      recognise (a.getLast?.or before) (b ++ rest) = some x → size x ≤ b.length)
    (skip : Nat) (inside : skip ≤ front.length) :
    ∃ finds, scanFrom recognise size skip before (front ++ rest) =
        finds ++ scanFrom recognise size 0 (front.getLast?.or before) rest ∧
      ∀ x ∈ finds, ∃ a b, front = a ++ b ∧ b ≠ [] ∧
        recognise (a.getLast?.or before) (b ++ rest) = some x := by
  induction front generalizing before skip with
  | nil =>
    rw [List.length_nil] at inside
    obtain rfl := Nat.le_zero.mp inside
    exact ⟨[], rfl, by simp⟩
  | cons c front ih =>
    have shift : ∀ a : Text, a.getLast?.or (some c) = (c :: a).getLast?.or before :=
      fun a => (getLast?_cons_or c a before).symm
    have onward : ∀ skip ≤ front.length,
        ∃ finds, scanFrom recognise size skip (some c) (front ++ rest) =
            finds ++ scanFrom recognise size 0 ((c :: front).getLast?.or before) rest ∧
          ∀ x ∈ finds, ∃ a b, c :: front = a ++ b ∧ b ≠ [] ∧
            recognise (a.getLast?.or before) (b ++ rest) = some x := by
      intro skip inside
      obtain ⟨finds, whole, each⟩ := ih (some c) (fun a b x cut nonempty found =>
        fits (c :: a) b x (congrArg _ cut) nonempty (shift a ▸ found)) skip inside
      refine ⟨finds, shift front ▸ whole, ?_⟩
      intro x member
      obtain ⟨a, b, cut, nonempty, found⟩ := each x member
      exact ⟨c :: a, b, congrArg _ cut, nonempty, shift a ▸ found⟩
    cases skip with
    | succ skip => exact onward skip (Nat.le_of_succ_le_succ inside)
    | zero =>
      rw [List.cons_append, scanFrom]
      split
      · rename_i x found
        have short : size x ≤ front.length + 1 :=
          fits [] (c :: front) x rfl (List.cons_ne_nil _ _) found
        obtain ⟨finds, whole, each⟩ := onward (size x - 1) (by omega)
        refine ⟨x :: finds, congrArg _ whole, ?_⟩
        intro y member
        rcases List.mem_cons.mp member with rfl | member
        · exact ⟨[], c :: front, rfl, List.cons_ne_nil _ _, found⟩
        · exact each y member
      · exact onward 0 (Nat.zero_le _)

theorem scanFrom_skip (front : Text) (before : Option Char) (rest : Text) :
    scanFrom recognise size front.length before (front ++ rest) =
      scanFrom recognise size 0 (front.getLast?.or before) rest := by
  induction front generalizing before with
  | nil => rfl
  | cons c front ih =>
    rw [List.length_cons, List.cons_append, scanFrom, ih, getLast?_cons_or]

theorem scanFrom_of_none {before : Option Char} {c : Char} {t : Text}
    (fails : recognise before (c :: t) = none) :
    scanFrom recognise size 0 before (c :: t) = scanFrom recognise size 0 (some c) t := by
  rw [scanFrom, fails]

theorem scanFrom_of_some {before : Option Char} {read rest : Text} {x : α} (nonempty : read ≠ [])
    (found : recognise before (read ++ rest) = some x) (covers : size x = read.length) :
    scanFrom recognise size 0 before (read ++ rest) =
      x :: scanFrom recognise size 0 read.getLast? rest := by
  obtain ⟨c, read, rfl⟩ := List.exists_cons_of_ne_nil nonempty
  rw [List.cons_append] at found ⊢
  rw [scanFrom, found, ← Option.or_none (o := (c :: read).getLast?), getLast?_cons_or,
    ← scanFrom_skip]
  simp only [covers, List.length_cons, Nat.add_sub_cancel]

theorem scanFrom_congr {before other : Option Char} {rest : Text}
    (same : recognise before rest = recognise other rest) :
    scanFrom recognise size 0 before rest = scanFrom recognise size 0 other rest := by
  cases rest with
  | nil => rfl
  | cons c t => rw [scanFrom, scanFrom, same]

theorem scan_append (size : α → Nat) (front : Text) {rest : Text}
    (fits : ∀ a b x, front = a ++ b → b ≠ [] →
      recognise a.getLast? (b ++ rest) = some x → size x ≤ b.length)
    (same : recognise front.getLast? rest = recognise none rest) :
    ∃ finds, scan recognise size (front ++ rest) = finds ++ scan recognise size rest ∧
      ∀ x ∈ finds, ∃ a b, front = a ++ b ∧ b ≠ [] ∧
        recognise a.getLast? (b ++ rest) = some x := by
  obtain ⟨finds, whole, each⟩ := scanFrom_append none front
    (by simpa only [Option.or_none] using fits) 0 (Nat.zero_le _)
  simp only [Option.or_none, scanFrom_congr same] at whole each
  exact ⟨finds, whole, each⟩

theorem scan_append_of_fails (front : Text) {rest : Text}
    (fails : ∀ a b, front = a ++ b → b ≠ [] → recognise a.getLast? (b ++ rest) = none)
    (same : recognise front.getLast? rest = recognise none rest) :
    scan recognise size (front ++ rest) = scan recognise size rest := by
  have nothing : ∀ a b x, front = a ++ b → b ≠ [] → recognise a.getLast? (b ++ rest) ≠ some x := by
    intro a b x cut nonempty found
    rw [fails a b cut nonempty] at found
    contradiction
  obtain ⟨finds, whole, each⟩ := scan_append size front
    (fun a b x cut nonempty found => absurd found (nothing a b x cut nonempty)) same
  have none_found : finds = [] := by
    apply List.eq_nil_iff_forall_not_mem.mpr
    intro x member
    obtain ⟨a, b, cut, nonempty, found⟩ := each x member
    exact nothing a b x cut nonempty found
  rw [whole, none_found, List.nil_append]

end ReferencePage.Text
