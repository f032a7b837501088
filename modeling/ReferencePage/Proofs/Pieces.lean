import Mathlib.Data.List.Basic
import Mathlib.Data.List.Pairwise
import ReferencePage.Proofs.Mentions

/-! What linking makes of a text, piece by piece: it keeps a character, or it puts a link in the
place of a mention. -/
namespace ReferencePage

open Text

inductive Piece where
  | kept (c : Char)
  | linked (mention : Text) (target : Target)
  deriving DecidableEq, Repr

namespace Piece

def source : Piece → Text
  | kept c => [c]
  | linked mention _ => mention

def result : Piece → Text
  | kept c => [c]
  | linked _ target => target.link

end Piece

/- `skip` counts the characters that still belong to the last link. -/
def piecesFrom (taken : List Mention) : (place skip : Nat) → Text → List Piece
  | _, _, [] => []
  | place, skip + 1, _ :: t => piecesFrom taken (place + 1) skip t
  | place, 0, c :: t =>
    match taken.find? fun m => m.start = place with
    | some m =>
      let more := m.stop - m.start - 1
      .linked (c :: t.take more) m.target :: piecesFrom taken (place + 1) more t
    | none => .kept c :: piecesFrom taken (place + 1) 0 t

def pieces (targets : List Target) (text : Text) : List Piece :=
  piecesFrom (accepted targets text) 0 0 text

section PiecesFrom

variable (taken : List Mention)

theorem flatMap_result_piecesFrom (t : Text) (place skip : Nat) :
    (piecesFrom taken place skip t).flatMap Piece.result = replace taken place skip t := by
  induction t generalizing place skip with
  | nil => simp [piecesFrom, replace]
  | cons c t ih =>
    cases skip with
    | succ skip => exact ih (place + 1) skip
    | zero =>
      rw [piecesFrom, replace]
      cases taken.find? fun m => m.start = place with
      | some m => exact congrArg (m.target.link ++ ·) (ih _ _)
      | none => exact congrArg (c :: ·) (ih _ _)

theorem flatMap_source_piecesFrom (t : Text) (place skip : Nat) :
    (piecesFrom taken place skip t).flatMap Piece.source = t.drop skip := by
  induction t generalizing place skip with
  | nil => simp [piecesFrom]
  | cons c t ih =>
    cases skip with
    | succ skip => exact ih (place + 1) skip
    | zero =>
      unfold piecesFrom
      split
      · rw [List.flatMap_cons, ih]
        simp [Piece.source]
      · rw [List.flatMap_cons, ih]
        simp [Piece.source]

/- A link stands for the characters that its mention covers, and for one at least. -/
theorem mem_of_linked_mem_piecesFrom {text mention : Text} {target : Target} (t start : Text)
    (cut : text = start ++ t) (skip : Nat)
    (member : .linked mention target ∈ piecesFrom taken start.length skip t) :
    ∃ m ∈ taken, m.target = target ∧
      mention = (text.drop m.start).take (m.stop - m.start - 1 + 1) := by
  induction t generalizing start skip with
  | nil => simp [piecesFrom] at member
  | cons c t ih =>
    have onward : ∀ skip, .linked mention target ∈ piecesFrom taken (start.length + 1) skip t →
        ∃ m ∈ taken, m.target = target ∧
          mention = (text.drop m.start).take (m.stop - m.start - 1 + 1) := by
      intro skip member
      exact ih (start ++ [c]) (by simpa using cut) skip (by simpa using member)
    cases skip with
    | succ skip => exact onward skip member
    | zero =>
      unfold piecesFrom at member
      split at member
      · rename_i m found
        rcases List.mem_cons.mp member with same | later
        · have here : m.start = start.length := by simpa using List.find?_some found
          obtain ⟨covers, leads⟩ := Piece.linked.inj same
          refine ⟨m, List.mem_of_find?_eq_some found, leads.symm, ?_⟩
          rw [covers, cut, here, List.drop_left, List.take_succ_cons]
        · exact onward _ later
      · rcases List.mem_cons.mp member with same | later
        · contradiction
        · exact onward _ later

end PiecesFrom

section Replace

variable {taken : List Mention} {rest : Text}

theorem replace_skip (s : Text) (place : Nat) :
    replace taken place s.length (s ++ rest) = replace taken (place + s.length) 0 rest := by
  induction s generalizing place with
  | nil => rfl
  | cons c s ih =>
    rw [List.cons_append, List.length_cons, replace, ih, Nat.add_assoc, Nat.add_comm 1]

theorem replace_keep (s : Text) (place : Nat)
    (free : ∀ m ∈ taken, place ≤ m.start → place + s.length ≤ m.start) :
    replace taken place 0 (s ++ rest) = s ++ replace taken (place + s.length) 0 rest := by
  induction s generalizing place with
  | nil => rfl
  | cons c s ih =>
    have none_here : taken.find? (fun m => m.start = place) = none := by
      rw [List.find?_eq_none]
      intro m member here
      have := free m member
      have := of_decide_eq_true here
      simp only [List.length_cons] at *
      omega
    have later : ∀ m ∈ taken, place + 1 ≤ m.start → place + 1 + s.length ≤ m.start := by
      intro m member behind
      have := free m member (by omega)
      simp only [List.length_cons] at this
      omega
    rw [List.cons_append, replace, none_here]
    simp only [ih (place + 1) later, List.length_cons, List.cons_append]
    rw [Nat.add_assoc, Nat.add_comm 1]

theorem replace_link {m : Mention} (member : m ∈ taken)
    (alone : ∀ n ∈ taken, n.start = m.start → n = m) {s : Text} (nonempty : s ≠ [])
    (stop : m.stop = m.start + s.length) :
    replace taken m.start 0 (s ++ rest) =
      m.target.link ++ replace taken (m.start + s.length) 0 rest := by
  obtain ⟨c, s, rfl⟩ := List.exists_cons_of_ne_nil nonempty
  have first : taken.find? (fun n => n.start = m.start) = some m := by
    have exists_first : (taken.find? fun n => n.start = m.start).isSome :=
      List.find?_isSome.mpr ⟨m, member, by simp⟩
    obtain ⟨n, found⟩ := Option.isSome_iff_exists.mp exists_first
    have start : n.start = m.start := by simpa using List.find?_some found
    rw [found, alone n (List.mem_of_find?_eq_some found) start]
  rw [List.cons_append, replace, first]
  simp only [stop, Nat.add_sub_cancel_left, List.length_cons, Nat.add_sub_cancel]
  rw [replace_skip, Nat.add_assoc, Nat.add_comm 1]

end Replace

variable {targets : List Target} {text : Text}

theorem flatMap_result_pieces :
    (pieces targets text).flatMap Piece.result = linkText targets text :=
  flatMap_result_piecesFrom (accepted targets text) text 0 0

theorem flatMap_source_pieces : (pieces targets text).flatMap Piece.source = text :=
  flatMap_source_piecesFrom (accepted targets text) text 0 0

/-- A link that is put in leads to a target that was given, and it stands for a mention of the
target's name. -/
theorem target_of_linked_mem_pieces {mention : Text} {target : Target}
    (member : .linked mention target ∈ pieces targets text) :
    target ∈ targets ∧ mention.map fold = target.name.map fold := by
  obtain ⟨m, accepts, rfl, covers⟩ := mem_of_linked_mem_piecesFrom _ text [] rfl 0 member
  obtain ⟨⟨known, named⟩, before, found, after, stands⟩ := stands_of_mem_accepted accepts
  have nonempty := List.length_pos_iff.mpr (stands.found_ne_nil named)
  have length : m.stop - m.start - 1 + 1 = found.length := by
    have start := stands.start
    have stop := stands.stop
    omega
  refine ⟨known, ?_⟩
  rw [covers, length, List.nil_append, stands.start, stands.cut, List.drop_left, List.take_left]
  exact stands.folded

end ReferencePage
