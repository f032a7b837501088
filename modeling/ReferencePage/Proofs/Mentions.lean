import Mathlib.Data.List.Basic
import Mathlib.Data.List.Pairwise
import ReferencePage.Document.Link
import ReferencePage.Proofs.Finds

/-! Mentions of a name, and which of them are accepted.  A mention stands where the name does, up to
case, between two borders.  Accepted mentions never overlap, and one that is not accepted overlaps
one that was accepted before it. -/
namespace ReferencePage

open Text

/-- The mention covers `found`, which equals the name of its target up to case. -/
structure Mention.Stands (m : Mention) (text before found after : Text) : Prop where
  cut : text = before ++ (found ++ after)
  start : m.start = before.length
  stop : m.stop = before.length + found.length
  folded : found.map fold = m.target.name.map fold
  opens : border before.getLast? (found ++ after).head? = true
  closes : border (before ++ found).getLast? after.head? = true

theorem Mention.Stands.found_ne_nil {m : Mention} {text before found after : Text}
    (stands : m.Stands text before found after) (named : m.target.name ≠ []) : found ≠ [] := by
  intro empty
  have folded := stands.folded
  rw [empty, List.map_nil] at folded
  exact named (List.map_eq_nil_iff.mp folded.symm)

theorem Mention.Stands.at_place {m : Mention} {text before found after before' found' after' : Text}
    (stands : m.Stands text before found after) (cut : text = before' ++ (found' ++ after'))
    (start : m.start = before'.length) (stop : m.stop = before'.length + found'.length) :
    m.Stands text before' found' after' := by
  have whole := stands.cut.symm.trans cut
  have size : found.length = found'.length := by
    have := stands.start
    have := stands.stop
    omega
  obtain ⟨rfl, behind⟩ := List.append_inj whole (by rw [← start, stands.start])
  obtain ⟨rfl, rfl⟩ := List.append_inj behind size
  exact stands

theorem folded?_eq_some {name t : Text} {p : Passage} :
    folded? name t = some p ↔ t = p.text ++ p.rest ∧ p.text.map fold = name.map fold := by
  obtain ⟨found, rest⟩ := p
  induction name generalizing t found with
  | nil =>
    cases found with
    | nil => simp [folded?]
    | cons d u => simp [folded?]
  | cons a name ih =>
    cases t with
    | nil =>
      cases found with
      | nil => simp [folded?]
      | cons d u => simp [folded?]
    | cons c t =>
      cases found with
      | nil => simp [folded?]
      | cons d u =>
        have onward : (folded? name t).map (fun p => ⟨c :: p.text, p.rest⟩) =
            some (⟨d :: u, rest⟩ : Passage) ↔ c = d ∧ folded? name t = some ⟨u, rest⟩ := by
          cases folded? name t with
          | none => simp
          | some q =>
            cases q
            simp [and_assoc]
        rw [folded?]
        split
        · rename_i same
          rw [onward, ih]
          simp only [List.cons_append, List.cons.injEq, List.map_cons, and_assoc]
          constructor
          · rintro ⟨rfl, cut, folded⟩
            exact ⟨rfl, cut, same.symm, folded⟩
          · rintro ⟨rfl, cut, -, folded⟩
            exact ⟨rfl, cut, folded⟩
        · rename_i differs
          simp only [reduceCtorEq, false_iff, not_and, List.cons_append, List.cons.injEq,
            List.map_cons]
          rintro ⟨rfl, -⟩ same
          exact absurd same.symm differs

theorem mention?_eq_some {name before t : Text} {p : Passage} :
    mention? name before.getLast? t = some p ↔
      t = p.text ++ p.rest ∧ p.text.map fold = name.map fold ∧
        border before.getLast? t.head? = true ∧
        border (before ++ p.text).getLast? p.rest.head? = true := by
  unfold mention?
  rw [List.getLast?_append]
  split
  · rename_i opens
    rw [Option.filter_eq_some_iff, folded?_eq_some]
    constructor
    · rintro ⟨⟨cut, folded⟩, closes⟩
      exact ⟨cut, folded, opens, closes⟩
    · rintro ⟨cut, folded, -, closes⟩
      exact ⟨⟨cut, folded⟩, closes⟩
  · rename_i closed
    simp only [reduceCtorEq, false_iff]
    rintro ⟨-, -, opens, -⟩
    exact closed opens

theorem stands_of_succeeds {target : Target} {text before rest : Text} {p : Passage}
    (here : (mention? target.name).Succeeds text before rest p) :
    Mention.Stands ⟨p.start text, p.stop text, target⟩ text before p.text p.rest := by
  obtain ⟨cut, folded, opens, closes⟩ := mention?_eq_some.mp here.found
  have whole : text = before ++ (p.text ++ p.rest) := cut ▸ here.cut
  refine ⟨whole, ?_, ?_, folded, cut ▸ opens, closes⟩
  · simp [Passage.start, Passage.whole, whole]
  · simp only [Passage.stop, whole, List.length_append]
    omega

theorem stands_of_mem_mentions {text : Text} {target : Target} {m : Mention}
    (member : m ∈ target.mentions text) :
    m.target = target ∧ ∃ before found after, m.Stands text before found after := by
  obtain ⟨p, find, rfl⟩ := List.mem_map.mp member
  obtain ⟨before, rest, here⟩ := succeeds_of_mem_scan find
  exact ⟨rfl, before, p.text, p.rest, stands_of_succeeds here⟩

/-- Where a name stands, the scan mentions it, or it stands inside an earlier mention. -/
theorem mem_mentions_of_stands {text before found after : Text} {m : Mention}
    (stands : m.Stands text before found after) (named : m.target.name ≠ []) :
    ∃ n ∈ m.target.mentions text, n.start = m.start ∨ n.start < m.start ∧ m.start < n.stop := by
  have nonempty := stands.found_ne_nil named
  have here : (mention? m.target.name).Succeeds text before (found ++ after) ⟨found, after⟩ :=
    ⟨stands.cut, by simp [nonempty],
      mention?_eq_some.mpr ⟨rfl, stands.folded, stands.opens, stands.closes⟩⟩
  obtain ⟨p, member, before', rest, there, place⟩ :=
    mem_scan_of_succeeds (fun p => p.text.length) here
  have mention := stands_of_succeeds there
  refine ⟨_, List.mem_map_of_mem member, ?_⟩
  rw [mention.start, mention.stop, stands.start]
  exact place

/- What one more mention does to those taken before. -/
section Accept

theorem Mention.overlaps_comm (m n : Mention) : m.overlaps n = n.overlaps m := by
  unfold Mention.overlaps
  rw [Bool.and_comm]

variable {taken : List Mention}

theorem mem_accept_of_mem {m n : Mention} (member : m ∈ taken) : m ∈ accept taken n := by
  unfold accept
  split
  · exact member
  · exact List.mem_append_left _ member

theorem mem_or_eq_of_mem_accept {m n : Mention} (member : m ∈ accept taken n) :
    m ∈ taken ∨ m = n := by
  unfold accept at member
  split at member
  · exact Or.inl member
  · simpa using member

theorem mem_accept_self_or_overlaps (taken : List Mention) (m : Mention) :
    m ∈ accept taken m ∨ ∃ n ∈ taken, m.overlaps n = true := by
  unfold accept
  split
  · rename_i blocked
    exact Or.inr (List.any_eq_true.mp blocked)
  · exact Or.inl (by simp)

def Apart (taken : List Mention) : Prop := taken.Pairwise fun m n => m.overlaps n = false

theorem apart_accept (apart : Apart taken) (m : Mention) : Apart (accept taken m) := by
  unfold accept
  split
  · exact apart
  · rename_i free
    refine List.pairwise_append.mpr ⟨apart, List.pairwise_singleton _ _, ?_⟩
    intro n member last same
    obtain rfl := List.mem_singleton.mp same
    rw [Mention.overlaps_comm]
    simp only [List.any_eq_true, not_exists, not_and, Bool.not_eq_true] at free
    exact free n member

theorem Apart.eq_of_overlaps (apart : Apart taken) {m n : Mention} (hm : m ∈ taken)
    (hn : n ∈ taken) (overlaps : m.overlaps n = true) : m = n := by
  by_contra different
  have : Std.Symm fun m n : Mention => m.overlaps n = false :=
    ⟨fun m n free => (Mention.overlaps_comm n m).trans free⟩
  have free := List.Pairwise.forall apart hm hn different
  rw [overlaps] at free
  contradiction

end Accept

section AcceptAll

variable {taken ms : List Mention} {m : Mention}

theorem mem_foldl_accept_of_mem (member : m ∈ taken) : m ∈ ms.foldl accept taken := by
  induction ms generalizing taken with
  | nil => exact member
  | cons n ms ih => exact ih (mem_accept_of_mem member)

theorem mem_or_mem_of_mem_foldl_accept (member : m ∈ ms.foldl accept taken) :
    m ∈ taken ∨ m ∈ ms := by
  induction ms generalizing taken with
  | nil => exact Or.inl member
  | cons n ms ih =>
    rcases ih member with before | later
    · rcases mem_or_eq_of_mem_accept before with before | rfl
      · exact Or.inl before
      · exact Or.inr List.mem_cons_self
    · exact Or.inr (List.mem_cons_of_mem n later)

theorem apart_foldl_accept (apart : Apart taken) : Apart (ms.foldl accept taken) := by
  induction ms generalizing taken with
  | nil => exact apart
  | cons n ms ih => exact ih (apart_accept apart n)

/-- A mention is accepted, or it overlaps one that came before it and was accepted. -/
theorem mem_foldl_accept_or_overlaps (before after : List Mention) :
    m ∈ (before ++ m :: after).foldl accept [] ∨
      ∃ n ∈ before, n ∈ (before ++ m :: after).foldl accept [] ∧ m.overlaps n = true := by
  rw [List.foldl_append, List.foldl_cons]
  rcases mem_accept_self_or_overlaps (before.foldl accept []) m with taken | blocked
  · exact Or.inl (mem_foldl_accept_of_mem taken)
  · obtain ⟨n, member, overlaps⟩ := blocked
    have earlier := (mem_or_mem_of_mem_foldl_accept member).resolve_left List.not_mem_nil
    exact Or.inr ⟨n, earlier, mem_foldl_accept_of_mem (mem_accept_of_mem member), overlaps⟩

end AcceptAll

variable {targets : List Target} {text : Text} {m : Mention}

theorem mem_byLength {target : Target} :
    target ∈ byLength targets ↔ target ∈ targets ∧ target.name ≠ [] := by
  simp [byLength]

theorem apart_accepted : Apart (accepted targets text) :=
  apart_foldl_accept List.Pairwise.nil

theorem stands_of_mem_accepted (member : m ∈ accepted targets text) :
    (m.target ∈ targets ∧ m.target.name ≠ []) ∧
      ∃ before found after, m.Stands text before found after := by
  have listed := (mem_or_mem_of_mem_foldl_accept member).resolve_left List.not_mem_nil
  obtain ⟨target, known, mentioned⟩ := List.mem_flatMap.mp listed
  obtain ⟨rfl, stands⟩ := stands_of_mem_mentions mentioned
  exact ⟨mem_byLength.mp known, stands⟩

end ReferencePage
