import ReferencePage.Proofs.Finds
import ReferencePage.Source.Form

/-! The places where a search finds heads.  It goes on behind each of them, so none begins inside
another one, and whatever it passes over begins inside one. -/
namespace ReferencePage

open Text

/-- The text begins inside the head, behind its first character. -/
def Head.Holds (h : Head) (t : Text) : Prop := h.rest.length < t.length ∧ t.length < h.start.length

instance (h : Head) (t : Text) : Decidable (h.Holds t) := inferInstanceAs (Decidable (_ ∧ _))

structure Head.ReadInPlace (recognise : Recogniser Head) : Prop where
  start : ∀ before t h, recognise before t = some h → h.start = t
  shorter : ∀ before t h, recognise before t = some h → h.rest.length < t.length

namespace Head.ReadInPlace

variable {recognise : Recogniser Head} {source : Text} (inPlace : ReadInPlace recognise)
include inPlace

theorem exists_place {h : Head} (known : h ∈ scan recognise size source) :
    ∃ before, recognise.Succeeds source before h.start h ∧ h.rest.length < h.start.length := by
  obtain ⟨before, t, here⟩ := succeeds_of_mem_scan known
  obtain rfl := inPlace.start _ _ _ here.found
  exact ⟨before, here, inPlace.shorter _ _ _ here.found⟩

theorem pairwise (source : Text) :
    (scan recognise size source).Pairwise fun x y => y.start.length ≤ x.rest.length := by
  have placed : ∀ before t h, recognise.Succeeds source before t h →
      source.length - h.start.length = before.length := by
    intro before t h here
    rw [inPlace.start _ _ _ here.found, here.cut, List.length_append, Nat.add_sub_cancel]
  refine (ordered_scanFrom placed source [] rfl 0).2.imp_of_mem ?_
  intro x y known known' ordered
  obtain ⟨before, here, nonempty⟩ := inPlace.exists_place known
  obtain ⟨before', here', nonempty'⟩ := inPlace.exists_place known'
  have within := congrArg List.length here.cut
  have within' := congrArg List.length here'.cut
  rw [List.length_append] at within within'
  unfold size at ordered
  omega

theorem not_holds_start {x y : Head} (known : x ∈ scan recognise size source)
    (known' : y ∈ scan recognise size source) : ¬x.Holds y.start := by
  have ordered := inPlace.pairwise source
  refine List.Pairwise.forall_of_forall_of_flip (R := fun x y => ¬x.Holds y.start) ?alone
    ?forwards ?backwards known known'
  case alone =>
    intro x _
    simp [Holds]
  case forwards =>
    -- The later one begins at the end of the earlier one, or behind it.
    refine ordered.imp ?_
    intro x y later
    unfold Holds
    omega
  case backwards =>
    refine ordered.imp_of_mem ?_
    intro x y known _ later
    obtain ⟨-, -, nonempty⟩ := inPlace.exists_place known
    unfold flip Holds
    omega

/-- Where a head can be read, it is found, or another one is that holds the place. -/
theorem mem_or_holds {before t : Text} {y : Head} (here : recognise.Succeeds source before t y) :
    y ∈ scan recognise size source ∨ ∃ x ∈ scan recognise size source, x.Holds t := by
  obtain ⟨x, known, front, u, there, placed⟩ := mem_scan_of_succeeds size here
  have cut := here.cut.symm.trans there.cut
  rcases placed with same | ⟨behind, inside⟩
  · left
    obtain ⟨rfl, rfl⟩ := List.append_inj cut same.symm
    cases there.found.symm.trans here.found
    exact known
  · right
    refine ⟨x, known, ?_⟩
    obtain rfl := inPlace.start _ _ _ there.found
    have lengths := congrArg List.length cut
    rw [List.length_append, List.length_append] at lengths
    unfold size at inside
    unfold Holds
    omega

end Head.ReadInPlace

end ReferencePage
