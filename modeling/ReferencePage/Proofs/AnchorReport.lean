import ReferencePage.Proofs.Gathered
import ReferencePage.Proofs.Headings
import ReferencePage.Proofs.SharedAnchors

/-! What is reported of shared anchors: each anchor that more than one member has, once, at the
place of its second member.  What holds at one step of the search holds with any texts met
before. -/
namespace ReferencePage

open Text

section Repeated

variable {once again s t : List Text} {x y : Text}

theorem nodup_repeatedFrom (earlier : again ⊆ once) : (repeatedFrom once again t).Nodup := by
  induction t generalizing once again with
  | nil => exact List.nodup_nil
  | cons u t ih =>
    unfold repeatedFrom
    split
    · exact ih earlier
    · split
      · rename_i before
        have earlier : u :: again ⊆ once := List.cons_subset.mpr ⟨before, earlier⟩
        refine List.nodup_cons.mpr ⟨fun member => ?_, ih earlier⟩
        exact ((mem_repeatedFrom earlier).mp member).1 List.mem_cons_self
      · exact ih (List.subset_cons_of_subset u earlier)

theorem nodup_repeated (texts : List Text) : (repeated texts).Nodup :=
  nodup_repeatedFrom (List.Subset.refl [])

theorem repeatedFrom_congr {once' again' : List Text}
    (met : ∀ u ∈ t, u ∈ once ↔ u ∈ once') (told : ∀ u ∈ t, u ∈ again ↔ u ∈ again') :
    repeatedFrom once again t = repeatedFrom once' again' t := by
  induction t generalizing once again once' again' with
  | nil => rfl
  | cons u t ih =>
    obtain ⟨met_here, met⟩ := List.forall_mem_cons.mp met
    obtain ⟨told_here, told⟩ := List.forall_mem_cons.mp told
    have with_here : ∀ {l l' : List Text}, (∀ v ∈ t, v ∈ l ↔ v ∈ l') →
        ∀ v ∈ t, v ∈ u :: l ↔ v ∈ u :: l' := by
      intro l l' same v member
      rw [List.mem_cons, List.mem_cons, same v member]
    rw [repeatedFrom, repeatedFrom, ih met told, ih met (with_here told), ih (with_here met) told]
    simp only [met_here, told_here]

theorem repeatedFrom_append (apart : List.Disjoint s t) :
    repeatedFrom once again (s ++ t) =
      repeatedFrom once again s ++ repeatedFrom once again t := by
  induction s generalizing once again with
  | nil => rfl
  | cons u s ih =>
    obtain ⟨other, apart⟩ := List.disjoint_cons_left.mp apart
    have forget : ∀ l : List Text, ∀ v ∈ t, v ∈ u :: l ↔ v ∈ l := by
      intro l v member
      have differs : v ≠ u := fun same => other (same ▸ member)
      simp [differs]
    have same : ∀ l : List Text, ∀ v ∈ t, v ∈ l ↔ v ∈ l := fun _ _ _ => Iff.rfl
    rw [List.cons_append, repeatedFrom, repeatedFrom, ih apart, ih apart, ih apart,
      repeatedFrom_congr (same once) (forget again), repeatedFrom_congr (forget once) (same again)]
    split
    · rfl
    · split <;> rfl

theorem repeated_append (apart : List.Disjoint s t) :
    repeated (s ++ t) = repeated s ++ repeated t :=
  repeatedFrom_append apart

/-- The place behind the first one with a text where the text stands again. -/
def secondPlace (texts : List Text) (x : Text) : Nat :=
  texts.idxOf x + 1 + (texts.drop (texts.idxOf x + 1)).idxOf x

theorem secondPlace_cons_self (x : Text) (t : List Text) :
    secondPlace (x :: t) x = t.idxOf x + 1 := by
  rw [secondPlace, List.idxOf_cons_self, List.drop_succ_cons, List.drop_zero]
  omega

theorem secondPlace_cons_ne {u : Text} (differs : u ≠ x) :
    secondPlace (u :: t) x = secondPlace t x + 1 := by
  rw [secondPlace, secondPlace, List.idxOf_cons_ne t differs, Nat.succ_eq_add_one,
    List.drop_succ_cons]
  omega

/- Where a text is met again by one who has met the texts in `once` before. -/
def placeAgain (once texts : List Text) (x : Text) : Nat :=
  if once.contains x then texts.idxOf x else secondPlace texts x

theorem placeAgain_cons_of_mem {u : Text} (met : u ∈ once) (x : Text) :
    placeAgain once (u :: t) x = if u = x then 0 else placeAgain once t x + 1 := by
  unfold placeAgain
  by_cases same : u = x
  · subst same
    rw [if_pos (List.contains_iff_mem.mpr met), List.idxOf_cons_self, if_pos rfl]
  · rw [List.idxOf_cons_ne t same, secondPlace_cons_ne same, if_neg same]
    split <;> rfl

theorem placeAgain_cons_of_not_mem {u : Text} (first : u ∉ once) (x : Text) :
    placeAgain once (u :: t) x = placeAgain (u :: once) t x + 1 := by
  unfold placeAgain
  by_cases same : u = x
  · subst same
    rw [if_neg (mt List.contains_iff_mem.mp first),
      if_pos (List.contains_iff_mem.mpr List.mem_cons_self), secondPlace_cons_self]
  · rw [List.idxOf_cons_ne t same, secondPlace_cons_ne same]
    simp only [List.contains_iff_mem, List.mem_cons, Ne.symm same, false_or]
    split <;> rfl

theorem idxOf_repeatedFrom_lt (earlier : again ⊆ once) (hx : x ∈ repeatedFrom once again t)
    (hy : y ∈ repeatedFrom once again t) :
    (repeatedFrom once again t).idxOf x < (repeatedFrom once again t).idxOf y ↔
      placeAgain once t x < placeAgain once t y := by
  induction t generalizing once again with
  | nil => simp [repeatedFrom] at hx
  | cons u t ih =>
    have new : ∀ z ∈ repeatedFrom once again (u :: t), z ∉ again :=
      fun z member => ((mem_repeatedFrom earlier).mp member).1
    by_cases told : u ∈ again
    · have found : repeatedFrom once again (u :: t) = repeatedFrom once again t := if_pos told
      have other : ∀ z ∈ repeatedFrom once again (u :: t), u ≠ z :=
        fun z member same => new z member (same ▸ told)
      rw [placeAgain_cons_of_mem (earlier told), placeAgain_cons_of_mem (earlier told),
        if_neg (other x hx), if_neg (other y hy), Nat.add_lt_add_iff_right]
      rw [found] at hx hy ⊢
      exact ih earlier hx hy
    by_cases met : u ∈ once
    · have found : repeatedFrom once again (u :: t) = u :: repeatedFrom once (u :: again) t := by
        rw [repeatedFrom, if_neg told, if_pos met]
      have earlier : u :: again ⊆ once := List.cons_subset.mpr ⟨met, earlier⟩
      rw [found] at hx hy
      rw [found, placeAgain_cons_of_mem met, placeAgain_cons_of_mem met]
      -- The text that is found here has place 0 on both sides.
      by_cases same_y : u = y
      · subst same_y
        simp
      by_cases same_x : u = x
      · subst same_x
        simp [List.idxOf_cons_ne _ same_y, same_y]
      have member_x := List.mem_of_ne_of_mem (Ne.symm same_x) hx
      have member_y := List.mem_of_ne_of_mem (Ne.symm same_y) hy
      rw [List.idxOf_cons_ne _ same_x, List.idxOf_cons_ne _ same_y, if_neg same_x, if_neg same_y,
        Nat.succ_lt_succ_iff, Nat.add_lt_add_iff_right]
      exact ih earlier member_x member_y
    · have found : repeatedFrom once again (u :: t) = repeatedFrom (u :: once) again t := by
        rw [repeatedFrom, if_neg told, if_neg met]
      rw [placeAgain_cons_of_not_mem met, placeAgain_cons_of_not_mem met,
        Nat.add_lt_add_iff_right]
      rw [found] at hx hy ⊢
      exact ih (List.subset_cons_of_subset u earlier) hx hy

theorem idxOf_repeated_lt (hx : x ∈ repeated t) (hy : y ∈ repeated t) :
    (repeated t).idxOf x < (repeated t).idxOf y ↔ secondPlace t x < secondPlace t y := by
  rw [repeated, idxOf_repeatedFrom_lt (List.Subset.refl []) hx hy]
  simp only [placeAgain, List.contains_iff_mem, List.not_mem_nil, if_false]

end Repeated

inductive Headed : List Member → Text → Prop where
  | rest (t : Text) : Headed [] t
  | heading {members : List Member} {t : Text} (front : Text) (m : Member)
      (further : Headed members t) : Headed (m :: members) (front ++ (m.headingLine ++ '\n' :: t))

section Headed

variable {members others : List Member} {s t : Text}

theorem Headed.prepend (headed : Headed members t) (s : Text) : Headed members (s ++ t) := by
  cases headed with
  | rest => exact .rest _
  | heading front m further =>
    rw [← List.append_assoc]
    exact .heading (s ++ front) m further

theorem Headed.append (first : Headed members s) (second : Headed others t) :
    Headed (members ++ others) (s ++ t) := by
  induction first with
  | rest s => exact second.prepend s
  | @heading members s front m further ih =>
    have cut : (front ++ (m.headingLine ++ '\n' :: s)) ++ t =
        front ++ (m.headingLine ++ '\n' :: (s ++ t)) := by simp
    rw [cut]
    exact .heading front m ih

theorem headed_flatMap {α : Type} {member : α → Member} {entry : α → Text}
    (opens : ∀ a, ∃ rest, entry a = (member a).headingLine ++ '\n' :: rest) (l : List α) :
    Headed (l.map member) (l.flatMap entry) := by
  induction l with
  | nil => exact .rest _
  | cons a l ih =>
    obtain ⟨rest, opens⟩ := opens a
    have one : Headed [member a] (entry a) := opens ▸ .heading [] (member a) (.rest rest)
    exact one.append ih

theorem headed_titled {α : Type} {member : α → Member} {entry : α → Text} (title : String)
    (opens : ∀ a, ∃ rest, entry a = (member a).headingLine ++ '\n' :: rest) (l : List α) :
    Headed (l.map member) (titled title entry l) := by
  unfold titled
  split
  · rename_i empty
    rw [List.isEmpty_iff.mp empty]
    exact .rest _
  · exact (headed_flatMap opens l).prepend _

theorem Document.headed_page (d : Document) (setting : Setting) :
    Headed d.members (d.page setting) := by
  unfold Document.page
  rw [List.append_assoc]
  have properties := headed_titled "Properties" Property.entry_opens d.properties
  have methods := headed_titled "Methods" (Method.entry_opens setting.fenceLanguage) d.methods
  exact (properties.append methods).prepend _

end Headed

namespace Document

/-- The report names the anchors that two members have, each once.  It is empty where no two of the
headings that a page prints, one for each member, set the same anchor. -/
structure ReportsShared (d : Document) : Prop where
  shared : ∀ anchor, anchor ∈ d.sharedAnchors ↔
    2 ≤ (d.members.filter fun m => m.anchor = anchor).length
  once : d.sharedAnchors.Nodup
  printed : ∀ setting, Headed d.members (d.page setting)
  silent : d.sharedAnchors = [] ↔ d.members.Pairwise fun m n => m.anchor ≠ n.anchor

/-- Anchors of properties are reported before those of methods, and none belongs to both. -/
def ReportsByKind (d : Document) : Prop :=
  ∃ ofProperties ofMethods, d.sharedAnchors = ofProperties ++ ofMethods ∧
    (∀ anchor ∈ ofProperties,
      (∃ p ∈ d.properties, p.anchor = anchor) ∧ ∀ m ∈ d.methods, m.anchor ≠ anchor) ∧
    ∀ anchor ∈ ofMethods,
      (∃ m ∈ d.methods, m.anchor = anchor) ∧ ∀ p ∈ d.properties, p.anchor ≠ anchor

theorem mem_sharedAnchors {d : Document} {anchor : Text} :
    anchor ∈ d.sharedAnchors ↔ 2 ≤ (d.members.filter fun m => m.anchor = anchor).length := by
  rw [sharedAnchors, mem_repeated, List.duplicate_iff_two_le_count]
  unfold List.count anchors
  rw [List.countP_map, List.countP_eq_length_filter]
  rfl

theorem sharedAnchors_eq_nil {d : Document} :
    d.sharedAnchors = [] ↔ d.members.Pairwise fun m n => m.anchor ≠ n.anchor := by
  have nodup : d.anchors.Nodup ↔ d.members.Pairwise fun m n => m.anchor ≠ n.anchor :=
    List.pairwise_map
  rw [← nodup, List.nodup_iff_forall_not_duplicate, List.eq_nil_iff_forall_not_mem]
  exact forall_congr' fun anchor => not_congr mem_repeated

theorem reportsByKind_of_apart {d : Document}
    (apart : ∀ p ∈ d.properties, ∀ m ∈ d.methods, p.anchor ≠ m.anchor) : d.ReportsByKind := by
  have cut : d.anchors =
      d.properties.map (fun p => p.anchor) ++ d.methods.map fun m => m.anchor := by
    simp only [anchors, members, List.map_append, List.map_map, Function.comp_def]
  refine ⟨repeated (d.properties.map fun p => p.anchor),
    repeated (d.methods.map fun m => m.anchor), ?_, ?_, ?_⟩
  · rw [sharedAnchors, cut]
    apply repeated_append
    intro anchor property method
    obtain ⟨p, listed, rfl⟩ := List.mem_map.mp property
    obtain ⟨m, listed', same⟩ := List.mem_map.mp method
    exact apart p listed m listed' same.symm
  · intro anchor reported
    obtain ⟨p, listed, rfl⟩ := List.mem_map.mp (mem_repeated.mp reported).mem
    exact ⟨⟨p, listed, rfl⟩, fun m listed' => (apart p listed m listed').symm⟩
  · intro anchor reported
    obtain ⟨m, listed, rfl⟩ := List.mem_map.mp (mem_repeated.mp reported).mem
    exact ⟨⟨m, listed, rfl⟩, fun p listed' => apart p listed' m listed⟩

/-- Of every document, and of every one that a run has made: there anchors of different kinds begin
differently. -/
theorem sharedAnchors_exact : (∀ d : Document, d.ReportsShared) ∧
    ∀ declaration gatherings, (gathered declaration gatherings).linked.ReportsByKind := by
  refine ⟨fun d => ⟨fun _ => mem_sharedAnchors, nodup_repeated _, d.headed_page,
    sharedAnchors_eq_nil⟩, fun declaration gatherings => reportsByKind_of_apart ?_⟩
  intro p listed m listed'
  rw [(gathered_linked_properties declaration gatherings).anchored p listed,
    (gathered_linked_methods declaration gatherings).anchored m listed']
  exact anchor_ne p.name m.name

/-- The first two texts equal to `y` stand between the first two equal to `x`. -/
def Encloses (texts : List Text) (x y : Text) : Prop :=
  texts.idxOf x < texts.idxOf y ∧ secondPlace texts y < secondPlace texts x

/-- Shared anchors are reported in the order of their second members.  This is the order of their
first members too, unless the first two members with one of the anchors come between those with the
other. -/
theorem sharedAnchors_ordered {d : Document} {x y : Text} (hx : x ∈ d.sharedAnchors)
    (hy : y ∈ d.sharedAnchors) :
    (d.sharedAnchors.idxOf x < d.sharedAnchors.idxOf y ↔
        secondPlace d.anchors x < secondPlace d.anchors y) ∧
      ((d.sharedAnchors.idxOf x < d.sharedAnchors.idxOf y ↔
          d.anchors.idxOf x < d.anchors.idxOf y) ↔
        ¬Encloses d.anchors x y ∧ ¬Encloses d.anchors y x) := by
  have second : d.sharedAnchors.idxOf x < d.sharedAnchors.idxOf y ↔
      secondPlace d.anchors x < secondPlace d.anchors y := idxOf_repeated_lt hx hy
  refine ⟨second, ?_⟩
  by_cases same : x = y
  · subst same
    simp [Encloses]
  have first_apart : d.anchors.idxOf x ≠ d.anchors.idxOf y :=
    fun places => same ((List.idxOf_inj (mem_repeated.mp hx).mem).mp places)
  have second_apart : secondPlace d.anchors x ≠ secondPlace d.anchors y := by
    intro places
    have back : d.sharedAnchors.idxOf y < d.sharedAnchors.idxOf x ↔
        secondPlace d.anchors y < secondPlace d.anchors x := idxOf_repeated_lt hy hx
    have apart : d.sharedAnchors.idxOf x ≠ d.sharedAnchors.idxOf y :=
      fun places => same ((List.idxOf_inj hx).mp places)
    omega
  unfold Encloses
  omega

def ofNames (names : List String) : Document where
  declaration := ⟨"Tally".toList, .classType, none⟩
  properties := names.map fun name => ⟨.of .property name.toList none, "Int".toList⟩
  methods := []

/- The first names cross, so that the orders agree; the second ones enclose each other. -/
def crossing : Document := ofNames ["Ab", "cd", "aB", "CD"]
def enclosing : Document := ofNames ["Ab", "cd", "CD", "aB"]

theorem sharedAnchors_ordered_crossing :
    "property-ab".toList ∈ crossing.sharedAnchors ∧ "property-cd".toList ∈ crossing.sharedAnchors ∧
      crossing.sharedAnchors.idxOf "property-ab".toList <
        crossing.sharedAnchors.idxOf "property-cd".toList ∧
      (crossing.sharedAnchors.idxOf "property-ab".toList <
          crossing.sharedAnchors.idxOf "property-cd".toList ↔
        secondPlace crossing.anchors "property-ab".toList <
          secondPlace crossing.anchors "property-cd".toList) ∧
      ¬Encloses crossing.anchors "property-ab".toList "property-cd".toList := by
  have first : "property-ab".toList ∈ crossing.sharedAnchors := by decide +kernel
  have second : "property-cd".toList ∈ crossing.sharedAnchors := by decide +kernel
  obtain ⟨bySecond, agree⟩ := sharedAnchors_ordered first second
  have before : crossing.sharedAnchors.idxOf "property-ab".toList <
      crossing.sharedAnchors.idxOf "property-cd".toList := by decide +kernel
  have firsts : crossing.anchors.idxOf "property-ab".toList <
      crossing.anchors.idxOf "property-cd".toList := by decide +kernel
  exact ⟨first, second, before, bySecond, (agree.mp (iff_of_true before firsts)).1⟩

theorem not_sharedAnchors_firstSeen :
    ¬∀ (d : Document) (x y : Text), x ∈ d.sharedAnchors → y ∈ d.sharedAnchors →
      (d.sharedAnchors.idxOf x < d.sharedAnchors.idxOf y ↔
        d.anchors.idxOf x < d.anchors.idxOf y) := by
  intro claim
  have order := claim enclosing "property-ab".toList "property-cd".toList (by decide +kernel)
    (by decide +kernel)
  revert order
  decide +kernel

end Document
end ReferencePage
