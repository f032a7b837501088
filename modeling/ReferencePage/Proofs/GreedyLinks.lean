import Mathlib.Data.List.Basic
import Mathlib.Data.List.Sort
import ReferencePage.Proofs.WordLinks

/-! Linking, whatever the names are.  They may hold blanks and signs, overlap each other, or be
contained in one another; then the order of the targets decides.  Every mention of a target becomes
a link unless it overlaps one of a target that comes before, and all else stays as it is. -/
namespace ReferencePage

open Text

/-- The targets that have a name, longest names first, those of one length in the order given. -/
structure LongestFirst (targets order : List Target) : Prop where
  perm : order.Perm (targets.filter fun t => t.name ≠ [])
  sorted : order.Pairwise fun s t => t.name.length ≤ s.name.length
  stable : ∀ size, order.filter (fun t => t.name.length = size) =
    (targets.filter fun t => t.name ≠ []).filter fun t => t.name.length = size

theorem longestFirst_byLength (targets : List Target) :
    LongestFirst targets (byLength targets) := by
  refine ⟨List.mergeSort_perm _ _, ?_, fun size => ?_⟩
  · exact (List.pairwise_mergeSort longer_trans longer_total _).imp of_decide_eq_true
  · apply filter_mergeSort longer_trans longer_total
    intro s t hs ht
    have hs := of_decide_eq_true hs
    have ht := of_decide_eq_true ht
    exact decide_eq_true (by omega)

def Mention.Occurs (m : Mention) (text : Text) : Prop :=
  ∃ before found after, m.Stands text before found after

/-- The mentions of a target as they are read from left to right, each behind the one before it. -/
structure Target.Reads (target : Target) (text : Text) (ms : List Mention) : Prop where
  occurs : ∀ m ∈ ms, m.target = target ∧ m.Occurs text
  ordered : ms.Pairwise fun m n => m.stop ≤ n.start
  covers : ∀ m : Mention, m.target = target → m.Occurs text →
    ∃ n ∈ ms, n.start ≤ m.start ∧ m.start < n.stop

section Reads

variable {target : Target} {text : Text} {m n : Mention} {ms ns : List Mention}

theorem Mention.Occurs.stop_eq (occurs : m.Occurs text) :
    m.stop = m.start + m.target.name.length := by
  obtain ⟨before, found, after, stands⟩ := occurs
  have sizes := congrArg List.length stands.folded
  rw [List.length_map, List.length_map] at sizes
  rw [stands.stop, stands.start, sizes]

theorem Mention.Occurs.start_lt_stop (occurs : m.Occurs text) (named : m.target.name ≠ []) :
    m.start < m.stop := by
  have := List.length_pos_iff.mpr named
  have := occurs.stop_eq
  omega

theorem reads_mentions (named : target.name ≠ []) : target.Reads text (target.mentions text) := by
  refine ⟨fun m member => stands_of_mem_mentions member, ?ordered, ?covers⟩
  case ordered =>
    have ordered : (scan (mention? target.name) (fun p => p.text.length) text).Pairwise
        fun p q => p.start text + p.text.length ≤ q.start text :=
      (ordered_scanFrom (fun _ _ _ here => (stands_of_succeeds here).start) text [] rfl 0).2
    refine List.pairwise_map.mpr (List.Pairwise.imp_of_mem ?_ ordered)
    intro p q known _ behind
    obtain ⟨before, rest, here⟩ := succeeds_of_mem_scan known
    have start : p.start text = before.length := (stands_of_succeeds here).start
    have stop : p.stop text = before.length + p.text.length := (stands_of_succeeds here).stop
    dsimp only
    omega
  case covers =>
    rintro m rfl ⟨before, found, after, stands⟩
    obtain ⟨n, member, place⟩ := mem_mentions_of_stands stands named
    obtain ⟨aim, occurs⟩ := stands_of_mem_mentions member
    have := Mention.Occurs.start_lt_stop occurs (aim ▸ named)
    exact ⟨n, member, by omega, by omega⟩

theorem Target.Reads.apart (reads : target.Reads text ms) : Apart ms := by
  refine reads.ordered.imp fun behind => ?_
  simp only [Mention.overlaps, Bool.and_eq_false_iff, decide_eq_false_iff_not]
  omega

theorem Target.Reads.subset (named : target.name ≠ []) (first : target.Reads text ms)
    (second : target.Reads text ns) : ms ⊆ ns := by
  intro m
  induction place : m.start using Nat.strong_induction_on generalizing m ms ns with
  | _ k ih =>
    subst place
    intro member
    obtain ⟨aim, occurs⟩ := first.occurs m member
    obtain ⟨n, known, before, inside⟩ := second.covers m aim occurs
    obtain ⟨aim', occurs'⟩ := second.occurs n known
    have stop := occurs.stop_eq
    have stop' := occurs'.stop_eq
    have order := occurs.start_lt_stop (aim ▸ named)
    by_cases same : n.start = m.start
    · obtain rfl : n = m := by
        cases n
        cases m
        simp_all
      exact known
    · -- Otherwise the first reading holds both, and they overlap.
      have both := ih n.start (by omega) second first rfl known
      have overlaps : n.overlaps m = true := by
        simp only [Mention.overlaps, Bool.and_eq_true, decide_eq_true_eq]
        omega
      exact first.apart.eq_of_overlaps both member overlaps ▸ known

theorem Target.Reads.sorted (named : target.name ≠ []) (reads : target.Reads text ms) :
    ms.Pairwise fun m n => m.start < n.start := by
  refine List.Pairwise.imp_of_mem ?_ reads.ordered
  intro m n member _ behind
  obtain ⟨aim, occurs⟩ := reads.occurs m member
  exact (occurs.start_lt_stop (aim ▸ named)).trans_le behind

theorem Target.reads_iff (named : target.name ≠ []) :
    target.Reads text ms ↔ ms = target.mentions text := by
  constructor
  · intro reads
    have scanned : target.Reads text (target.mentions text) := reads_mentions named
    have : Std.Antisymm fun m n : Mention => m.start < n.start :=
      ⟨fun _ _ one other => absurd other one.asymm⟩
    have : Std.Irrefl fun m n : Mention => m.start < n.start := ⟨fun m => Nat.lt_irrefl m.start⟩
    refine (reads.sorted named).eq_of_mem_iff (scanned.sorted named) fun m => ⟨?_, ?_⟩
    · exact fun member => reads.subset named scanned member
    · exact fun member => scanned.subset named reads member
  · rintro rfl
    exact reads_mentions named

end Reads

structure Cut where
  gap : Text
  found : Text
  target : Target

namespace Cut

def source (c : Cut) : Text := c.gap ++ c.found

def result (c : Cut) : Text := c.gap ++ c.target.link

def mention (before : Text) (c : Cut) : Mention :=
  ⟨(before ++ c.gap).length, (before ++ c.source).length, c.target⟩

def mentions (before : Text) : List Cut → List Mention
  | [] => []
  | c :: cuts => c.mention before :: mentions (before ++ c.source) cuts

theorem mentions_append (before : Text) (front back : List Cut) :
    mentions before (front ++ back) =
      mentions before front ++ mentions (before ++ front.flatMap source) back := by
  induction front generalizing before with
  | nil => simp [mentions]
  | cons c front ih => simp [mentions, ih]

end Cut

/-- A text is `gap found gap found … last`.  Whatever is found is the name of a target, and each
mention of a target is found for it unless one of a target that comes before overlaps it. -/
structure CutGreedily (order : List Target) (text : Text) (cuts : List Cut) (last : Text) :
    Prop where
  whole : text = cuts.flatMap Cut.source ++ last
  stands : ∀ front c back, cuts = front ++ c :: back → c.target ∈ order ∧
    (c.mention (front.flatMap Cut.source)).Stands text (front.flatMap Cut.source ++ c.gap) c.found
      (back.flatMap Cut.source ++ last)
  reads : ∀ t ∈ order, ∃ ms, t.Reads text ms
  greedy : ∀ before t after, order = before ++ t :: after → ∀ ms, t.Reads text ms → ∀ m ∈ ms,
    m ∈ Cut.mentions [] cuts ∨ ∃ n ∈ Cut.mentions [] cuts, n.target ∈ before ∧ m.overlaps n = true

/-- The mentions taken that start at a place or behind it, from left to right. -/
structure TakenFrom (taken : List Mention) (place : Nat) (ms : List Mention) : Prop where
  ordered : ms.Pairwise fun m n => m.stop ≤ n.start
  mem_iff : ∀ m, m ∈ ms ↔ m ∈ taken ∧ place ≤ m.start

namespace TakenFrom

variable {taken ms : List Mention} {place : Nat} {m n : Mention}

theorem eq_or_behind (listed : TakenFrom taken place (m :: ms)) (member : n ∈ taken)
    (behind : place ≤ n.start) : n = m ∨ n ∈ ms ∧ m.stop ≤ n.start := by
  rcases List.mem_cons.mp ((listed.mem_iff n).mpr ⟨member, behind⟩) with rfl | later
  · exact .inl rfl
  · exact .inr ⟨later, (List.pairwise_cons.mp listed.ordered).1 n later⟩

theorem tail (listed : TakenFrom taken place (m :: ms)) (order : m.start < m.stop) :
    TakenFrom taken m.stop ms := by
  obtain ⟨behind, ordered⟩ := List.pairwise_cons.mp listed.ordered
  have first := ((listed.mem_iff m).mp List.mem_cons_self).2
  refine ⟨ordered, fun n => ⟨fun later => ?_, ?_⟩⟩
  · exact ⟨((listed.mem_iff n).mp (List.mem_cons_of_mem m later)).1, behind n later⟩
  · rintro ⟨member, after⟩
    rcases listed.eq_or_behind member (by omega) with rfl | ⟨later, -⟩
    · omega
    · exact later

end TakenFrom

theorem Mention.Stands.mention_eq {m : Mention} {text before gap found after : Text}
    (stands : m.Stands text (before ++ gap) found after) :
    Cut.mention before ⟨gap, found, m.target⟩ = m := by
  obtain ⟨start, stop, target⟩ := m
  obtain rfl := stands.start
  obtain rfl := stands.stop
  simp [Cut.mention, Cut.source, Nat.add_assoc]

theorem Mention.Stands.behind {m : Mention} {text front found after before rest : Text}
    (stands : m.Stands text front found after) (cut : text = before ++ rest)
    (later : before.length ≤ m.start) :
    ∃ gap, front = before ++ gap ∧ rest = gap ++ (found ++ after) := by
  obtain ⟨gap, rfl⟩ : before <+: front :=
    List.prefix_of_prefix_length_le ⟨rest, cut.symm⟩ ⟨found ++ after, stands.cut.symm⟩
      (by rw [← stands.start]; exact later)
  have same := cut.symm.trans stands.cut
  rw [List.append_assoc, List.append_cancel_left_eq] at same
  exact ⟨gap, rfl, same⟩

section Cuts

variable {taken : List Mention} {text : Text}

theorem exists_cuts (occurs : ∀ m ∈ taken, m.target.name ≠ [] ∧ m.Occurs text) {ms : List Mention}
    {before rest : Text} (listed : TakenFrom taken before.length ms) (cut : text = before ++ rest) :
    ∃ cuts last, rest = cuts.flatMap Cut.source ++ last ∧
      replace taken before.length 0 rest = cuts.flatMap Cut.result ++ last ∧
      Cut.mentions before cuts = ms := by
  induction ms generalizing before rest with
  | nil =>
    have kept : replace taken before.length 0 (rest ++ []) =
        rest ++ replace taken (before.length + rest.length) 0 [] :=
      replace_keep rest before.length fun m member behind =>
        absurd ((listed.mem_iff m).mpr ⟨member, behind⟩) List.not_mem_nil
    exact ⟨[], rest, rfl, by simpa [replace] using kept, rfl⟩
  | cons m ms ih =>
    obtain ⟨member, later⟩ := (listed.mem_iff m).mp List.mem_cons_self
    obtain ⟨named, front, found, after, stands⟩ := occurs m member
    obtain ⟨gap, rfl, rfl⟩ := stands.behind cut later
    have nonempty := stands.found_ne_nil named
    have order := Mention.Occurs.start_lt_stop ⟨_, found, after, stands⟩ named
    have start : m.start = before.length + gap.length := by rw [stands.start, List.length_append]
    have stop : m.stop = m.start + found.length := by rw [stands.stop, stands.start]
    have place : (before ++ (gap ++ found)).length = m.stop := by
      simp only [stop, start, List.length_append, Nat.add_assoc]
    have next : text = (before ++ (gap ++ found)) ++ after := by
      rw [stands.cut]
      simp only [List.append_assoc]
    obtain ⟨cuts, last, source, result, links⟩ := ih (place ▸ listed.tail order) next
    refine ⟨⟨gap, found, m.target⟩ :: cuts, last, ?source, ?result, ?links⟩
    case source => simp [Cut.source, source]
    case result =>
      have free : ∀ n ∈ taken, before.length ≤ n.start → before.length + gap.length ≤ n.start := by
        intro n known behind
        rcases listed.eq_or_behind known behind with rfl | ⟨-, after⟩ <;> omega
      have alone : ∀ n ∈ taken, n.start = m.start → n = m := by
        intro n known same
        rcases listed.eq_or_behind known (by omega) with rfl | ⟨-, after⟩
        · rfl
        · omega
      rw [replace_keep gap before.length free, ← start, replace_link member alone nonempty stop,
        ← stop, ← place, result]
      simp [Cut.result]
    case links => rw [Cut.mentions, Cut.source, links, stands.mention_eq]

end Cuts

variable {targets : List Target} {text : Text}

theorem exists_takenFrom_accepted (targets : List Target) (text : Text) :
    ∃ ms, TakenFrom (accepted targets text) 0 ms := by
  let ms := (accepted targets text).mergeSort fun m n => m.start ≤ n.start
  have perm : ms.Perm (accepted targets text) := List.mergeSort_perm _ _
  have sorted : ms.Pairwise fun m n => m.start ≤ n.start :=
    (List.pairwise_mergeSort (by simp; omega) (by simp; omega) _).imp of_decide_eq_true
  have apart : Apart ms := apart_accepted.perm perm.symm fun {m n} free =>
    (Mention.overlaps_comm n m).trans free
  refine ⟨ms, (sorted.and apart).imp_of_mem ?_, fun m => by simp [perm.mem_iff]⟩
  rintro m n - member ⟨order, free⟩
  obtain ⟨⟨-, named⟩, occurs⟩ := stands_of_mem_accepted (perm.mem_iff.mp member)
  have := Mention.Occurs.start_lt_stop occurs named
  simp only [Mention.overlaps, Bool.and_eq_false_iff, decide_eq_false_iff_not] at free
  omega

/-- A mention of a target is accepted, or it overlaps one that was accepted for a target that comes
before it.  Two mentions of one target never overlap. -/
theorem mem_accepted_or_overlaps {before after : List Target} {t : Target}
    (order : byLength targets = before ++ t :: after) {m : Mention} (member : m ∈ t.mentions text) :
    m ∈ accepted targets text ∨
      ∃ n ∈ accepted targets text, n.target ∈ before ∧ m.overlaps n = true := by
  have named : t.name ≠ [] := (mem_byLength.mp (order ▸ List.mem_append_right before
    List.mem_cons_self)).2
  obtain ⟨left, right, split⟩ := List.append_of_mem member
  have choice := mem_foldl_accept_or_overlaps (m := m)
    (before.flatMap (Target.mentions text) ++ left) (right ++ after.flatMap (Target.mentions text))
  have whole : accepted targets text = ((before.flatMap (Target.mentions text) ++ left) ++
      m :: (right ++ after.flatMap (Target.mentions text))).foldl accept [] := by
    simp [accepted, order, split]
  rw [← whole] at choice
  refine choice.imp_right ?_
  -- What came before it is a mention of a target that comes before, or of the same one.
  rintro ⟨n, earlier, accepts, overlaps⟩
  refine ⟨n, accepts, ?_, overlaps⟩
  rcases List.mem_append.mp earlier with sooner | same
  · obtain ⟨u, known, mentioned⟩ := List.mem_flatMap.mp sooner
    exact (stands_of_mem_mentions mentioned).1 ▸ known
  · have reads : t.Reads text (t.mentions text) := reads_mentions named
    have ordered := reads.ordered
    rw [split] at ordered
    have behind := (List.pairwise_append.mp ordered).2.2 n same m List.mem_cons_self
    simp only [Mention.overlaps, Bool.and_eq_true, decide_eq_true_eq] at overlaps
    omega

theorem cutGreedily {cuts : List Cut} {last : Text}
    (whole : text = cuts.flatMap Cut.source ++ last)
    (links : ∀ m, m ∈ Cut.mentions [] cuts ↔ m ∈ accepted targets text) :
    CutGreedily (byLength targets) text cuts last := by
  refine ⟨whole, ?stands, ?reads, ?greedy⟩
  case stands =>
    rintro front c back rfl
    have member : c.mention (front.flatMap Cut.source) ∈ accepted targets text := by
      rw [← links, Cut.mentions_append, Cut.mentions]
      simp
    obtain ⟨known, before, found, after, stands⟩ := stands_of_mem_accepted member
    refine ⟨mem_byLength.mpr known, stands.at_place ?_ rfl ?_⟩
    · rw [whole]
      simp [Cut.source]
    · simp [Cut.mention, Cut.source, Nat.add_assoc]
  case reads =>
    intro t known
    exact ⟨_, reads_mentions (mem_byLength.mp known).2⟩
  case greedy =>
    intro before t after order ms reads m member
    have named : t.name ≠ [] := (mem_byLength.mp (order ▸ List.mem_append_right before
      List.mem_cons_self)).2
    rw [(t.reads_iff named).mp reads] at member
    simpa only [links] using mem_accepted_or_overlaps order member

/-- Linking is the greedy choice: with the targets ordered by length, each mention of a target
becomes a link where no link to a target that comes before overlaps it. -/
theorem Document.linkText_greedy (d : Document) (text : Text) :
    ∃ order, LongestFirst d.targets order ∧ ∃ cuts last, CutGreedily order text cuts last ∧
      linkText d.targets text = cuts.flatMap Cut.result ++ last := by
  obtain ⟨ms, listed⟩ := exists_takenFrom_accepted d.targets text
  have occurs : ∀ m ∈ accepted d.targets text, m.target.name ≠ [] ∧ m.Occurs text := by
    intro m member
    obtain ⟨⟨-, named⟩, occurs⟩ := stands_of_mem_accepted member
    exact ⟨named, occurs⟩
  have front : TakenFrom (accepted d.targets text) ([] : Text).length ms := listed
  obtain ⟨cuts, last, whole, result, links⟩ := exists_cuts occurs front rfl
  refine ⟨byLength d.targets, longestFirst_byLength d.targets, cuts, last, ?_, result⟩
  refine cutGreedily whole fun m => ?_
  rw [links, listed.mem_iff]
  simp

end ReferencePage
