import Mathlib.Data.List.Basic
import ReferencePage.Document.Anchor
import ReferencePage.Proofs.Folding
import ReferencePage.Proofs.Pieces
import ReferencePage.Proofs.Words

/-! Linking, word by word.  Where every name is one word, the order of the targets by length and the
test for overlaps decide nothing: each maximal word of a text is looked up alone, in the order of
the members. -/
namespace ReferencePage

open Text

/-- A word, or the link to the first member whose name equals it up to case. -/
def linkedWord (members : List Member) (word : Text) : Text :=
  match members.find? fun m => m.name.map fold = word.map fold with
  | some m => '[' :: m.name ++ "](#".toList ++ m.anchor ++ [')']
  | none => word

def linkedRun (members : List Member) (run : Text) : Text :=
  if run.all isWord then linkedWord members run else run

/-- A text with each of its maximal words looked up among the members. -/
def linkedWords (members : List Member) (text : Text) : Text :=
  (runs text).flatMap (linkedRun members)

/-- A stable sort keeps the order of the elements that it has no reason to move past each other. -/
theorem filter_mergeSort {α : Type} {le : α → α → Bool} {p : α → Bool} {l : List α}
    (trans : ∀ a b c, le a b → le b c → le a c) (total : ∀ a b, le a b || le b a)
    (tied : ∀ a b, p a → p b → le a b) : (l.mergeSort le).filter p = l.filter p := by
  have ordered : (l.filter p).Pairwise fun a b => le a b := by
    apply List.pairwise_of_forall_mem_list
    intro a ha b hb
    exact tied a b (List.mem_filter.mp ha).2 (List.mem_filter.mp hb).2
  have kept : (l.filter p).filter p = l.filter p := by simp [List.filter_filter]
  have within : (l.filter p).Sublist ((l.mergeSort le).filter p) := by
    rw [← kept]
    exact (List.sublist_mergeSort trans total ordered List.filter_sublist).filter p
  have sizes : (l.filter p).length = ((l.mergeSort le).filter p).length :=
    ((List.mergeSort_perm l le).filter p).length_eq.symm
  exact (within.eq_of_length sizes).symm

section ByLength

variable (s t u : Target)

theorem longer_trans (st : decide (t.name.length ≤ s.name.length))
    (tu : decide (u.name.length ≤ t.name.length)) : decide (u.name.length ≤ s.name.length) := by
  simp only [decide_eq_true_eq] at *
  omega

theorem longer_total :
    decide (t.name.length ≤ s.name.length) || decide (s.name.length ≤ t.name.length) := by
  simp only [Bool.or_eq_true, decide_eq_true_eq]
  omega

end ByLength

theorem find?_byLength (targets : List Target) {word : Text} (nonempty : word ≠ []) :
    (byLength targets).find? (fun t => t.name.map fold = word.map fold) =
      targets.find? fun t => t.name.map fold = word.map fold := by
  unfold byLength
  rw [← List.head?_filter, filter_mergeSort longer_trans longer_total, List.head?_filter,
    List.find?_filter]
  · congr 1
    funext t
    by_cases same : t.name.map fold = word.map fold
    · have named : t.name ≠ [] := by
        intro empty
        rw [empty, List.map_nil] at same
        exact nonempty (List.map_eq_nil_iff.mp same.symm)
      simp [same, named]
    · simp [same]
  · intro s t hs ht
    have hs := congrArg List.length (of_decide_eq_true hs)
    have ht := congrArg List.length (of_decide_eq_true ht)
    simp only [List.length_map] at hs ht
    exact decide_eq_true (by omega)

variable {targets : List Target} {text : Text}

theorem Mention.Stands.wordAt {m : Mention} {before found after : Text}
    (stands : m.Stands text before found after) (name : OneWord m.target.name) :
    WordAt text m.start m.stop := by
  have word : OneWord found :=
    ⟨stands.found_ne_nil name.1, isWord_of_fold stands.folded name.2⟩
  obtain ⟨c, first, isWord_c⟩ := word.exists_head? after
  obtain ⟨d, last, isWord_d⟩ := word.exists_getLast? before
  have opens := stands.opens
  have closes := stands.closes
  rw [border, first, Option.any_some, isWord_c, Bool.bne_true, Bool.not_eq_true'] at opens
  rw [border, last, Option.any_some, isWord_d, Bool.true_bne, Bool.not_eq_true'] at closes
  rw [stands.start, stands.stop]
  exact wordAt_of_cut stands.cut word opens closes

theorem Mention.Stands.folded_of_place {m : Mention} {before found after before' word after' : Text}
    (stands : m.Stands text before found after) (cut : text = before' ++ (word ++ after'))
    (start : m.start = before'.length) (stop : m.stop = before'.length + word.length) :
    m.target.name.map fold = word.map fold :=
  (stands.at_place cut start stop).folded.symm

/-- The mention of a target at the word between `before` and `after`. -/
def mentionOf (before word : Text) (target : Target) : Mention :=
  ⟨before.length, before.length + word.length, target⟩

theorem eq_mentionOf {before word : Text} {target : Target} {m : Mention}
    (start : before.length = m.start) (stop : before.length + word.length = m.stop)
    (aim : m.target = target) : mentionOf before word target = m := by
  obtain ⟨first, last, aimed⟩ := m
  simp_all [mentionOf]

section Accepted

variable {before word after : Text}

theorem stands_mentionOf {target : Target} (cut : text = before ++ (word ++ after))
    (isOne : OneWord word) (opens : before.getLast?.any isWord = false)
    (closes : after.head?.any isWord = false) (same : target.name.map fold = word.map fold) :
    (mentionOf before word target).Stands text before word after := by
  refine ⟨cut, rfl, rfl, same.symm, ?_, ?_⟩
  · obtain ⟨c, first, isWord_c⟩ := isOne.exists_head? after
    simp [border, opens, first, isWord_c]
  · obtain ⟨c, last, isWord_c⟩ := isOne.exists_getLast? before
    simp [border, closes, last, isWord_c]

variable (names : ∀ t ∈ targets, OneWord t.name)
include names

theorem wordAt_of_mem_accepted {m : Mention} (member : m ∈ accepted targets text) :
    WordAt text m.start m.stop := by
  obtain ⟨⟨known, -⟩, before, found, after, stands⟩ := stands_of_mem_accepted member
  exact stands.wordAt (names _ known)

theorem mentionOf_mem_mentions {target : Target} (known : target ∈ targets)
    (cut : text = before ++ (word ++ after)) (isOne : OneWord word)
    (opens : before.getLast?.any isWord = false) (closes : after.head?.any isWord = false)
    (same : target.name.map fold = word.map fold) :
    mentionOf before word target ∈ target.mentions text := by
  have stands := stands_mentionOf cut isOne opens closes same
  have here := stands.wordAt (names _ known)
  obtain ⟨n, member, place⟩ := mem_mentions_of_stands stands (names _ known).1
  obtain ⟨aim, before', found, after', there⟩ := stands_of_mem_mentions member
  have other := there.wordAt (aim ▸ names _ known)
  have := other.order
  have := here.order
  obtain ⟨start, stop⟩ := here.unique other (by omega) (by omega)
  rw [show mentionOf before word target = n from eq_mentionOf start stop aim]
  exact member

omit names in
theorem target_eq_of_mem_split {target : Target} {sooner : List Target} {left : List Mention}
    (others : ∀ t ∈ sooner, t.name.map fold ≠ word.map fold)
    (listed : ∀ n ∈ left, n ∈ target.mentions text) {n : Mention}
    (folded : n.target.name.map fold = word.map fold)
    (earlier : n ∈ sooner.flatMap (Target.mentions text) ++ left) : n.target = target := by
  rcases List.mem_append.mp earlier with sooner_mention | same_mention
  · obtain ⟨t, in_sooner, mentioned⟩ := List.mem_flatMap.mp sooner_mention
    obtain ⟨rfl, -⟩ := stands_of_mem_mentions mentioned
    exact absurd folded (others _ in_sooner)
  · exact (stands_of_mem_mentions (listed n same_mention)).1

theorem mentionOf_mem_accepted {target : Target} (cut : text = before ++ (word ++ after))
    (isOne : OneWord word) (opens : before.getLast?.any isWord = false)
    (closes : after.head?.any isWord = false)
    (first : targets.find? (fun t => t.name.map fold = word.map fold) = some target) :
    mentionOf before word target ∈ accepted targets text := by
  have same : target.name.map fold = word.map fold := by simpa using List.find?_some first
  have known := List.mem_of_find?_eq_some first
  have here := (stands_mentionOf cut isOne opens closes same).wordAt (names _ known)
  have member := mentionOf_mem_mentions names known cut isOne opens closes same
  rw [← find?_byLength targets isOne.1] at first
  obtain ⟨-, sooner, later, order, others⟩ := List.find?_eq_some_iff_append.mp first
  obtain ⟨left, right, split⟩ := List.append_of_mem member
  have whole : accepted targets text = ((sooner.flatMap (Target.mentions text) ++ left) ++
      mentionOf before word target :: (right ++ later.flatMap (Target.mentions text))).foldl
        accept [] := by
    simp [accepted, order, split]
  have choice := mem_foldl_accept_or_overlaps (m := mentionOf before word target)
    (sooner.flatMap (Target.mentions text) ++ left) (right ++ later.flatMap (Target.mentions text))
  rw [← whole] at choice
  rcases choice with yes | no
  · exact yes
  · -- What overlaps it has the same place, so its target has the same name up to case.
    obtain ⟨n, earlier, accepts, overlaps⟩ := no
    obtain ⟨⟨known', -⟩, before', found, after', there⟩ := stands_of_mem_accepted accepts
    have other := wordAt_of_mem_accepted names accepts
    simp only [Mention.overlaps, Bool.and_eq_true, decide_eq_true_eq] at overlaps
    obtain ⟨start, stop⟩ := here.unique other overlaps.1 overlaps.2
    have folded := there.folded_of_place cut start.symm stop.symm
    have listed : ∀ n ∈ left, n ∈ target.mentions text := by
      intro n member
      simp [split, member]
    have aim := target_eq_of_mem_split (by simpa using others) listed folded earlier
    rwa [eq_mentionOf start stop aim]

theorem eq_of_mem_accepted {m n : Mention} (hm : m ∈ accepted targets text)
    (hn : n ∈ accepted targets text) (start : m.start = n.start) : m = n := by
  have := (wordAt_of_mem_accepted names hm).order
  have := (wordAt_of_mem_accepted names hn).order
  apply apart_accepted.eq_of_overlaps hm hn
  simp only [Mention.overlaps, Bool.and_eq_true, decide_eq_true_eq]
  omega

theorem free_of_find?_eq_none (cut : text = before ++ (word ++ after)) (isOne : OneWord word)
    (opens : before.getLast?.any isWord = false) (closes : after.head?.any isWord = false)
    (unknown : targets.find? (fun t => t.name.map fold = word.map fold) = none) {m : Mention}
    (member : m ∈ accepted targets text) (behind : before.length ≤ m.start) :
    before.length + word.length ≤ m.start := by
  by_contra inside
  obtain ⟨⟨known, -⟩, before', found, after', stands⟩ := stands_of_mem_accepted member
  have other := wordAt_of_mem_accepted names member
  have := other.order
  obtain ⟨start, stop⟩ := (wordAt_of_cut cut isOne opens closes).unique other (by omega) (by omega)
  have folded := stands.folded_of_place cut start.symm stop.symm
  rw [List.find?_eq_none] at unknown
  exact unknown _ known (by simpa using folded)

theorem free_of_no_word {run : Text} (cut : text = before ++ (run ++ after))
    (outside : ∀ c ∈ run, isWord c = false) {m : Mention} (member : m ∈ accepted targets text)
    (behind : before.length ≤ m.start) : before.length + run.length ≤ m.start := by
  by_contra inside
  have word := wordAt_of_mem_accepted names member
  have first := word.inside m.start (Nat.le_refl _) word.order
  rw [cut, List.getElem?_append_right behind, List.getElem?_append_left (by omega),
    List.getElem?_eq_getElem (by omega), Option.any_some, outside _ (List.getElem_mem _)] at first
  contradiction

end Accepted

theorem linkedWords_append {members : List Member} {kind : Bool} {run rest : Text}
    (nonempty : run ≠ []) (uniform : ∀ c ∈ run, isWord c = kind)
    (changes : ∀ c ∈ rest.head?, isWord c = !kind) :
    linkedWords members (run ++ rest) = linkedRun members run ++ linkedWords members rest := by
  rw [linkedWords, runs_append nonempty uniform changes, List.flatMap_cons, linkedWords]

theorem target_names {members : List Member} (names : ∀ m ∈ members, OneWord m.name) :
    ∀ t ∈ members.map Member.target, OneWord t.name := by
  intro t member
  obtain ⟨m, known, rfl⟩ := List.mem_map.mp member
  exact names m known

theorem replace_word {members : List Member} (names : ∀ m ∈ members, OneWord m.name)
    {before word after : Text} (cut : text = before ++ (word ++ after)) (isOne : OneWord word)
    (opens : before.getLast?.any isWord = false) (closes : after.head?.any isWord = false) :
    let taken := accepted (members.map Member.target) text
    replace taken before.length 0 (word ++ after) =
      linkedWord members word ++ replace taken (before.length + word.length) 0 after := by
  intro taken
  have targets_named := target_names names
  have lookup : (members.map Member.target).find? (fun t => t.name.map fold = word.map fold) =
      (members.find? fun m => m.name.map fold = word.map fold).map Member.target := by
    rw [List.find?_map]
    rfl
  unfold linkedWord
  cases first : members.find? fun m => m.name.map fold = word.map fold with
  | none =>
    rw [first] at lookup
    apply replace_keep
    intro m member behind
    exact free_of_find?_eq_none targets_named cut isOne opens closes lookup member behind
  | some m =>
    rw [first] at lookup
    have member := mentionOf_mem_accepted targets_named cut isOne opens closes lookup
    apply replace_link member
    · intro n other start
      exact eq_of_mem_accepted targets_named other member start
    · exact isOne.1
    · rfl

theorem replace_gap {members : List Member} (names : ∀ m ∈ members, OneWord m.name)
    {before gap after : Text} (cut : text = before ++ (gap ++ after))
    (outside : ∀ c ∈ gap, isWord c = false) :
    let taken := accepted (members.map Member.target) text
    replace taken before.length 0 (gap ++ after) =
      gap ++ replace taken (before.length + gap.length) 0 after := by
  intro taken
  apply replace_keep
  intro m member behind
  exact free_of_no_word (target_names names) cut outside member behind

theorem replace_eq_linkedWords {members : List Member} (names : ∀ m ∈ members, OneWord m.name)
    (rest before : Text) (cut : text = before ++ rest)
    (border : ∀ c ∈ before.getLast?, ∀ d ∈ rest.head?, isWord c = !isWord d) :
    replace (accepted (members.map Member.target) text) before.length 0 rest =
      linkedWords members rest := by
  induction rest using runs_induction generalizing before with
  | nil => rfl
  | cons kind run rest nonempty uniform changes ih =>
    have later := ih (before ++ run) (by rw [cut, List.append_assoc]) (by
      intro c last d first
      rw [List.getLast?_append, List.getLast?_eq_some_getLast nonempty] at last
      cases Option.some.inj last
      rw [uniform _ (List.getLast_mem nonempty), changes d first, Bool.not_not])
    rw [linkedWords_append nonempty uniform changes, ← later, List.length_append]
    cases kind with
    | false =>
      rw [replace_gap names cut uniform, linkedRun, if_neg]
      obtain ⟨c, u, rfl⟩ := List.exists_cons_of_ne_nil nonempty
      simp [uniform c (by simp)]
    | true =>
      have opens : before.getLast?.any isWord = false := by
        cases last : before.getLast? with
        | none => rfl
        | some c =>
          obtain ⟨d, u, rfl⟩ := List.exists_cons_of_ne_nil nonempty
          have other := border c last d (by simp)
          rw [Option.any_some, other, uniform d (by simp), Bool.not_true]
      have closes : rest.head?.any isWord = false := by
        cases first : rest.head? with
        | none => rfl
        | some c => simpa using changes c first
      rw [replace_word names cut ⟨nonempty, uniform⟩ opens closes, linkedRun,
        if_pos (List.all_eq_true.mpr uniform)]

/-- Where every member's name is one word, linking a text is looking up each of its words. -/
theorem linkText_eq_linkedWords (d : Document) (names : ∀ m ∈ d.members, OneWord m.name)
    (text : Text) : linkText d.targets text = linkedWords d.members text :=
  replace_eq_linkedWords names text [] rfl (by simp)

/-- Two names that are the same up to case, and a longer one that begins like them. -/
def counters : Document where
  declaration := ⟨"Box".toList, .classType, none⟩
  properties :=
    [⟨.of .property "Count".toList none, "Int".toList⟩,
      ⟨.of .property "count".toList none, "Int".toList⟩]
  methods := [⟨.of .method "countAll".toList none, [], voidType⟩]

theorem linkText_counters :
    (∀ m ∈ counters.members, OneWord m.name) ∧
      linkText counters.targets "COUNT by countall, recount Counts".toList =
        "[Count](#property-count) by [countAll](#method-countall), recount Counts".toList := by
  have names : ∀ m ∈ counters.members, OneWord m.name := by decide +kernel
  refine ⟨names, ?_⟩
  rw [linkText_eq_linkedWords counters names]
  decide +kernel

end ReferencePage
