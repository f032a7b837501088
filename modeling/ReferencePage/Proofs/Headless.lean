import ReferencePage.Proofs.AttachedHeads

/-! Where no head begins.  Heads begin with a keyword, which is a maximal word with another one
behind it; blanks, marks and other words hold none. -/
namespace ReferencePage

open Text

variable {keywords : List Text}

/-- No head that stands behind the text in front begins in `u`, where `t` follows. -/
def Headless (keywords : List Text) (u t : Text) : Prop :=
  ∀ (head : NamedHead keywords) (s before after : Text),
    head.StandsIn (s ++ (u ++ t)) before after → s <+: before → s ++ u <+: before

variable {u v w s t before after : Text} {head : NamedHead keywords}

theorem headless_nil : Headless keywords [] t := by
  intro head s before after stands behind
  rwa [List.append_nil]

theorem Headless.append (first : Headless keywords u (v ++ t)) (second : Headless keywords v t) :
    Headless keywords (u ++ v) t := by
  intro head s before after stands behind
  rw [List.append_assoc] at stands
  have between := first head s before after stands behind
  rw [← List.append_assoc] at stands ⊢
  exact second head (s ++ u) before after stands between

variable (keys : HeadKeywords keywords)
include keys

theorem NamedHead.StandsIn.behind_or_inside (stands : head.StandsIn (s ++ (u ++ t)) before after)
    (behind : s <+: before) : s ++ u <+: before ∨
      ∃ a c v, u = a ++ c :: v ∧ before = s ++ a ∧ isWord c = true ∧
        head.text ++ after = c :: v ++ t := by
  obtain ⟨a, rfl⟩ := behind
  have cut : u ++ t = a ++ (head.text ++ after) :=
    List.append_cancel_left (stands.cut.trans (List.append_assoc _ _ _))
  rcases List.append_eq_append_iff.mp cut with ⟨b, rfl, -⟩ | ⟨b, rfl, same⟩
  · left
    rw [← List.append_assoc]
    exact List.prefix_append _ b
  · cases b with
    | nil =>
      left
      rw [List.append_nil]
    | cons c v =>
      refine .inr ⟨a, c, v, rfl, rfl, ?_, same⟩
      obtain ⟨d, first, word⟩ :=
        (keys.words _ head.known).exists_head? (head.blanks ++ (head.name ++ after))
      rw [← head.text_append, same] at first
      cases first
      exact word

theorem headless_gap (gap : ∀ c ∈ u, isWord c = false) : Headless keywords u t := by
  intro head s before after stands behind
  rcases stands.behind_or_inside keys behind with done | ⟨a, c, v, rfl, -, word, -⟩
  · exact done
  · rw [gap c (by simp)] at word
    contradiction

theorem NamedHead.StandsIn.behind_or_keyword
    (stands : head.StandsIn (s ++ (w ++ t)) before after) (behind : s <+: before) (one : OneWord w)
    (ends : ∀ c ∈ t.head?, isWord c = false) : s ++ w <+: before ∨
      before = s ∧ w = head.keyword ∧ t = head.blanks ++ (head.name ++ after) := by
  rcases stands.behind_or_inside keys behind with done | ⟨a, c, v, rfl, rfl, -, same⟩
  · exact .inl done
  right
  cases last : a.getLast? with
  | none =>
    rw [List.getLast?_eq_none_iff.mp last, List.nil_append] at one ⊢
    have read := word?_append one ends
    rw [← same, head.word?_text keys.words after] at read
    obtain ⟨keyword, rest⟩ := Passage.mk.inj (Option.some.inj read)
    exact ⟨List.append_nil s, keyword.symm, rest.symm⟩
  | some d =>
    have starts := stands.starts
    rw [List.getLast?_append, last, Option.some_or, wordMayStart, Option.any_some,
      one.2 d (List.mem_append_left _ (List.mem_of_getLast? last))] at starts
    contradiction

/-- A maximal word that is no keyword begins no head, and no head begins inside of it. -/
theorem headless_word (one : OneWord w) (other : w ∉ keywords)
    (ends : ∀ c ∈ t.head?, isWord c = false) : Headless keywords w t := by
  intro head s before after stands behind
  rcases stands.behind_or_keyword keys behind one ends with done | ⟨-, keyword, -⟩
  · exact done
  · exact absurd (keyword ▸ head.known) other

theorem headless_last_word (one : OneWord w) (ends : ∀ c ∈ t.head?, isWord c = false)
    (last : ∀ c ∈ (trimStart t).head?, isWord c = false) : Headless keywords w t := by
  intro head s before after stands behind
  rcases stands.behind_or_keyword keys behind one ends with done | ⟨-, -, further⟩
  · exact done
  · obtain ⟨c, first, word⟩ := head.word.exists_head? after
    have solid := isBlank_head?_of_oneWord head.word after
    rw [further, trimStart_blanks_append head.blank solid] at last
    simp [last c first] at word

theorem headless_blanks (blank : ∀ c ∈ u, isBlank c = true) : Headless keywords u t :=
  headless_gap keys fun c member => isWord_of_isBlank (blank c member)

theorem Modifier.headless_text (m : Modifier) (t : Text) : Headless keywords m.text t := by
  refine .append (headless_word keys m.oneWord (fun known => keys.apart _ known m.known) ?_)
    (.append ?_ (headless_blanks keys m.blank))
  · rw [List.append_assoc]
    exact m.isWord_head?_mark t
  · rcases m.marked with none | marked
    · rw [none]
      exact headless_nil
    · -- The mark holds one more word, between its parentheses.
      have opens : isWord '(' = false := by decide
      have closes : isWord ')' = false := by decide
      rw [marked]
      refine @Headless.append _ ['('] "set)".toList _ (headless_gap keys (by simp [opens]))
        (@Headless.append _ "set".toList [')'] _ ?_ (headless_gap keys (by simp [closes])))
      exact headless_word keys (by decide) keys.mark (by simpa using closes)

theorem Modifier.headless_texts (ms : List Modifier) (t : Text) :
    Headless keywords (texts ms) t := by
  induction ms with
  | nil => exact headless_nil
  | cons m ms ih => exact .append (m.headless_text keys _) ih

theorem Between.headless_text (between : Between) (t : Text) :
    Headless keywords between.text t :=
  .append (headless_blanks keys between.blank) (Modifier.headless_texts keys _ t)

end ReferencePage
