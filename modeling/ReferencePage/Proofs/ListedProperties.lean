import ReferencePage.Proofs.Headless
import ReferencePage.Proofs.PropertyTypes

/-! Which properties are listed.  A type goes on to the end of its line, over a further property
there, which the search for bare heads then passes over; a comment directly in front of that one can
still get it listed.  No other property is lost. -/
namespace ReferencePage

open Text

/-- The text begins inside the type of the head, perhaps with its first character. -/
def Head.TypeHolds (h : Head) (t : Text) : Prop :=
  ∃ type ∈ h.type, type.rest.length < t.length ∧ t.length ≤ type.whole.length

instance (h : Head) (t : Text) : Decidable (h.TypeHolds t) :=
  inferInstanceAs (Decidable (∃ type ∈ h.type, _))

theorem TypeFollows.exists_lineUpTo {rest : Text} (follows : TypeFollows rest) :
    ∃ type, lineUpTo Form.endsType rest = some type := by
  have nonempty : typeText (trimStart rest) ≠ [] := by
    intro empty
    apply trim_typeText_ne_nil.mpr follows
    rw [empty]
    rfl
  unfold typeText at nonempty
  unfold lineUpTo
  dsimp only
  split
  · contradiction
  · exact ⟨_, rfl⟩

namespace PropertyHead

theorem StandsIn.named {head : PropertyHead} {source before rest : Text}
    (stands : head.StandsIn source before rest) :
    head.front.StandsIn source before (head.gap ++ ':' :: rest) :=
  ⟨head.text_append rest ▸ stands.cut, stands.starts, head.isWord_head?_gap rest⟩

theorem afterModifiers_trimStart (head : PropertyHead) (between : Between) (rest : Text) :
    afterModifiers (trimStart (between.text ++ (head.text ++ rest))) = head.text ++ rest := by
  have keys := propertyKeywords_headKeywords
  rw [text_append]
  exact between.afterModifiers_trimStart (head.front.afterModifier?_text keys.words keys.apart _)
    (head.front.isBlank_head?_text keys.words _)

theorem headless_behind_keyword (head : PropertyHead) {blanks : Text}
    (blank : ∀ c ∈ blanks, isBlank c = true) (t : Text) :
    Headless Form.propertyKeywords
      (head.blanks ++ (head.name ++ (head.gap ++ ':' :: blanks))) t := by
  have keys := propertyKeywords_headKeywords
  refine .append (headless_blanks keys head.blank)
    (.append (headless_last_word keys head.word ?ends ?last) (headless_gap keys ?gap))
  case ends => simpa using head.isWord_head?_gap (blanks ++ t)
  case last =>
    have colon : trimStart (head.gap ++ ':' :: (blanks ++ t)) = ':' :: (blanks ++ t) :=
      trimStart_blanks_append head.gapBlank (by simp [Parameter.isBlank_colon])
    simp [colon, Parameter.isWord_colon]
  case gap =>
    intro c member
    rcases List.mem_append.mp member with gap | behind
    · exact isWord_of_isBlank (head.gapBlank c gap)
    · rcases List.mem_cons.mp behind with rfl | behind
      · exact Parameter.isWord_colon
      · exact isWord_of_isBlank (blank c behind)

theorem StandsIn.prefix_of_length_lt {head other : PropertyHead}
    {source before rest front rest' : Text} (stands : head.StandsIn source before rest)
    (there : other.StandsIn source front rest') (later : front.length < before.length)
    {blanks t : Text} (blank : ∀ c ∈ blanks, isBlank c = true) (cut : rest' = blanks ++ t) :
    front ++ (other.text ++ blanks) <+: before := by
  have keys := propertyKeywords_headKeywords
  have written : source = front ++ (other.keyword ++
      ((other.blanks ++ (other.name ++ (other.gap ++ ':' :: blanks))) ++ t)) := by
    rw [there.cut, text_append, NamedHead.text_append, cut]
    simp [PropertyHead.front]
  have behind : front <+: before :=
    List.prefix_of_prefix_length_le ⟨_, there.cut.symm⟩ ⟨_, stands.cut.symm⟩ later.le
  have here := stands.named
  rw [written] at here
  have ends := isWord_head?_of_blanks other.nonempty other.blank
    ((other.name ++ (other.gap ++ ':' :: blanks)) ++ t)
  have passed : front ++ other.keyword <+: before := by
    rcases here.behind_or_keyword keys behind (keys.words _ other.known)
      (by simpa using ends) with done | ⟨same, -⟩
    · exact done
    · exact absurd (congrArg List.length same) later.ne'
  rw [← List.append_assoc] at here
  have onward := other.headless_behind_keyword blank t head.front _ before _ here passed
  simpa [text] using onward

end PropertyHead

namespace Property

theorem bare?_readInPlace : Head.ReadInPlace (Head.bare? Form.property?) :=
  Head.bare?_readInPlace fun _ _ => Form.property?_advances

theorem documented?_readInPlace : Head.ReadInPlace (Head.documented? Form.property?) :=
  Head.documented?_readInPlace fun _ _ => Form.property?_advances

variable {source before rest : Text} {head : PropertyHead}

theorem exists_head_of_mem_bareHeads {found : Head}
    (known : found ∈ Property.shape.bareHeads source) :
    ∃ (other : PropertyHead) (front rest : Text) (type : Passage),
      other.StandsIn source front rest ∧ found.start = other.text ++ rest ∧
        lineUpTo Form.endsType rest = some type ∧ found.toForm = other.form rest type := by
  obtain ⟨front, cut, starts, read⟩ := Shape.exists_place_of_mem_bareHeads known
  obtain ⟨other, rest, type, written, line, form⟩ := Form.property?_eq_some.mp read
  exact ⟨other, front, rest, type, ⟨written ▸ cut, starts⟩, written, line, form⟩

theorem typeHolds_iff {found : Head} (known : found ∈ Property.shape.bareHeads source)
    (stands : head.StandsIn source before rest) :
    found.TypeHolds (head.text ++ rest) ↔ found.Holds (head.text ++ rest) := by
  obtain ⟨other, front, rest', type, there, start, line, form⟩ :=
    exists_head_of_mem_bareHeads known
  obtain ⟨blanks, cut, blank⟩ := lineUpTo_whole line
  have read : found.type = some type := congrArg Form.type form
  have ends : found.rest = type.rest := congrArg Form.rest form
  have source_length := congrArg List.length (stands.cut.symm.trans there.cut)
  have rest_length := congrArg List.length cut
  have written := List.length_pos_iff.mpr other.text_ne_nil
  unfold Head.TypeHolds Head.Holds
  rw [read, ends, start]
  simp only [Option.mem_some_iff, exists_eq_left', List.length_append] at *
  constructor
  · rintro ⟨behind, inside⟩
    omega
  · rintro ⟨behind, inside⟩
    have passed := (stands.prefix_of_length_lt there (by omega) blank cut).length_le
    simp only [List.length_append] at passed
    omega

/-- No type of a bare find holds the head, or a comment directly in front of it begins outside of
every find that has a comment. -/
inductive Kept (source before t : Text) : Prop where
  | bare (free : ∀ found ∈ Property.shape.bareHeads source, ¬found.TypeHolds t)
  | documented (comment : WrittenComment) (front behind : Text) (cut : source = front ++ behind)
      (directly : DirectlyBefore front comment.text before)
      (free : ∀ found ∈ Property.shape.documentedHeads source, ¬found.Holds behind)

theorem exists_found (stands : head.StandsIn source before rest) (follows : TypeFollows rest)
    (kept : Kept source before (head.text ++ rest)) :
    ∃ found ∈ Property.shape.heads source, found.name.text = head.name := by
  obtain ⟨type, line⟩ := follows.exists_lineUpTo
  have read : Form.property? (head.text ++ rest) = some (head.form rest type) :=
    Form.property?_eq_some.mpr ⟨head, rest, type, rfl, line, rfl⟩
  cases kept with
  | bare free =>
    have here : (Head.bare? Form.property?).Succeeds source before (head.text ++ rest)
        ⟨head.form rest type, head.text ++ rest, none⟩ := by
      refine ⟨stands.cut, List.append_ne_nil_of_left_ne_nil head.text_ne_nil rest, ?_⟩
      rw [Head.bare?, if_pos stands.starts, read, Option.map_some]
    rcases bare?_readInPlace.mem_or_holds here with known | ⟨found, known, holds⟩
    · exact ⟨_, List.mem_append_right _ known, rfl⟩
    · exact absurd ((typeHolds_iff known stands).mpr holds) (free found known)
  | documented comment front behind cut directly free =>
    obtain ⟨content, inside, text, -⟩ := comment.exists_content
    obtain ⟨between, rfl⟩ := directly
    have written : behind = commentOf content ++ (between.text ++ (head.text ++ rest)) := by
      have same := cut.symm.trans stands.cut
      simpa [text] using same
    rw [← head.afterModifiers_trimStart between rest] at read
    obtain ⟨found, here, -, form⟩ := Head.exists_documented?_of_form inside read front.getLast?
    have name : found.name.text = head.name := congrArg (fun form => form.name.text) form
    have there : (Head.documented? Form.property?).Succeeds source front behind found := by
      refine ⟨cut, ?_, written ▸ here⟩
      simp [written, commentOf]
    rcases documented?_readInPlace.mem_or_holds there with known | ⟨other, known, holds⟩
    · exact ⟨found, List.mem_append_left _ known, name⟩
    · exact absurd holds (free other known)

theorem exists_kept_of_mem_heads {found : Head} (known : found ∈ Property.shape.heads source) :
    ∃ (head : PropertyHead) (before rest : Text), head.StandsIn source before rest ∧
      Kept source before (head.text ++ rest) ∧ found.name.text = head.name := by
  rcases List.mem_append.mp known with known | known
  · obtain ⟨comment, front, before, t, begins, directly, cut, starts, read⟩ :=
      Shape.exists_place_of_mem_documentedHeads known
    obtain ⟨head, rest, type, rfl, -, form⟩ := Form.property?_eq_some.mp read
    refine ⟨head, before, rest, ⟨cut, starts⟩, .documented comment front found.start begins
      directly ?_, congrArg (fun form => form.name.text) form⟩
    intro other known'
    exact documented?_readInPlace.not_holds_start known' known
  · obtain ⟨head, before, rest, type, stands, start, -, form⟩ := exists_head_of_mem_bareHeads known
    refine ⟨head, before, rest, stands, .bare ?_, congrArg (fun form => form.name.text) form⟩
    intro other known'
    rw [typeHolds_iff known' stands, ← start]
    exact bare?_readInPlace.not_holds_start known' known

/-- A property that is kept gets listed, and whatever gets listed is a property that is kept. -/
theorem kept_listed (source : Text) (members : List Property) :
    (∀ (head : PropertyHead) (before rest : Text), head.StandsIn source before rest →
      TypeFollows rest → Kept source before (head.text ++ rest) →
        ∃ p ∈ Property.shape.collect source members, p.name = head.name) ∧
    ∃ added, Property.shape.collect source members = members ++ added ∧
      ∀ p ∈ added, ∃ (head : PropertyHead) (before rest : Text), head.StandsIn source before rest ∧
        Kept source before (head.text ++ rest) ∧ p.name = head.name := by
  refine ⟨?listed, ?only⟩
  case listed =>
    intro head before rest stands follows kept
    obtain ⟨found, known, name⟩ := exists_found stands follows kept
    have collects := Shape.collects Property.shape_namesEntries source members
    have listed := collects.lists_complete found known rfl
    obtain ⟨p, member, same⟩ := List.any_eq_true.mp listed
    exact ⟨p, member, (beq_iff_eq.mp same).trans name⟩
  case only =>
    obtain ⟨added, collected, origin⟩ :=
      Shape.exists_added Property.shape_namesEntries source members
    refine ⟨added, collected, fun p known => ?_⟩
    obtain ⟨found, listed, made⟩ := origin p known
    obtain ⟨head, before, rest, stands, kept, name⟩ := exists_kept_of_mem_heads listed
    exact ⟨head, before, rest, stands, kept,
      (Property.shape_namesEntries found p made).trans name⟩

/- A property with a comment of its own inside a type, and one behind a block that ends a type. -/
def sameLineSource : Text := "let a: A; /** B. */ let b: B\nvar c: C \x7b let d: D".toList

theorem oneSpace_ne_nil : [' '] ≠ [] := by decide

theorem isBlank_oneSpace : ∀ c ∈ [' '], isBlank c = true := by simp [isBlank_space]

def letHead (name : Text) (word : OneWord name) : PropertyHead :=
  ⟨"let".toList, [' '], name, [], by decide, oneSpace_ne_nil, isBlank_oneSpace, word, by simp⟩

theorem kept_listed_sameLineSource :
    (∃ p ∈ Property.shape.collect sameLineSource [], p.name = ['b']) ∧
      ∃ p ∈ Property.shape.collect sameLineSource [], p.name = ['d'] := by
  have listed := (kept_listed sameLineSource []).1
  refine ⟨?documented, ?bare⟩
  case documented =>
    let comment : WrittenComment :=
      ⟨" B. ".toList, ['*'], commentBody_iff.mpr (by decide), by decide, by simp⟩
    exact listed (letHead ['b'] (by decide)) "let a: A; /** B. */ ".toList _ ⟨rfl, by decide⟩
      ⟨'B', by decide, by decide, by decide⟩
      (.documented comment "let a: A; ".toList _ rfl ⟨⟨[' '], [], by simp [isBlank_space]⟩, rfl⟩
        (by decide +kernel))
  case bare =>
    exact listed (letHead ['d'] (by decide))
      "let a: A; /** B. */ let b: B\nvar c: C \x7b ".toList _ ⟨rfl, by decide⟩
      ⟨'D', by decide, by decide, by decide⟩ (.bare (by decide +kernel))

/-- A property without a comment that follows another one on the same line is not listed. -/
theorem not_all_listed :
    ¬∀ (source : Text) (head : PropertyHead) (before rest : Text),
      head.StandsIn source before rest → TypeFollows rest →
        ∃ p ∈ Property.shape.collect source [], p.name = head.name := by
  intro claim
  have listed := claim "let a: Int; let b: Int".toList (letHead ['b'] (by decide))
    "let a: Int; ".toList " Int".toList ⟨rfl, by decide⟩ ⟨'I', by decide, by decide, by decide⟩
  have unlisted : ¬∃ p ∈ Property.shape.collect "let a: Int; let b: Int".toList [],
      p.name = ['b'] := by decide +kernel
  exact unlisted listed

end Property
end ReferencePage
