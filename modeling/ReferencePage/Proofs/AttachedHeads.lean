import ReferencePage.Proofs.CommentBodies
import ReferencePage.Proofs.HeadPlaces

/-! Heads where they stand in a source, and the doc comments directly in front of them.  A comment
is read together with the head behind it wherever nothing but blanks and modifiers stands between
them, and only there. -/
namespace ReferencePage

open Text

/-- What may stand between a comment and the head that it describes. -/
structure Between where
  blanks : Text
  modifiers : List Modifier
  blank : ∀ c ∈ blanks, isBlank c = true

def Between.text (between : Between) : Text := between.blanks ++ Modifier.texts between.modifiers

/-- Behind `front` the comment stands, and behind it only what may stand in front of its head. -/
def DirectlyBefore (front comment place : Text) : Prop :=
  ∃ between : Between, place = front ++ (comment ++ between.text)

/-- The head stands in the source: a word may start in front of it, and its name ends with it. -/
structure NamedHead.StandsIn {keywords : List Text} (head : NamedHead keywords)
    (source before after : Text) : Prop where
  cut : source = before ++ (head.text ++ after)
  starts : wordMayStart before.getLast? = true
  ends : ∀ c ∈ after.head?, isWord c = false

structure HeadKeywords (keywords : List Text) : Prop where
  words : ∀ word ∈ keywords, OneWord word
  apart : ∀ word ∈ keywords, word ∉ modifierWords
  mark : "set".toList ∉ keywords

theorem declarationKeywords_headKeywords : HeadKeywords Form.declarationKeywords :=
  ⟨by decide, by decide, by decide⟩

theorem methodKeywords_headKeywords : HeadKeywords ["func".toList] :=
  ⟨by decide, by decide, by decide⟩

theorem propertyKeywords_headKeywords : HeadKeywords ["let".toList, "var".toList] :=
  ⟨by decide, by decide, by decide⟩

/- What stands between is passed over. -/
section Between

variable {t : Text}

theorem Modifier.getLast?_text (m : Modifier) :
    ∃ c, m.text.getLast? = some c ∧ isBlank c = true := by
  refine ⟨m.blanks.getLast m.nonempty, ?_, m.blank _ (List.getLast_mem _)⟩
  rw [text, List.getLast?_append, List.getLast?_append, List.getLast?_eq_some_getLast m.nonempty]
  rfl

theorem Modifier.wordMayStart_texts {s : Text} (starts : wordMayStart s.getLast? = true)
    (ms : List Modifier) : wordMayStart (s ++ texts ms).getLast? = true := by
  induction ms generalizing s with
  | nil => simpa [texts] using starts
  | cons m ms ih =>
    obtain ⟨c, last, blank⟩ := m.getLast?_text
    rw [texts, List.flatMap_cons, ← List.append_assoc]
    refine ih (wordMayStart_append starts ?_)
    intro d member
    rw [last] at member
    cases member
    exact blank

theorem Between.wordMayStart_text (between : Between) {s : Text}
    (starts : wordMayStart s.getLast? = true) :
    wordMayStart (s ++ between.text).getLast? = true := by
  rw [text, ← List.append_assoc]
  refine Modifier.wordMayStart_texts (wordMayStart_append starts ?_) between.modifiers
  intro c last
  exact between.blank c (List.mem_of_getLast? last)

theorem Between.afterModifiers_trimStart (between : Between) (none : afterModifier? t = none)
    (first : ∀ c ∈ t.head?, isBlank c = false) :
    afterModifiers (trimStart (between.text ++ t)) = t := by
  have behind : ∀ c ∈ (Modifier.texts between.modifiers ++ t).head?, isBlank c = false := by
    cases between.modifiers with
    | nil => exact first
    | cons m ms =>
      rw [Modifier.texts, List.flatMap_cons, List.append_assoc]
      exact m.isBlank_head?_text _
  rw [text, List.append_assoc, trimStart_blanks_append between.blank behind,
    Modifier.afterModifiers_texts between.modifiers none first]

theorem Between.exists_cut (t : Text) :
    ∃ between : Between, t = between.text ++ afterModifiers (trimStart t) := by
  obtain ⟨blanks, cut, blank⟩ := trimStart_cut t
  obtain ⟨ms, further⟩ := Modifier.exists_texts (trimStart t)
  refine ⟨⟨blanks, ms, blank⟩, ?_⟩
  rw [text, List.append_assoc, ← further]
  exact cut

theorem Between.not_mem_text (between : Between) {c : Char} (stops : Stops c) :
    c ∉ between.text := by
  intro member
  rcases List.mem_append.mp member with blank | modifier
  · have isBlank_c := between.blank c blank
    rw [stops.blank] at isBlank_c
    contradiction
  · obtain ⟨m, -, inside⟩ := List.mem_flatMap.mp modifier
    rcases List.mem_append.mp inside with word | inside
    · exact stops.not_mem_word m.oneWord word
    · rcases List.mem_append.mp inside with mark | blank
      · rcases m.marked with none | marked
        · rw [none] at mark
          contradiction
        · exact stops.mark (marked ▸ mark)
      · have isBlank_c := m.blank c blank
        rw [stops.blank] at isBlank_c
        contradiction

end Between

section Heads

variable {keywords : List Text} (keys : HeadKeywords keywords)

include keys in
theorem NamedHead.not_mem_text (head : NamedHead keywords) {c : Char} (stops : Stops c) :
    c ∉ head.text := by
  intro member
  rcases List.mem_append.mp member with keyword | member
  · exact stops.not_mem_word (keys.words _ head.known) keyword
  · rcases List.mem_append.mp member with blank | name
    · have isBlank_c := head.blank c blank
      rw [stops.blank] at isBlank_c
      contradiction
    · exact stops.not_mem_word head.word name

include keys in
theorem Between.not_mem_text_append (between : Between) (head : NamedHead keywords) {c : Char}
    (stops : Stops c) : c ∉ between.text ++ head.text := by
  intro member
  rcases List.mem_append.mp member with before | later
  · exact between.not_mem_text stops before
  · exact head.not_mem_text keys stops later

theorem DirectlyBefore.wordMayStart {front content place : Text}
    (directly : DirectlyBefore front (commentOf content) place) :
    wordMayStart place.getLast? = true := by
  obtain ⟨between, rfl⟩ := directly
  rw [← List.append_assoc]
  apply between.wordMayStart_text
  rw [List.getLast?_append, getLast?_commentOf, Option.some_or]
  decide

/-- The find was made of a comment and of the form behind it. -/
structure Head.MadeOf (found : Head) (form? : Text → Option Form) (content behind : Text) :
    Prop where
  start : found.start = commentOf content ++ behind
  inside : NoClosing content
  form : form? (afterModifiers (trimStart behind)) = some found.toForm
  doc : ∃ body, found.doc = some body ∧ body.text = dropTrailingStars content ∧
    behindClosing body.rest = behind

theorem Head.exists_madeOf {form? : Text → Option Form} {found : Head} {before : Option Char}
    {t : Text} (here : documented? form? before t = some found) :
    found.start = t ∧ ∃ content behind, found.MadeOf form? content behind := by
  obtain ⟨comment, read, made⟩ := Option.bind_eq_some_iff.mp here
  obtain ⟨form, named, rfl⟩ := Option.map_eq_some_iff.mp made
  obtain ⟨content, behind, cut, from_⟩ := DocComment.exists_of_at? read
  exact ⟨rfl, content, behind, cut, from_.inside, from_.rest ▸ named, comment.body, rfl, from_.body,
    from_.behind⟩

/-- The find was made of a comment, of what stands between, and of a head, with `after` behind. -/
structure Head.ReadAs (found : Head) (content : Text) (between : Between)
    (head : NamedHead keywords) (after : Text) : Prop extends
    found.MadeOf (named? keywords) content (between.text ++ (head.text ++ after)) where
  reads : found.toForm = head.form after
  ends : ∀ c ∈ after.head?, isWord c = false

include keys in
theorem Between.named?_text (between : Between) (head : NamedHead keywords) {after : Text}
    (ends : ∀ c ∈ after.head?, isWord c = false) :
    named? keywords (afterModifiers (trimStart (between.text ++ (head.text ++ after)))) =
      some (head.form after) := by
  rw [between.afterModifiers_trimStart (head.afterModifier?_text keys.words keys.apart _)
    (head.isBlank_head?_text keys.words _)]
  exact head.named?_text keys.words ends

theorem Head.exists_documented?_of_form {form? : Text → Option Form} {content behind : Text}
    {form : Form} (inside : NoClosing content)
    (read : form? (afterModifiers (trimStart behind)) = some form) (before : Option Char) :
    ∃ found, documented? form? before (commentOf content ++ behind) = some found ∧
      found.MadeOf form? content behind ∧ found.toForm = form := by
  obtain ⟨comment, opens, from_⟩ := DocComment.exists_at?_commentOf inside behind
  refine ⟨⟨form, commentOf content ++ behind, some comment.body⟩, ?_,
    ⟨rfl, inside, read, comment.body, rfl, from_.body, from_.behind⟩, rfl⟩
  rw [documented?, opens, Option.bind_some, from_.rest, read, Option.map_some]

include keys in
theorem Head.exists_documented? {content after : Text} (inside : NoClosing content)
    (between : Between) (head : NamedHead keywords) (ends : ∀ c ∈ after.head?, isWord c = false)
    (before : Option Char) :
    ∃ found, documented? (named? keywords) before
        (commentOf content ++ (between.text ++ (head.text ++ after))) = some found ∧
      found.ReadAs content between head after := by
  obtain ⟨found, here, made, reads⟩ :=
    exists_documented?_of_form inside (between.named?_text keys head ends) before
  exact ⟨found, here, made, reads, ends⟩

theorem Head.exists_readAs {found : Head} {before : Option Char} {t : Text}
    (here : documented? (named? keywords) before t = some found) :
    found.start = t ∧ ∃ (content : Text) (between : Between) (head : NamedHead keywords)
      (after : Text), found.ReadAs content between head after := by
  obtain ⟨start, content, behind, made⟩ := exists_madeOf here
  obtain ⟨head, after, head_cut, ends, form⟩ := NamedHead.exists_of_named? made.form
  obtain ⟨between, between_cut⟩ := Between.exists_cut behind
  rw [head_cut] at between_cut
  exact ⟨start, content, between, head, after, between_cut ▸ made, form, ends⟩

theorem Head.ReadAs.standsIn {found : Head} {content after : Text} {between : Between}
    {head : NamedHead keywords} (readAs : found.ReadAs content between head after)
    {source front : Text} (cut : source = front ++ found.start) :
    head.StandsIn source (front ++ (commentOf content ++ between.text)) after := by
  refine ⟨?_, DirectlyBefore.wordMayStart ⟨between, rfl⟩, readAs.ends⟩
  rw [cut, readAs.start]
  simp

end Heads

/-- What the comment part of a head covers, its closing included. -/
def Head.commentPart (h : Head) : Option Passage :=
  h.doc.map fun doc => .between h.start (behindClosing doc.rest)

theorem Head.MadeOf.commentPart {form? : Text → Option Form} {found : Head} {content behind : Text}
    (made : found.MadeOf form? content behind) :
    found.commentPart = some ⟨commentOf content, behind⟩ := by
  obtain ⟨body, attached, -, closed⟩ := made.doc
  rw [Head.commentPart, attached, Option.map_some, closed, made.start, Passage.between, upTo_append]

section Ordered

variable {form? : Text → Option Form}
  (advances : ∀ t form, form? t = some form → Advances t form.rest)
include advances

theorem Head.MadeOf.length_rest_lt {found : Head} {content behind : Text}
    (made : found.MadeOf form? content behind) : found.rest.length < found.start.length := by
  have shorter := (advances _ _ made.form).length_lt
  obtain ⟨between, cut⟩ := Between.exists_cut behind
  have sizes := congrArg List.length made.start
  rw [cut, List.length_append, List.length_append] at sizes
  omega

theorem Head.bare?_readInPlace : ReadInPlace (bare? form?) := by
  refine ⟨?_, ?_⟩
  · intro before t found here
    obtain ⟨form, -, rfl⟩ := exists_form_of_bare? here
    rfl
  · intro before t found here
    obtain ⟨form, read, rfl⟩ := exists_form_of_bare? here
    exact (advances t form read).length_lt

theorem Head.documented?_readInPlace : ReadInPlace (documented? form?) := by
  refine ⟨fun before t found here => (exists_madeOf here).1, ?_⟩
  intro before t found here
  obtain ⟨rfl, content, behind, made⟩ := exists_madeOf here
  exact made.length_rest_lt advances

theorem Head.pairwise_documentedIn (source : Text) :
    (documentedIn form? source).Pairwise fun x y => y.start.length ≤ x.rest.length :=
  (documented?_readInPlace advances).pairwise source

end Ordered
end ReferencePage
