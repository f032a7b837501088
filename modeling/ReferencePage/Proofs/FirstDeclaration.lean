import ReferencePage.Proofs.Headless
import ReferencePage.Run.Program

/-! The declaration of a document.  It is that of the first head in the source, unless the comment
in front of a later one holds the first: then the search begins with that comment, and passes over
what stands in it. -/
namespace ReferencePage

open Text

/-- The head stands in the source, and none begins in front of it. -/
structure NamedHead.First {keywords : List Text} (head : NamedHead keywords)
    (source before after : Text) : Prop extends head.StandsIn source before after where
  leads : ∀ (other : NamedHead keywords) (place behind : Text),
    other.StandsIn source place behind → before.length ≤ place.length

/-- The comment stands directly in front of the place, and none that does opens before it. -/
structure WrittenComment.First (comment : WrittenComment) (front place : Text) : Prop where
  directly : DirectlyBefore front comment.text place
  leads : ∀ (other : WrittenComment) (opening : Text), DirectlyBefore opening other.text place →
    front.length ≤ opening.length

/-- The first head lies in the body of a comment that stands directly in front of the place. -/
def FirstInComment (keywords : List Text) (source place : Text) : Prop :=
  ∃ (first : NamedHead keywords) (before after : Text), first.First source before after ∧
    ∃ (comment : WrittenComment) (front a b : Text), DirectlyBefore front comment.text place ∧
      comment.body = a ++ (first.text ++ b) ∧ before = front ++ '/' :: '*' :: '*' :: a

/-- The head is the first one, or the first one lies in a comment of it; and `comment` is what the
first comment says that stands directly in front of it, where there is one. -/
structure NamedHead.Located {keywords : List Text} (head : NamedHead keywords)
    (source before after : Text) (comment : Option Text) : Prop extends
    head.StandsIn source before after where
  first : head.First source before after ∨ FirstInComment keywords source before
  described : (∃ (written : WrittenComment) (front : Text), written.First front before ∧
      comment = plainText? written.body) ∨
    (∀ (written : WrittenComment) (front : Text), ¬DirectlyBefore front written.text before) ∧
      comment = none

def HasHead (keywords : List Text) (source : Text) : Prop :=
  ∃ (head : NamedHead keywords) (before after : Text), head.StandsIn source before after

section First

variable {keywords : List Text} {source before after : Text} {head : NamedHead keywords}

theorem NamedHead.StandsIn.exists_first (stands : head.StandsIn source before after) :
    ∃ (first : NamedHead keywords) (place behind : Text), first.First source place behind := by
  induction size : before.length using Nat.strong_induction_on generalizing head before after with
  | _ n ih =>
    by_cases leads : ∀ (other : NamedHead keywords) (place behind : Text),
        other.StandsIn source place behind → before.length ≤ place.length
    · exact ⟨head, before, after, stands, leads⟩
    · simp only [not_forall, Nat.not_le] at leads
      obtain ⟨other, place, behind, there, earlier⟩ := leads
      exact ih place.length (size ▸ earlier) there rfl

variable (keys : HeadKeywords keywords)
include keys

theorem NamedHead.StandsIn.exists_attached? (stands : head.StandsIn source before after) :
    ∃ y, (Head.attached? (named? keywords)).Succeeds source before (head.text ++ after) y := by
  have form : named? keywords (afterModifiers (head.text ++ after)) = some (head.form after) := by
    rw [afterModifiers_of_none (head.afterModifier?_text keys.words keys.apart after)]
    exact head.named?_text keys.words stands.ends
  have found : (Head.attached? (named? keywords) before.getLast? (head.text ++ after)).isSome := by
    rw [Head.attached?, Option.orElse_eq_or, Option.isSome_or, Head.modified?, if_pos stands.starts,
      form, Option.map_some, Option.isSome_some, Bool.or_true]
  obtain ⟨y, read⟩ := Option.isSome_iff_exists.mp found
  exact ⟨y, stands.cut, List.append_ne_nil_of_left_ne_nil head.text_ne_nil after, read⟩

theorem WrittenComment.exists_attached? {front : Text} (comment : WrittenComment)
    (stands : head.StandsIn source before after)
    (directly : DirectlyBefore front comment.text before) :
    ∃ rest y, (Head.attached? (named? keywords)).Succeeds source front rest y := by
  obtain ⟨content, inside, text, -⟩ := comment.exists_content
  obtain ⟨between, rfl⟩ := directly
  obtain ⟨y, read, -⟩ := Head.exists_documented? keys inside between head stands.ends front.getLast?
  have cut : source = front ++ (comment.text ++ (between.text ++ (head.text ++ after))) := by
    rw [stands.cut]
    simp
  have found : Head.attached? (named? keywords) front.getLast?
      (comment.text ++ (between.text ++ (head.text ++ after))) = some y := by
    rw [text, Head.attached?, read]
    rfl
  exact ⟨_, y, cut, by simp [text, commentOf], found⟩

omit keys in
theorem Head.readAs_or_modified {x : Head} {front rest : Text}
    (here : (attached? (named? keywords)).Succeeds source front rest x) :
    (source = front ++ x.start ∧ ∃ (content : Text) (between : Between) (head : NamedHead keywords)
      (after : Text), x.ReadAs content between head after) ∨
    (x.doc = none ∧ ∃ (ms : List Modifier) (head : NamedHead keywords) (after : Text),
      x.toForm = head.form after ∧ head.StandsIn source (front ++ Modifier.texts ms) after) := by
  rcases documented_or_modified here.found with first | second
  · obtain ⟨start, readAs⟩ := exists_readAs first
    exact .inl ⟨start ▸ here.cut, readAs⟩
  · obtain ⟨starts, form, named, rfl⟩ := exists_form_of_modified? second
    obtain ⟨head, after, cut, ends, rfl⟩ := NamedHead.exists_of_named? named
    obtain ⟨ms, further⟩ := Modifier.exists_texts rest
    refine .inr ⟨rfl, ms, head, after, rfl, ?_, Modifier.wordMayStart_texts starts ms, ends⟩
    rw [here.cut, List.append_assoc, ← cut, ← further]

theorem NamedHead.exists_cut_of_stop (head : NamedHead keywords) {c : Char} (stops : Stops c)
    {u t : Text} (same : head.text ++ after = u ++ c :: t) : ∃ b, u = head.text ++ b := by
  rcases List.append_eq_append_iff.mp same with ⟨b, within, -⟩ | ⟨b, within, behind⟩
  · exact ⟨b, within⟩
  · cases b with
    | nil =>
      refine ⟨[], ?_⟩
      rw [within, List.append_nil, List.append_nil]
    | cons d b =>
      obtain ⟨rfl, -⟩ := List.cons.inj behind
      exact absurd (within ▸ List.mem_append_right _ List.mem_cons_self)
        (head.not_mem_text keys stops)

theorem WrittenComment.behind_or_in_body (comment : WrittenComment) (between : Between)
    {first : NamedHead keywords} {s t place : Text}
    (stands : first.StandsIn (s ++ (comment.text ++ (between.text ++ t))) place after)
    (behind : s <+: place) : s ++ (comment.text ++ between.text) <+: place ∨
      ∃ a b, comment.body = a ++ (first.text ++ b) ∧ place = s ++ '/' :: '*' :: '*' :: a := by
  have cut : s ++ (comment.text ++ (between.text ++ t)) =
      s ++ (['/', '*', '*'] ++
        (comment.body ++ ((comment.stars ++ ['/']) ++ (between.text ++ t)))) := by
    simp [text]
  rw [cut] at stands
  have opening : s ++ ['/', '*', '*'] <+: place :=
    headless_gap keys (by simp [stops_slash.word, stops_star.word]) first s place after stands
      behind
  rw [← List.append_assoc] at stands
  rcases stands.behind_or_inside keys opening with done | ⟨a, c, v, body, rfl, -, same⟩
  · left
    have closing : Headless keywords ((comment.stars ++ ['/']) ++ between.text) t := by
      refine .append (headless_gap keys ?_) (between.headless_text keys t)
      intro c member
      rcases List.mem_append.mp member with star | slash
      · exact comment.all c star ▸ stops_star.word
      · exact List.mem_singleton.mp slash ▸ stops_slash.word
    have passed := closing first (s ++ ['/', '*', '*'] ++ comment.body) place after
      (by simpa only [List.append_assoc] using stands) done
    simpa [text] using passed
  · right
    obtain ⟨star, stars, closing⟩ := List.exists_cons_of_ne_nil comment.nonempty
    obtain rfl := comment.all star (closing ▸ List.mem_cons_self)
    have same : first.text ++ after =
        (c :: v) ++ '*' :: (stars ++ (['/'] ++ (between.text ++ t))) := by
      simpa [closing] using same
    obtain ⟨b, within⟩ := first.exists_cut_of_stop keys stops_star same
    exact ⟨a, b, body.trans (congrArg (a ++ ·) within), by simp⟩

def NothingBefore (keywords : List Text) (source front : Text) : Prop :=
  ∀ place rest y, (Head.attached? (named? keywords)).Succeeds source place rest y →
    front.length ≤ place.length

section Nothing

variable {front : Text} (nothing : NothingBefore keywords source front)
include nothing

theorem NothingBefore.prefix_of_stands (within : front <+: source)
    (stands : head.StandsIn source before after) : front <+: before := by
  obtain ⟨y, there⟩ := stands.exists_attached? keys
  exact List.prefix_of_prefix_length_le within ⟨_, there.cut.symm⟩ (nothing _ _ _ there)

theorem NothingBefore.le_of_directlyBefore {opening : Text} (comment : WrittenComment)
    (stands : head.StandsIn source before after)
    (directly : DirectlyBefore opening comment.text before) : front.length ≤ opening.length := by
  obtain ⟨rest, y, there⟩ := comment.exists_attached? keys stands directly
  exact nothing opening rest y there

theorem Head.ReadAs.located {x : Head} {content : Text} {between : Between}
    (readAs : x.ReadAs content between head after) (cut : source = front ++ x.start) :
    head.Located source (front ++ (commentOf content ++ between.text)) after x.comment := by
  obtain ⟨written, text, body⟩ := WrittenComment.exists_of_content readAs.inside
  have stands := readAs.standsIn cut
  rw [← text] at stands ⊢
  refine ⟨stands, ?first, .inl ⟨written, front, ⟨⟨between, rfl⟩, ?leads⟩, ?comment⟩⟩
  case first =>
    obtain ⟨first, place, behind, leading⟩ := stands.exists_first
    have there := leading.toStandsIn
    have later := nothing.prefix_of_stands keys ⟨_, cut.symm⟩ there
    rw [stands.cut, List.append_assoc, List.append_assoc] at there
    rcases written.behind_or_in_body keys between there later with done | ⟨a, b, inner, split⟩
    · left
      refine ⟨stands, ?_⟩
      intro other place' behind' there'
      exact done.length_le.trans (leading.leads other place' behind' there')
    · right
      exact ⟨first, place, behind, leading, written, front, a, b, ⟨between, rfl⟩, inner, split⟩
  case leads =>
    intro other opening directly
    exact nothing.le_of_directlyBefore keys other stands directly
  case comment =>
    obtain ⟨doc, attached, text, -⟩ := readAs.doc
    rw [Head.comment, attached, Option.bind_some, text, body]

theorem NamedHead.StandsIn.located {ms : List Modifier}
    (stands : head.StandsIn source (front ++ Modifier.texts ms) after) :
    head.Located source (front ++ Modifier.texts ms) after none := by
  have cut := stands.cut
  rw [List.append_assoc] at cut
  refine ⟨stands, .inl ⟨stands, ?leads⟩, .inr ⟨?none, rfl⟩⟩
  case leads =>
    intro other place behind there
    have later := nothing.prefix_of_stands keys ⟨_, cut.symm⟩ there
    rw [cut] at there
    exact (Modifier.headless_texts keys ms _ other front place behind there later).length_le
  case none =>
    intro written opening directly
    have later := nothing.le_of_directlyBefore keys written stands directly
    obtain ⟨between, place⟩ := directly
    obtain ⟨a, rfl⟩ : front <+: opening :=
      List.prefix_of_prefix_length_le ⟨_, rfl⟩ ⟨_, place.symm⟩ later
    rw [List.append_assoc] at place
    have slash : '/' ∈ Modifier.texts ms := by
      rw [List.append_cancel_left place]
      simp [WrittenComment.text]
    exact Between.not_mem_text ⟨[], ms, by simp⟩ stops_slash slash

end Nothing

theorem Head.located_of_first {x : Head} {front rest : Text}
    (here : (attached? (named? keywords)).Succeeds source front rest x)
    (nothing : NothingBefore keywords source front) :
    ∃ (head : NamedHead keywords) (before after : Text),
      head.Located source before after x.comment ∧ x.toForm = head.form after := by
  rcases readAs_or_modified here with ⟨cut, content, between, head, after, readAs⟩ |
      ⟨none, ms, head, after, reads, stands⟩
  · exact ⟨head, _, after, readAs.located keys nothing cut, readAs.reads⟩
  · have comment : x.comment = Option.none := by rw [Head.comment, none, Option.bind_none]
    exact ⟨head, _, after, comment ▸ stands.located keys nothing, reads⟩

end First

namespace Declaration

theorem isSome_ofText? : ∀ word ∈ Form.declarationKeywords, (TypeKeyword.ofText? word).isSome := by
  decide

variable {source : Text}

theorem exists_located {x : Head} (first : (Head.declarations source).head? = some x) :
    ∃ (head : NamedHead Form.declarationKeywords) (before after : Text),
      head.Located source before after x.comment ∧ x.toForm = head.form after := by
  obtain ⟨front, rest, here, leads⟩ := first_of_head?_scan first
  exact Head.located_of_first declarationKeywords_headKeywords here leads

theorem isSome_ofHead? {x : Head} (first : (Head.declarations source).head? = some x) :
    (ofHead? x).isSome := by
  obtain ⟨head, before, after, -, reads⟩ := exists_located first
  have known : x.keyword.text ∈ Form.declarationKeywords := by
    rw [reads]
    exact head.known
  rw [ofHead?, Option.isSome_map]
  exact isSome_ofText? _ known

theorem located_of_ofSource? {d : Declaration} (found : ofSource? source = some d) :
    ∃ (head : NamedHead Form.declarationKeywords) (before after : Text),
      head.Located source before after d.comment ∧
        d.keyword.text = head.keyword ∧ d.name = head.name := by
  obtain ⟨x, first, made⟩ := Option.bind_eq_some_iff.mp found
  obtain ⟨keyword, known, rfl⟩ := Option.map_eq_some_iff.mp made
  obtain ⟨head, before, after, located, reads⟩ := exists_located first
  refine ⟨head, before, after, located, ?_, congrArg (fun form => form.name.text) reads⟩
  rw [TypeKeyword.text_of_ofText? known, reads]
  rfl

theorem ofSource?_eq_none : ofSource? source = none ↔ ¬HasHead Form.declarationKeywords source := by
  constructor
  · rintro none ⟨head, before, after, stands⟩
    obtain ⟨y, here⟩ := stands.exists_attached? declarationKeywords_headKeywords
    obtain ⟨z, known, -⟩ := mem_scan_of_succeeds Head.size here
    cases first : (Head.declarations source).head? with
    | none =>
      have listed : z ∈ Head.declarations source := known
      rw [List.head?_eq_none_iff.mp first] at listed
      contradiction
    | some x =>
      have made := isSome_ofHead? first
      rw [ofSource?, first, Option.bind_some] at none
      rw [none] at made
      contradiction
  · intro headless
    rw [Option.eq_none_iff_forall_ne_some]
    intro d found
    obtain ⟨head, before, after, located, -⟩ := located_of_ofSource? found
    exact headless ⟨head, before, after, located.toStandsIn⟩

theorem document_eq_error (path : Path) :
    Invocation.document path source = .error (.noDeclaration path) ↔ ofSource? source = none := by
  unfold Invocation.document Document.ofSource?
  cases ofSource? source with
  | none => simp
  | some d => simp

/-- A source without a head has no declaration.  In any other one it is that of the first head, or
of a head with the first one in its comment, and is described by the first comment in front of
it. -/
theorem ofSource?_located (path : Path) (source : Text) :
    (ofSource? source = none ↔ ¬HasHead Form.declarationKeywords source) ∧
    (Invocation.document path source = .error (.noDeclaration path) ↔
      ¬HasHead Form.declarationKeywords source) ∧
    ∀ d, ofSource? source = some d →
      ∃ (head : NamedHead Form.declarationKeywords) (before after : Text),
        head.Located source before after d.comment ∧
          d.description = d.comment.getD missingDescription ∧
            d.keyword.text = head.keyword ∧ d.name = head.name := by
  refine ⟨ofSource?_eq_none, (document_eq_error path).trans ofSource?_eq_none, ?_⟩
  intro d found
  obtain ⟨head, before, after, located, named⟩ := located_of_ofSource? found
  exact ⟨head, before, after, located, rfl, named⟩

/- The comment in front of the type names the first head. -/
def renamedSource : Text :=
  "import UIKit\n/** The class Old. /** Stars. **/\npublic struct Now \x7b".toList

theorem ofSource?_located_renamedSource :
    ofSource? renamedSource =
        some ⟨"Now".toList, .structType, some "The class Old. /** Stars.".toList⟩ ∧
      ∃ (head : NamedHead Form.declarationKeywords) (before after : Text),
        head.Located renamedSource before after (some "The class Old. /** Stars.".toList) ∧
          head.keyword = "struct".toList ∧ head.name = "Now".toList := by
  have found : ofSource? renamedSource =
      some ⟨"Now".toList, .structType, some "The class Old. /** Stars.".toList⟩ := by
    decide +kernel
  obtain ⟨head, before, after, located, -, keyword, name⟩ :=
    (ofSource?_located ⟨['A']⟩ renamedSource).2.2 _ found
  exact ⟨found, head, before, after, located, keyword.symm, name.symm⟩

end Declaration
end ReferencePage
