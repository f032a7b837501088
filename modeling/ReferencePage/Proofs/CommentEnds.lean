import Mathlib.Data.List.Infix
import ReferencePage.Proofs.Finds
import ReferencePage.Source.Form

/-! Where an attached comment ends.  It is closed by the first star and slash behind its opening of
three characters.  The second star of the opening is passed over: where a slash follows it at once,
that slash closes nothing. -/
namespace ReferencePage

open Text

def NoClosing (t : Text) : Prop := ¬['*', '/'] <:+: t

instance (t : Text) : Decidable (NoClosing t) := inferInstanceAs (Decidable (¬_))

theorem noClosing_nil : NoClosing [] := by simp [NoClosing]

theorem noClosing_cons {c : Char} {t : Text} :
    NoClosing (c :: t) ↔ ¬['*', '/'] <+: c :: t ∧ NoClosing t := by
  rw [NoClosing, List.infix_cons_iff, not_or, NoClosing]

theorem upToClosing_cons {c : Char} {t : Text} (open_ : ¬['*', '/'] <+: c :: t) :
    upToClosing (c :: t) = (upToClosing t).map fun p => ⟨c :: p.text, p.rest⟩ := by
  rw [upToClosing]
  rintro u rfl rfl
  exact open_ (List.prefix_append _ u)

theorem not_prefix_of_noClosing {w rest : Text} {c : Char} (none : NoClosing (c :: w)) :
    ¬['*', '/'] <+: c :: (w ++ '*' :: rest) := by
  have start := (noClosing_cons.mp none).1
  cases w with
  | nil => simp
  | cons d w => simpa using start

theorem upToClosing_eq_some {t : Text} {p : Passage} :
    upToClosing t = some p ↔ t = p.text ++ '*' :: '/' :: p.rest ∧ NoClosing p.text := by
  obtain ⟨text, rest⟩ := p
  constructor
  · intro found
    induction t generalizing text with
    | nil => simp [upToClosing] at found
    | cons c t ih =>
      by_cases closes : ['*', '/'] <+: c :: t
      · obtain ⟨u, cut⟩ := closes
        rw [← cut] at found ⊢
        cases Option.some.inj found
        exact ⟨rfl, noClosing_nil⟩
      · rw [upToClosing_cons closes] at found
        obtain ⟨q, later, same⟩ := Option.map_eq_some_iff.mp found
        cases same
        obtain ⟨cut, none⟩ := ih q.text later
        refine ⟨by rw [cut, List.cons_append], noClosing_cons.mpr ⟨?_, none⟩⟩
        intro closed
        apply closes
        rw [cut, ← List.cons_append]
        exact closed.trans (List.prefix_append _ _)
  · rintro ⟨rfl, none⟩
    induction text with
    | nil => rfl
    | cons c text ih =>
      rw [List.cons_append, upToClosing_cons (not_prefix_of_noClosing none),
        ih (noClosing_cons.mp none).2, Option.map_some]

theorem dropTrailingStars_cut (t : Text) :
    ∃ stars, t = dropTrailingStars t ++ stars ∧ ∀ c ∈ stars, c = '*' := by
  refine ⟨(t.reverse.takeWhile (· == '*')).reverse, ?_, ?_⟩
  · rw [dropTrailingStars, ← List.reverse_append, List.takeWhile_append_dropWhile,
      List.reverse_reverse]
  · intro c member
    have star := List.all_eq_true.mp List.all_takeWhile c (List.mem_reverse.mp member)
    exact beq_iff_eq.mp star

/-- A comment opens with a slash and two stars.  Its body is followed by stars, by the star and the
slash that close it, and by blanks. -/
structure DocComment.Stands (comment : DocComment) (t stars after : Text) : Prop where
  opens : t = '/' :: '*' :: '*' :: comment.body.whole
  closes : comment.body.rest = stars ++ '*' :: '/' :: after
  inside : NoClosing (comment.body.text ++ stars)
  stars : ∀ c ∈ stars, c = '*'
  rest : comment.rest = trimStart after

theorem DocComment.stands_of_at? {t : Text} {comment : DocComment} (found : at? t = some comment) :
    ∃ stars after, comment.Stands t stars after := by
  unfold at? at found
  split at found
  · rename_i u
    obtain ⟨inner, closed, rfl⟩ := Option.map_eq_some_iff.mp found
    obtain ⟨cut, none⟩ := upToClosing_eq_some.mp closed
    obtain ⟨stars, inner_cut, all⟩ := dropTrailingStars_cut inner.text
    have whole : u = dropTrailingStars inner.text ++ (stars ++ '*' :: '/' :: inner.rest) := by
      rw [cut, ← List.append_assoc, ← inner_cut]
    have behind : u.drop (dropTrailingStars inner.text).length =
        stars ++ '*' :: '/' :: inner.rest := by
      rw [whole, List.drop_left]
    refine ⟨stars, inner.rest, ?opens, behind, ?inside, all, rfl⟩
    case opens =>
      dsimp only [Passage.whole]
      rw [behind, ← whole]
    case inside =>
      rw [← inner_cut]
      exact none
  · contradiction

def ClosesAt (t : Text) (place : Nat) : Prop := ['*', '/'] <+: t.drop place

instance (t : Text) (place : Nat) : Decidable (ClosesAt t place) :=
  inferInstanceAs (Decidable (_ <+: _))

/-- The first star and slash at the offset `lower` or behind it stand at `place`. -/
structure ClosesFirst (t : Text) (lower place : Nat) : Prop where
  behind : lower ≤ place
  here : ClosesAt t place
  first : ∀ k, lower ≤ k → k < place → ¬ClosesAt t k

theorem closesFirst_of_noClosing (before : Text) {inner : Text} (after : Text)
    (none : NoClosing inner) :
    ClosesFirst (before ++ (inner ++ '*' :: '/' :: after)) before.length
      (before.length + inner.length) := by
  refine ⟨Nat.le_add_right _ _, ?here, ?first⟩
  case here =>
    rw [ClosesAt, List.drop_length_add_append, List.drop_left]
    exact List.prefix_append _ after
  case first =>
    intro k above below
    obtain ⟨i, rfl⟩ := Nat.exists_eq_add_of_le above
    rw [ClosesAt, List.drop_length_add_append]
    have i_lt : i < inner.length := by omega
    clear above below
    induction inner generalizing i with
    | nil => simp at i_lt
    | cons c inner ih =>
      cases i with
      | zero => exact not_prefix_of_noClosing none
      | succ i => exact ih (noClosing_cons.mp none).2 i (by simpa using i_lt)

theorem closesFirst_iff_of_succ {t : Text} {lower place : Nat}
    (later : ClosesFirst t (lower + 1) place) : ClosesFirst t lower place ↔ ¬ClosesAt t lower := by
  constructor
  · intro closes
    exact closes.first lower (Nat.le_refl lower) later.behind
  · intro free
    refine ⟨Nat.le_of_succ_le later.behind, later.here, ?_⟩
    intro k above below
    rcases Nat.eq_or_lt_of_le above with rfl | above
    · exact free
    · exact later.first k above below

namespace Head

/-- The comment of a head where it stands in the source: `before` is in front of it, and `after`
goes on with blanks, modifiers and the form. -/
structure Commented (form? : Text → Option Form) (source : Text) (head : Head) (doc : Passage)
    (before stars after : Text) : Prop where
  source : source = before ++ head.start
  opens : head.start = '/' :: '*' :: '*' :: doc.whole
  closes : doc.rest = stars ++ '*' :: '/' :: after
  stars : ∀ c ∈ stars, c = '*'
  form : form? (afterModifiers (trimStart after)) = some head.toForm

def closing (before : Text) (doc : Passage) (stars : Text) : Nat :=
  before.length + 3 + (doc.text ++ stars).length

variable {form? : Text → Option Form} {source : Text} {head : Head} {doc : Passage}

theorem commented_of_documented? {before rest : Text}
    (here : (documented? form?).Succeeds source before rest head) (attached : head.doc = some doc) :
    ∃ stars after, head.Commented form? source doc before stars after ∧
      NoClosing (doc.text ++ stars) := by
  obtain ⟨comment, found, made⟩ := Option.bind_eq_some_iff.mp here.found
  obtain ⟨form, read, rfl⟩ := Option.map_eq_some_iff.mp made
  cases Option.some.inj attached
  obtain ⟨stars, after, stands⟩ := DocComment.stands_of_at? found
  exact ⟨stars, after, ⟨here.cut, stands.opens, stands.closes, stands.stars, stands.rest ▸ read⟩,
    stands.inside⟩

theorem commented_of_mem_documentedIn (found : head ∈ documentedIn form? source)
    (attached : head.doc = some doc) :
    ∃ before stars after, head.Commented form? source doc before stars after ∧
      NoClosing (doc.text ++ stars) := by
  obtain ⟨before, rest, here⟩ := succeeds_of_mem_scan found
  exact ⟨before, commented_of_documented? here attached⟩

theorem commented_of_mem_declarations (found : head ∈ declarations source)
    (attached : head.doc = some doc) :
    ∃ before stars after, head.Commented Form.declaration? source doc before stars after ∧
      NoClosing (doc.text ++ stars) := by
  obtain ⟨before, rest, here⟩ := succeeds_of_mem_scan found
  rcases documented_or_modified here.found with first | second
  · exact ⟨before, commented_of_documented? ⟨here.cut, here.inside, first⟩ attached⟩
  · obtain ⟨-, form, -, rfl⟩ := exists_form_of_modified? second
    contradiction

/-- Where a slash follows the opening, its own second star and that slash look like a closing. -/
theorem closesAt_opening {before stars after : Text}
    (commented : head.Commented form? source doc before stars after) :
    ClosesAt source (before.length + 2) ↔ doc.whole.head? = some '/' := by
  rw [ClosesAt, commented.source, commented.opens, List.drop_length_add_append]
  cases doc.whole with
  | nil => simp
  | cons c t => simp [eq_comm]

theorem closesFirst_of_commented {before stars after : Text}
    (commented : head.Commented form? source doc before stars after)
    (none : NoClosing (doc.text ++ stars)) :
    ClosesFirst source (before.length + 3) (closing before doc stars) := by
  have cut : source =
      (before ++ ['/', '*', '*']) ++ ((doc.text ++ stars) ++ '*' :: '/' :: after) := by
    rw [commented.source, commented.opens, Passage.whole, commented.closes]
    simp
  have first := closesFirst_of_noClosing (before ++ ['/', '*', '*']) after none
  rw [← cut, List.length_append] at first
  exact first

inductive Found (source : Text) (head : Head) : (Text → Option Form) → Prop where
  | property (found : head ∈ documentedIn Form.property? source) : Found source head Form.property?
  | method (found : head ∈ documentedIn Form.method? source) : Found source head Form.method?
  | declaration (found : head ∈ declarations source) : Found source head Form.declaration?

/-- An attached comment is closed by the first star and slash behind its opening.  Counted from
the last character of the opening on, they are still the first unless a slash follows at once. -/
theorem comment_closesFirst (found : Found source head form?) (attached : head.doc = some doc) :
    ∃ before stars after, head.Commented form? source doc before stars after ∧
      ClosesFirst source (before.length + 3) (closing before doc stars) ∧
        (ClosesFirst source (before.length + 2) (closing before doc stars) ↔
          doc.whole.head? ≠ some '/') := by
  obtain ⟨before, stars, after, commented, none⟩ : ∃ before stars after,
      head.Commented form? source doc before stars after ∧ NoClosing (doc.text ++ stars) := by
    cases found with
    | property found => exact commented_of_mem_documentedIn found attached
    | method found => exact commented_of_mem_documentedIn found attached
    | declaration found => exact commented_of_mem_declarations found attached
  have first := closesFirst_of_commented commented none
  refine ⟨before, stars, after, commented, first, ?_⟩
  rw [closesFirst_iff_of_succ first, closesAt_opening commented]

theorem exists_documented (form? : Text → Option Form) (source : Text) (p : Passage → Bool)
    (some_found : (documentedIn form? source).any (fun head => head.doc.any p) = true) :
    ∃ head ∈ documentedIn form? source, ∃ doc, head.doc = some doc ∧ p doc = true := by
  obtain ⟨head, found, holds⟩ := List.any_eq_true.mp some_found
  obtain ⟨doc, attached, holds⟩ := (Option.any_eq_true _ _).mp holds
  exact ⟨head, found, doc, attached, holds⟩

def starredSource : Text := "/** a /* b **/ public let c: D".toList

theorem comment_closesFirst_starredSource :
    ∃ head doc, Found starredSource head Form.property? ∧ head.doc = some doc ∧
      doc.text = " a /* b ".toList ∧
        ∃ before stars after, head.Commented Form.property? starredSource doc before stars after ∧
          ClosesFirst starredSource (before.length + 3) (closing before doc stars) ∧
            (ClosesFirst starredSource (before.length + 2) (closing before doc stars) ↔
              doc.whole.head? ≠ some '/') := by
  obtain ⟨head, found, doc, attached, text⟩ := exists_documented
    Form.property? starredSource (fun doc => doc.text = " a /* b ".toList) (by decide +kernel)
  exact ⟨head, doc, .property found, attached, of_decide_eq_true text,
    comment_closesFirst (.property found) attached⟩

/- An empty comment of another kind, and a closing that belongs to nothing. -/
def slashedSource : Text := "/**/ a */ let b: C".toList

/-- Where a slash follows the opening, the comment goes on beyond the first star and slash. -/
theorem not_closesFirst_slashedSource :
    ¬∀ head doc, Found slashedSource head Form.property? → head.doc = some doc →
      ∃ before stars after, head.Commented Form.property? slashedSource doc before stars after ∧
        ClosesFirst slashedSource (before.length + 2) (closing before doc stars) := by
  intro claim
  obtain ⟨head, found, doc, attached, slash⟩ := exists_documented
    Form.property? slashedSource (fun doc => doc.whole.head? = some '/') (by decide +kernel)
  obtain ⟨before, stars, after, commented, first⟩ := claim head doc (.property found) attached
  have early := (closesAt_opening commented).mpr (of_decide_eq_true slash)
  refine first.first (before.length + 2) (Nat.le_refl _) ?_ early
  unfold closing
  omega

end Head
end ReferencePage
