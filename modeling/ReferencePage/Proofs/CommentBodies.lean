import Mathlib.Data.List.Infix
import ReferencePage.Proofs.DetachedComments

/-! Doc comments as they are written: the opening, a body made of pieces, stars and a slash.  Such
texts are the ones that are read as comments, and every comment is written in one way only. -/
namespace ReferencePage

open Text

/-- A body is made of characters other than stars, and of stars with a character behind them that
neither goes on with them nor closes the comment. -/
inductive CommentBody : Text → Prop where
  | nil : CommentBody []
  | plain {c : Char} {t : Text} (other : c ≠ '*') (further : CommentBody t) : CommentBody (c :: t)
  | starred {stars : Text} {c : Char} {t : Text} (nonempty : stars ≠ [])
      (all : ∀ s ∈ stars, s = '*') (other : c ≠ '*') (slash : c ≠ '/') (further : CommentBody t) :
      CommentBody (stars ++ c :: t)

section Body

variable {t stars : Text}

theorem not_prefix_stars (all : ∀ s ∈ stars, s = '*') (c : Char) : ¬['*', '/'] <+: c :: stars := by
  rintro ⟨u, cut⟩
  have slash := all '/' ((List.cons.inj cut).2 ▸ List.mem_cons_self)
  contradiction

theorem noClosing_append_stars (inside : NoClosing t) (all : ∀ s ∈ stars, s = '*') :
    NoClosing (t ++ stars) := by
  induction t with
  | nil =>
    rw [List.nil_append]
    rintro ⟨u, v, cut⟩
    have slash := all '/' (by rw [← cut]; simp)
    contradiction
  | cons c t ih =>
    obtain ⟨first, inner⟩ := noClosing_cons.mp inside
    refine noClosing_cons.mpr ⟨?_, ih inner⟩
    cases t with
    | nil => exact not_prefix_stars all c
    | cons d t => simpa using first

theorem noClosing_stars_append {c : Char} (all : ∀ s ∈ stars, s = '*') (other : c ≠ '*')
    (slash : c ≠ '/') (inside : NoClosing t) : NoClosing (stars ++ c :: t) := by
  induction stars with
  | nil => exact noClosing_cons.mpr ⟨by simp [Ne.symm other], inside⟩
  | cons s stars ih =>
    obtain ⟨star, others⟩ := List.forall_mem_cons.mp all
    refine noClosing_cons.mpr ⟨?_, ih others⟩
    cases stars with
    | nil => simp [Ne.symm slash]
    | cons s' stars => simp [others s' List.mem_cons_self]

theorem CommentBody.noClosing (body : CommentBody t) : NoClosing t := by
  induction body with
  | nil => exact noClosing_nil
  | plain other further ih => exact noClosing_cons.mpr ⟨by simp [Ne.symm other], ih⟩
  | starred nonempty all other slash further ih => exact noClosing_stars_append all other slash ih

theorem CommentBody.getLast?_ne (body : CommentBody t) : t.getLast? ≠ some '*' := by
  induction body with
  | nil => simp
  | @plain c t other further ih =>
    rw [List.getLast?_cons]
    cases last : t.getLast? with
    | none => simpa using other
    | some d => simpa [last] using ih
  | @starred stars c t nonempty all other slash further ih =>
    rw [List.getLast?_append, List.getLast?_cons]
    cases last : t.getLast? with
    | none => simpa using other
    | some d => simpa [last] using ih

/- The stars in front are those of a piece whose last character is still to come. -/
theorem commentBody_append {stars t : Text} (all : ∀ s ∈ stars, s = '*')
    (inside : NoClosing (stars ++ t)) (last : (stars ++ t).getLast? ≠ some '*') :
    CommentBody (stars ++ t) := by
  induction t generalizing stars with
  | nil =>
    rw [List.append_nil] at last ⊢
    cases ends : stars.getLast? with
    | none =>
      rw [List.getLast?_eq_none_iff.mp ends]
      exact .nil
    | some s => exact absurd (all s (List.mem_of_getLast? ends) ▸ ends) last
  | cons c t ih =>
    by_cases star : c = '*'
    · rw [List.append_cons] at inside last ⊢
      refine ih ?_ inside last
      intro s member
      rcases List.mem_append.mp member with known | new
      · exact all s known
      · rw [List.mem_singleton.mp new, star]
    · have behind : CommentBody t := by
        refine @ih [] (by simp) (fun closing => inside ?_) (fun ends => last ?_)
        · exact closing.trans ((List.suffix_cons c t).trans (List.suffix_append _ _)).isInfix
        · rw [List.getLast?_append, List.getLast?_cons, show t.getLast? = some '*' from ends]
          rfl
      by_cases empty : stars = []
      · rw [empty]
        exact .plain star behind
      · refine .starred empty all star ?_ behind
        rintro rfl
        obtain ⟨front, s, rfl⟩ := (List.eq_nil_or_concat stars).resolve_left empty
        obtain rfl := all s (by simp)
        exact inside ⟨front, t, by simp⟩

theorem commentBody_iff : CommentBody t ↔ NoClosing t ∧ t.getLast? ≠ some '*' := by
  constructor
  · intro body
    exact ⟨body.noClosing, body.getLast?_ne⟩
  · rintro ⟨inside, last⟩
    exact @commentBody_append [] t (by simp) inside last

theorem dropTrailingStars_append (all : ∀ s ∈ stars, s = '*') (last : t.getLast? ≠ some '*') :
    dropTrailingStars (t ++ stars) = t := by
  have kept : t.reverse.dropWhile (· == '*') = t.reverse := by
    cases ends : t.reverse with
    | nil => rfl
    | cons c u =>
      refine List.dropWhile_cons_of_neg ?_
      rw [← List.head?_reverse, ends, List.head?_cons] at last
      simpa using last
  rw [dropTrailingStars, List.reverse_append, List.dropWhile_append_of_pos, kept,
    List.reverse_reverse]
  intro s member
  exact beq_iff_eq.mpr (all s (List.mem_reverse.mp member))

theorem getLast?_dropTrailingStars (t : Text) : (dropTrailingStars t).getLast? ≠ some '*' := by
  intro last
  have first := List.head?_dropWhile_not (· == '*') t.reverse
  rw [dropTrailingStars, List.getLast?_reverse] at last
  rw [last] at first
  contradiction

end Body

structure WrittenComment where
  body : Text
  stars : Text
  grammar : CommentBody body
  nonempty : stars ≠ []
  all : ∀ s ∈ stars, s = '*'

namespace WrittenComment

def text (comment : WrittenComment) : Text :=
  '/' :: '*' :: '*' :: (comment.body ++ (comment.stars ++ ['/']))

/-- The last star belongs to the closing. -/
theorem exists_content (comment : WrittenComment) : ∃ content, NoClosing content ∧
    comment.text = commentOf content ∧ dropTrailingStars content = comment.body := by
  obtain ⟨body, stars, grammar, nonempty, all⟩ := comment
  obtain ⟨stars, s, rfl⟩ := (List.eq_nil_or_concat stars).resolve_left nonempty
  obtain rfl := all s (by simp)
  have others : ∀ s ∈ stars, s = '*' := fun s member => all s (by simp [member])
  refine ⟨body ++ stars, noClosing_append_stars grammar.noClosing others, ?_, ?_⟩
  · simp [text, commentOf]
  · exact dropTrailingStars_append others grammar.getLast?_ne

theorem exists_of_content {content : Text} (inside : NoClosing content) :
    ∃ comment : WrittenComment, comment.text = commentOf content ∧
      comment.body = dropTrailingStars content := by
  obtain ⟨stars, cut, all⟩ := dropTrailingStars_cut content
  have front : NoClosing (dropTrailingStars content) := by
    intro closing
    rw [cut] at inside
    exact inside (closing.trans (List.prefix_append _ _).isInfix)
  have grammar := commentBody_iff.mpr ⟨front, getLast?_dropTrailingStars content⟩
  refine ⟨⟨dropTrailingStars content, stars ++ ['*'], grammar, by simp, ?_⟩, ?_, rfl⟩
  · intro s member
    rcases List.mem_append.mp member with known | new
    · exact all s known
    · exact List.mem_singleton.mp new
  · have whole : dropTrailingStars content ++ (stars ++ ['*', '/']) = content ++ ['*', '/'] := by
      rw [← List.append_assoc, ← cut]
    simp [text, commentOf, whole]

end WrittenComment

/-- What follows a comment, when its body ends here: the stars and the slash are passed over. -/
def behindClosing (t : Text) : Text := (t.dropWhile (· == '*')).drop 1

theorem behindClosing_stars {stars : Text} (all : ∀ s ∈ stars, s = '*') (after : Text) :
    behindClosing (stars ++ '*' :: '/' :: after) = after := by
  have stars_dropped : (stars ++ '*' :: '/' :: after).dropWhile (· == '*') = '/' :: after := by
    rw [List.dropWhile_append_of_pos fun s member => beq_iff_eq.mpr (all s member)]
    rfl
  rw [behindClosing, stars_dropped, List.drop_one, List.tail_cons]

structure DocComment.ReadFrom (comment : DocComment) (content after : Text) : Prop where
  inside : NoClosing content
  body : comment.body.text = dropTrailingStars content
  behind : behindClosing comment.body.rest = after
  rest : comment.rest = trimStart after

theorem DocComment.exists_at?_commentOf {content : Text} (inside : NoClosing content)
    (after : Text) :
    ∃ comment, at? (commentOf content ++ after) = some comment ∧
      comment.ReadFrom content after := by
  obtain ⟨stars, cut, all⟩ := dropTrailingStars_cut content
  have closes : upToClosing (content ++ '*' :: '/' :: after) = some ⟨content, after⟩ :=
    upToClosing_eq_some.mpr ⟨rfl, inside⟩
  have behind : (content ++ '*' :: '/' :: after).drop (dropTrailingStars content).length =
      stars ++ '*' :: '/' :: after := by
    rw [show content ++ '*' :: '/' :: after =
      dropTrailingStars content ++ (stars ++ '*' :: '/' :: after) by
        rw [← List.append_assoc, ← cut], List.drop_left]
  refine ⟨⟨⟨dropTrailingStars content, stars ++ '*' :: '/' :: after⟩, trimStart after⟩, ?_, inside,
    rfl, behindClosing_stars all after, rfl⟩
  have whole : commentOf content ++ after =
      '/' :: '*' :: '*' :: (content ++ '*' :: '/' :: after) := by
    simp [commentOf]
  rw [whole, at?, closes, Option.map_some]
  dsimp only
  rw [behind]

theorem DocComment.exists_of_at? {t : Text} {comment : DocComment} (found : at? t = some comment) :
    ∃ content after, t = commentOf content ++ after ∧ comment.ReadFrom content after := by
  obtain ⟨stars, after, stands⟩ := stands_of_at? found
  have cut : t = commentOf (comment.body.text ++ stars) ++ after := by
    rw [stands.opens, Passage.whole, stands.closes]
    simp [commentOf]
  obtain ⟨again, read, readFrom⟩ := exists_at?_commentOf stands.inside after
  rw [← cut, found] at read
  cases Option.some.inj read
  exact ⟨_, after, cut, readFrom⟩

theorem commentOf_append_inj {content content' after after' : Text} (inside : NoClosing content)
    (inside' : NoClosing content')
    (same : commentOf content ++ after = commentOf content' ++ after') :
    content = content' ∧ after = after' := by
  have cut : content ++ '*' :: '/' :: after = content' ++ '*' :: '/' :: after' := by
    simpa [commentOf] using same
  have first : upToClosing (content ++ '*' :: '/' :: after) = some ⟨content, after⟩ :=
    upToClosing_eq_some.mpr ⟨rfl, inside⟩
  have second : upToClosing (content ++ '*' :: '/' :: after) = some ⟨content', after'⟩ :=
    upToClosing_eq_some.mpr ⟨cut, inside'⟩
  cases first.symm.trans second
  exact ⟨rfl, rfl⟩

end ReferencePage
