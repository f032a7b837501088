import Mathlib.Data.List.Infix
import ReferencePage.Proofs.CommentEnds
import ReferencePage.Proofs.Gathered
import ReferencePage.Proofs.NamedHeads
import ReferencePage.Run.Program

/-! Comments in front of something that is neither a declaration nor a member.  Such a comment
describes nothing.  As its text is searched like any other, it leaves no trace only where no
declaration, no property and no complete method begins inside it. -/
namespace ReferencePage

open Text

def commentOf (body : Text) : Text := '/' :: '*' :: '*' :: (body ++ ['*', '/'])

def headWords : List Text :=
  modifierWords ++ (Form.declarationKeywords ++ ["let".toList, "var".toList, "func".toList])

/-- The word that comes next behind blanks; empty where something else does. -/
def firstWord (t : Text) : Text := (word? (trimStart t)).elim [] Passage.text

def Head.BeginsBefore (rest : Text) (head : Head) : Prop := rest.length < head.start.length

instance (rest : Text) (head : Head) : Decidable (head.BeginsBefore rest) :=
  inferInstanceAs (Decidable (_ < _))

/-- Neither star nor slash of the closing belongs to the opening of another comment. -/
structure ClosesApart (body rest : Text) : Prop where
  behind : ¬['/', '*'] <:+ body
  ahead : ¬['*', '*'] <+: rest

/-- What is found in a comment makes no difference: a method counts only where it is complete. -/
structure Silent (comment rest : Text) : Prop where
  declarations : ∀ head ∈ Head.bareIn Form.declaration? (comment ++ rest), ¬head.BeginsBefore rest
  properties : ∀ head ∈ Property.shape.bareHeads (comment ++ rest), ¬head.BeginsBefore rest
  methods : ∀ head ∈ Method.shape.bareHeads (comment ++ rest),
    head.BeginsBefore rest → Method.shape.entry? head = none

/- A text that begins with no word of a head holds no form. -/
section FirstWord

variable {rest : Text}

theorem firstWord_eq {word more : Text} (one : OneWord word) (cut : trimStart rest = word ++ more)
    (stops : ∀ c ∈ more.head?, isWord c = false) : firstWord rest = word := by
  rw [firstWord, cut, word?_append one stops]
  rfl

variable (free : firstWord rest ∉ headWords)
include free

theorem afterModifiers_trimStart : afterModifiers (trimStart rest) = trimStart rest := by
  apply afterModifiers_of_none
  rw [Option.eq_none_iff_forall_ne_some]
  intro more found
  obtain ⟨word, member, found⟩ := List.exists_of_findSome?_eq_some found
  obtain ⟨u, begins, found⟩ := Option.bind_eq_some_iff.mp found
  have first := firstWord_eq (oneWord_of_mem_modifierWords word member) (after?_eq_some.mp begins)
    (isWord_head?_of_afterSetterMark found)
  exact free (first ▸ List.mem_append_left _ member)

theorem named?_trimStart {keywords : List Text} (words : ∀ word ∈ keywords, OneWord word)
    (listed : keywords ⊆ headWords) : named? keywords (trimStart rest) = none := by
  rw [Option.eq_none_iff_forall_ne_some]
  intro form found
  obtain ⟨keyword, member, found⟩ := List.exists_of_findSome?_eq_some found
  obtain ⟨u, begins, found⟩ := Option.bind_eq_some_iff.mp found
  obtain ⟨v, blanks, -⟩ := Option.bind_eq_some_iff.mp found
  have first := firstWord_eq (words keyword member) (after?_eq_some.mp begins)
    (isWord_head?_of_afterBlanks? blanks)
  exact free (first ▸ listed member)

theorem declaration?_trimStart : Form.declaration? (trimStart rest) = none :=
  named?_trimStart free (by decide) fun _ listed =>
    List.mem_append_right _ (List.mem_append_left _ listed)

theorem method?_trimStart : Form.method? (trimStart rest) = none :=
  named?_trimStart free (by decide) (by decide)

theorem property?_trimStart : Form.property? (trimStart rest) = none := by
  rw [Form.property?, named?_trimStart free (by decide) (by decide), Option.bind_none]

end FirstWord

/- The ends of a comment that are not empty. -/
section Inside

variable {body rest b : Text}

theorem suffix_commentOf (within : b <:+ commentOf body) (nonempty : b ≠ []) :
    b = ['/'] ∨ ∃ u, b = u ++ ['*', '/'] ∧ u <:+ '/' :: '*' :: '*' :: body := by
  have whole : commentOf body = ('/' :: '*' :: '*' :: body ++ ['*']) ++ ['/'] := by
    simp [commentOf]
  rw [whole, List.suffix_concat_iff] at within
  obtain ⟨t, rfl, shorter⟩ := within.resolve_left nonempty
  rcases List.suffix_concat_iff.mp shorter with rfl | ⟨u, rfl, shortest⟩
  · exact Or.inl rfl
  · exact Or.inr ⟨u, by simp, shortest⟩

/-- Where a comment opens inside another one: at the slash that closes that one, with its second
star at the star that does, or in front of both, so that what follows the other stands in it too. -/
inductive OpensInside (body rest t : Text) : Prop where
  | atSlash (stars : ['*', '*'] <+: rest)
  | atStar (last : ['/', '*'] <:+ body) (slash : t = '/' :: rest)
  | before (w : Text) (inner : w <:+ body) (cut : t = w ++ '*' :: '/' :: rest)

theorem opensInside (within : b <:+ commentOf body) (nonempty : b ≠ []) {t : Text}
    (opens : b ++ rest = '/' :: '*' :: '*' :: t) : OpensInside body rest t := by
  rcases suffix_commentOf within nonempty with rfl | ⟨u, rfl, shorter⟩
  · exact .atSlash ⟨t, (List.cons.inj opens).2.symm⟩
  · match u with
    | [] => simp at opens
    | [c] => simp at opens
    | [c, d] =>
      obtain ⟨rfl, rfl, slash⟩ : c = '/' ∧ d = '*' ∧ '/' :: rest = t := by simpa using opens
      exact .atStar (by simpa [List.suffix_cons_iff] using shorter) slash.symm
    | c :: d :: e :: w =>
      obtain ⟨rfl, rfl, rfl, cut⟩ : c = '/' ∧ d = '*' ∧ e = '*' ∧ w ++ '*' :: '/' :: rest = t := by
        simpa using opens
      refine .before w ?_ cut.symm
      rcases List.suffix_cons_iff.mp shorter with same | shorter
      · simp only [List.cons.injEq, true_and] at same
        exact same ▸ List.suffix_refl w
      · have later := (List.suffix_cons_iff.mp shorter).resolve_left (by simp)
        have later := (List.suffix_cons_iff.mp later).resolve_left (by simp)
        exact (List.suffix_append ['/', '*', '*'] w).trans later

theorem eq_of_comment_inside (inside : NoClosing body) (apart : ClosesApart body rest)
    (within : b <:+ commentOf body) (nonempty : b ≠ []) {comment : DocComment}
    (found : DocComment.at? (b ++ rest) = some comment) : comment.rest = trimStart rest := by
  obtain ⟨stars, after, stands⟩ := DocComment.stands_of_at? found
  cases opensInside within nonempty stands.opens with
  | atSlash stars => exact absurd stars apart.ahead
  | atStar last => exact absurd last apart.behind
  | before w inner cut =>
    have none : NoClosing w := fun closing => inside (closing.trans inner.isInfix)
    have first : upToClosing comment.body.whole = some ⟨w, rest⟩ :=
      upToClosing_eq_some.mpr ⟨cut, none⟩
    have second : upToClosing comment.body.whole = some ⟨comment.body.text ++ stars, after⟩ := by
      refine upToClosing_eq_some.mpr ⟨?_, stands.inside⟩
      rw [Passage.whole, stands.closes, List.append_assoc]
    cases first.symm.trans second
    exact stands.rest

theorem exists_stop (within : b <:+ commentOf body) (nonempty : b ≠ []) (rest : Text) :
    ∃ u stop v, b ++ rest = u ++ stop :: v ∧ Stops stop ∧ u.length < b.length := by
  rcases suffix_commentOf within nonempty with rfl | ⟨u, rfl, -⟩
  · exact ⟨[], '/', rest, rfl, stops_slash, Nat.zero_lt_one⟩
  · exact ⟨u, '*', '/' :: rest, by simp, stops_star, by simp⟩

end Inside

namespace Head

variable {form? : Text → Option Form} {rest : Text}

theorem start_of_bare? {before : Option Char} {t : Text} {head : Head}
    (found : bare? form? before t = some head) : head.start = t := by
  obtain ⟨form, -, rfl⟩ := exists_form_of_bare? found
  rfl

/-- Where no find begins in front of the rest, nothing is found there, inside other finds or not. -/
theorem bare?_eq_none {source p q : Text}
    (silent : ∀ head ∈ bareIn form? source, ¬head.BeginsBefore rest) (cut : source = p ++ q)
    (longer : rest.length < q.length) : bare? form? p.getLast? q = none := by
  rw [Option.eq_none_iff_forall_ne_some]
  intro head found
  have here : (bare? form?).Succeeds source p q head :=
    ⟨cut, List.length_pos_iff.mp (Nat.zero_lt_of_lt longer), found⟩
  -- What covers this place begins no later, so it begins in front of the rest too.
  obtain ⟨find, listed, before, after, there, place⟩ := mem_scan_of_succeeds size here
  apply silent find listed
  rw [BeginsBefore, start_of_bare? there.found]
  have sizes := congrArg List.length (there.cut.symm.trans cut)
  simp only [List.length_append] at sizes
  omega

end Head

/- A comment in front of a text that begins with no word of a head. -/
section Detached

variable {body rest : Text}

namespace Head

variable {form? : Text → Option Form} {a b : Text}

theorem documented?_eq_none (inside : NoClosing body) (apart : ClosesApart body rest)
    (free : firstWord rest ∉ headWords) (fails : form? (trimStart rest) = none)
    (cut : commentOf body = a ++ b) (nonempty : b ≠ []) :
    documented? form? a.getLast? (b ++ rest) = none := by
  rw [documented?, Option.bind_eq_none_iff]
  intro comment found
  rw [eq_of_comment_inside inside apart ⟨a, cut.symm⟩ nonempty found, afterModifiers_trimStart free,
    fails, Option.map_none]

theorem modified?_eq_none
    (silent : ∀ head ∈ bareIn form? (commentOf body ++ rest), ¬head.BeginsBefore rest)
    (cut : commentOf body = a ++ b) (nonempty : b ≠ []) :
    modified? form? a.getLast? (b ++ rest) = none := by
  obtain ⟨u, stop, v, split, stops, shorter⟩ := exists_stop ⟨a, cut.symm⟩ nonempty rest
  obtain ⟨read, read_cut, blank⟩ := afterModifiers_cut u
  have whole : commentOf body ++ rest = (a ++ read) ++ (afterModifiers u ++ stop :: v) := by
    rw [cut, List.append_assoc, split, List.append_assoc a, ← List.append_assoc read, ← read_cut]
  have longer : rest.length < (afterModifiers u ++ stop :: v).length := by
    have sizes := congrArg List.length split
    simp only [List.length_append, List.length_cons] at sizes ⊢
    omega
  have none := bare?_eq_none silent whole longer
  unfold modified?
  split
  · rename_i starts
    -- A blank ends the modifiers, so a word may start behind them where one may start here.
    have still : wordMayStart (a ++ read).getLast? = true := by
      rw [List.getLast?_append]
      cases last : read.getLast? with
      | none => exact starts
      | some c => simp [wordMayStart, isWord_of_isBlank (blank c last)]
    rw [split, afterModifiers_append_stop stops]
    rw [bare?, if_pos still, Option.map_eq_none_iff] at none
    rw [none, Option.map_none]
  · rfl

theorem size_le_of_bare? {head : Head} (cut : commentOf body = a ++ b) (nonempty : b ≠ [])
    (found : bare? Form.method? a.getLast? (b ++ rest) = some head) : head.size ≤ b.length := by
  obtain ⟨u, stop, v, split, stops, shorter⟩ := exists_stop ⟨a, cut.symm⟩ nonempty rest
  obtain ⟨form, read, rfl⟩ := exists_form_of_bare? found
  rw [split, Form.method?, named?_append_stop stops _ _ (by decide)] at read
  obtain ⟨within, -, rfl⟩ := Option.map_eq_some_iff.mp read
  have sizes := congrArg List.length split
  simp only [size, Form.extend, List.length_append, List.length_cons] at sizes ⊢
  omega

end Head

theorem getLast?_commentOf (body : Text) : (commentOf body).getLast? = some '/' := by
  rw [commentOf, ← List.cons_append, ← List.cons_append, ← List.cons_append, List.append_cons]
  exact List.getLast?_concat

theorem wordMayStart_commentOf (body : Text) :
    wordMayStart (commentOf body).getLast? = wordMayStart none := by
  rw [getLast?_commentOf]
  decide

theorem bare?_behind (form? : Text → Option Form) (body rest : Text) :
    Head.bare? form? (commentOf body).getLast? rest = Head.bare? form? none rest := by
  rw [Head.bare?, Head.bare?, wordMayStart_commentOf]

theorem attached?_behind (form? : Text → Option Form) (body rest : Text) :
    Head.attached? form? (commentOf body).getLast? rest = Head.attached? form? none rest := by
  rw [Head.attached?, Head.attached?, Head.modified?, Head.modified?, wordMayStart_commentOf]
  rfl

variable (inside : NoClosing body) (apart : ClosesApart body rest)
  (free : firstWord rest ∉ headWords) (silent : Silent (commentOf body) rest)

include inside apart free in
theorem documentedHeads_detached {α : Type} {shape : Shape α}
    (fails : shape.form? (trimStart rest) = none) :
    shape.documentedHeads (commentOf body ++ rest) = shape.documentedHeads rest :=
  scan_append_of_fails (commentOf body)
    (fun _ _ => Head.documented?_eq_none inside apart free fails) rfl

include inside apart free silent in
theorem declarations_detached :
    Head.declarations (commentOf body ++ rest) = Head.declarations rest := by
  apply scan_append_of_fails (commentOf body) _ (attached?_behind _ body rest)
  intro a b cut nonempty
  rw [Head.attached?, Head.documented?_eq_none inside apart free (declaration?_trimStart free) cut
    nonempty, Head.modified?_eq_none silent.declarations cut nonempty]
  rfl

include silent in
theorem bareHeads_property_detached :
    Property.shape.bareHeads (commentOf body ++ rest) = Property.shape.bareHeads rest := by
  refine scan_append_of_fails (commentOf body) ?_ (bare?_behind Form.property? body rest)
  intro a b cut nonempty
  apply Head.bare?_eq_none silent.properties (by rw [cut, List.append_assoc])
  rw [List.length_append]
  exact Nat.lt_add_of_pos_left (List.length_pos_iff.mpr nonempty)

include silent in
/-- The methods that begin in the comment come first, and none of them is complete. -/
theorem bareHeads_method_detached :
    ∃ incomplete, Method.shape.bareHeads (commentOf body ++ rest) =
        incomplete ++ Method.shape.bareHeads rest ∧
      ∀ head ∈ incomplete, Method.shape.entry? head = none := by
  obtain ⟨finds, whole, each⟩ := scan_append Head.size (commentOf body)
    (fun _ _ _ => Head.size_le_of_bare?) (bare?_behind Form.method? body rest)
  have heads : Method.shape.bareHeads (commentOf body ++ rest) =
      finds ++ Method.shape.bareHeads rest := whole
  refine ⟨finds, heads, ?_⟩
  intro head known
  obtain ⟨a, b, -, nonempty, found⟩ := each head known
  apply silent.methods head (heads ▸ List.mem_append_left _ known)
  rw [Head.BeginsBefore, Head.start_of_bare? found, List.length_append]
  exact Nat.lt_add_of_pos_left (List.length_pos_iff.mpr nonempty)

include inside apart free silent in
theorem collect_property_detached (entries : List Property) :
    Property.shape.collect (commentOf body ++ rest) entries =
      Property.shape.collect rest entries := by
  rw [Shape.collect_eq_foldl, Shape.collect_eq_foldl, Shape.heads, Shape.heads,
    bareHeads_property_detached silent,
    documentedHeads_detached inside apart free (property?_trimStart free)]

include inside apart free silent in
theorem collect_method_detached (entries : List Method) :
    Method.shape.collect (commentOf body ++ rest) entries = Method.shape.collect rest entries := by
  obtain ⟨incomplete, heads, nothing⟩ := bareHeads_method_detached silent
  have nothing_added : ∀ members : List Method,
      incomplete.foldl Method.shape.add members = members := by
    intro members
    apply Shape.foldl_add_eq_self
    intro head known complete
    rw [nothing head known] at complete
    contradiction
  rw [Shape.collect_eq_foldl, Shape.collect_eq_foldl, Shape.heads, Shape.heads, heads,
    documentedHeads_detached inside apart free (method?_trimStart free), List.foldl_append,
    List.foldl_append, List.foldl_append, nothing_added]

include inside apart free silent in
theorem Document.ofSource?_detached : ofSource? (commentOf body ++ rest) = ofSource? rest := by
  unfold ofSource? Declaration.ofSource? unlinked collectMethods collectProperties
  rw [declarations_detached inside apart free silent]
  simp only [collect_property_detached inside apart free silent,
    collect_method_detached inside apart free silent]

include inside apart free silent in
/-- In front of anything but a head, a comment in which nothing is found changes nothing. -/
theorem Invocation.document_detached (path : Path) :
    document path (commentOf body ++ rest) = document path rest := by
  rw [document, document, Document.ofSource?_detached inside apart free silent]

end Detached

def headerNote : Text := " Not a class: what func count and let do. ".toList

def headedSource : Text := "\nimport UIKit\n\nstruct Point \x7b\n  let x: Int\n\x7d".toList

theorem Invocation.document_detached_headerNote :
    NoClosing headerNote ∧ ClosesApart headerNote headedSource ∧
      firstWord headedSource ∉ headWords ∧ Silent (commentOf headerNote) headedSource ∧
      (Method.shape.bareHeads (commentOf headerNote ++ headedSource)).length = 1 ∧
      document ⟨['A']⟩ (commentOf headerNote ++ headedSource) =
        document ⟨['A']⟩ headedSource := by
  have inside : NoClosing headerNote := by decide
  have apart : ClosesApart headerNote headedSource := ⟨by decide, by decide⟩
  have free : firstWord headedSource ∉ headWords := by decide +kernel
  have silent : Silent (commentOf headerNote) headedSource :=
    ⟨by decide +kernel, by decide +kernel, by decide +kernel⟩
  refine ⟨inside, apart, free, silent, by decide +kernel, ?_⟩
  exact document_detached inside apart free silent ⟨['A']⟩

def Document.outline (d : Document) : Text × Bool × List Text × List Text :=
  (d.declaration.name, d.declaration.comment.isSome, d.properties.map fun p => p.name,
    d.methods.map fun m => m.name)

/-- Comments that leave a trace, each with what follows it: words of the first three declare a type,
a property and a method, and the slash that closes the last one opens another comment. -/
def tracedComments : List (Text × Text) :=
  [(" The class that counts. ".toList, headedSource),
    (" Says let y: Int so. ".toList, headedSource),
    (" Calls func add(n) so. ".toList, headedSource),
    (" One".toList, "** Two */ struct Point \x7b\x7d".toList)]

theorem Invocation.toOption_document (path : Path) (source : Text) :
    (document path source).toOption = Document.ofSource? source := by
  unfold document
  cases Document.ofSource? source <;> rfl

theorem Invocation.document_ne_of_mem_tracedComments :
    ∀ detached ∈ tracedComments, NoClosing detached.1 ∧ detached.1.head? ≠ some '/' ∧
      firstWord detached.2 ∉ headWords ∧
        document ⟨['A']⟩ (commentOf detached.1 ++ detached.2) ≠ document ⟨['A']⟩ detached.2 := by
  have outlines : ∀ detached ∈ tracedComments, NoClosing detached.1 ∧
      detached.1.head? ≠ some '/' ∧ firstWord detached.2 ∉ headWords ∧
        (Document.ofSource? (commentOf detached.1 ++ detached.2)).map Document.outline ≠
          (Document.ofSource? detached.2).map Document.outline := by
    decide +kernel
  intro detached listed
  obtain ⟨inside, first, free, differ⟩ := outlines detached listed
  refine ⟨inside, first, free, ?_⟩
  intro same
  apply differ
  rw [← toOption_document ⟨['A']⟩, same, toOption_document]

/-- The text of a comment is searched like any other, so one in front of anything but a head can
still declare something. -/
theorem Invocation.not_document_detached :
    ¬∀ (path : Path) (body rest : Text), NoClosing body → body.head? ≠ some '/' →
      firstWord rest ∉ headWords →
        document path (commentOf body ++ rest) = document path rest := by
  intro claim
  obtain ⟨inside, first, free, differ⟩ :=
    document_ne_of_mem_tracedComments _ (List.mem_cons_self ..)
  exact differ (claim ⟨['A']⟩ _ _ inside first free)

end ReferencePage
