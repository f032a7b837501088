import Mathlib.Data.List.Forall2
import Mathlib.Data.Option.Basic
import ReferencePage.Proofs.LineEndingTexts
import ReferencePage.Proofs.PropertyHeads
import ReferencePage.Run.Program

/-! Line endings make no difference to a document.  A search that meets carriage returns finds heads
in the same order, each with the same words, type and comment, as long as a type follows the colon
of every property. -/
namespace ReferencePage

open Text

/-- The form that is read where carriage returns are, and the one that is read without them. -/
structure Form.Alike (form form' : Form) : Prop where
  keyword : form'.keyword.text = form.keyword.text
  name : form'.name.text = form.name.text
  type : trim (form'.type.elim [] Passage.text) = trim (form.type.elim [] Passage.text)
  rest : RestAlike form.rest form'.rest

/-- A form is read in the same places of a source, where a word may start. -/
structure Form.ReadsAlike (form? : Text → Option Form) (source : Text) : Prop where
  advances : ∀ t form, form? t = some form → Advances t form.rest
  lineFeed : ∀ t, form? ('\n' :: t) = none
  alike : ∀ before t, source = before ++ t → wordMayStart before.getLast? = true →
    Option.Rel Form.Alike (form? t) (form? (Text.withReturns t))

section Form

variable {keywords : List Text} (words : ∀ word ∈ keywords, OneWord word) {source : Text}
include words

theorem named?_lineFeed (t : Text) : named? keywords ('\n' :: t) = none := by
  rw [Option.eq_none_iff_forall_ne_some]
  intro form found
  obtain ⟨blanks, named⟩ := named_of_named? found
  obtain ⟨c, first, isWord_c⟩ := (words _ named.keyword).exists_head?
    (blanks ++ (form.name.text ++ form.rest))
  rw [← named.cut] at first
  cases Option.some.inj first
  contradiction

theorem named?_alike (t : Text) :
    Option.Rel Form.Alike (named? keywords t) (named? keywords (withReturns t)) := by
  rw [named?_withReturns words]
  cases found : named? keywords t with
  | none => exact .none
  | some form =>
    obtain ⟨blanks, named⟩ := named_of_named? found
    refine .some ⟨?keyword, ?name, ?type, .inl rfl⟩
    case keyword => exact withReturns_oneLine (words _ named.keyword).oneLine
    case name => exact withReturns_oneLine named.word.oneLine
    case type => simp [Form.withReturns, named.untyped]

theorem named?_readsAlike : Form.ReadsAlike (named? keywords) source where
  advances := fun _ _ => advances_of_named?
  lineFeed := named?_lineFeed words
  alike := fun _ t _ _ => named?_alike words t

end Form

namespace Form

variable {source : Text}

theorem declaration?_readsAlike (source : Text) : ReadsAlike declaration? source :=
  named?_readsAlike (by decide)

theorem method?_readsAlike (source : Text) : ReadsAlike method? source :=
  named?_readsAlike (by decide)

theorem property?_alike (follow : TypesFollow source) {before t : Text} (cut : source = before ++ t)
    (starts : wordMayStart before.getLast? = true) :
    Option.Rel Form.Alike (property? t) (property? (Text.withReturns t)) := by
  have words : ∀ word ∈ propertyKeywords, OneWord word := by decide
  have alike := named?_alike words t
  have named := named?_withReturns words t
  unfold property?
  change Option.Rel _ ((named? propertyKeywords t).bind _)
    ((named? propertyKeywords (Text.withReturns t)).bind _)
  rw [named] at alike ⊢
  cases read : named? propertyKeywords t with
  | none => exact .none
  | some form =>
    rw [read] at alike
    have same := Option.rel_some_some.mp alike
    rw [Option.map_some, Option.bind_some, Option.bind_some,
      show form.withReturns.rest = Text.withReturns form.rest from rfl, trimStart_withReturns,
      after?_withReturns (by decide)]
    cases colon : after? [':'] (trimStart form.rest) with
    | none => exact .none
    | some rest =>
      have found : behindColon? t = some rest := by rw [behindColon?, read, Option.bind_some, colon]
      obtain ⟨c, first, passes⟩ := follow.endsType cut starts found
      obtain ⟨p, p', line, line', type, left⟩ := lineUpTo_withReturns (by decide) first passes
      rw [Option.map_some, Option.bind_some, Option.bind_some, line, line']
      exact .some ⟨same.keyword, same.name, type, left⟩

theorem property?_readsAlike (follow : TypesFollow source) : ReadsAlike property? source where
  advances := fun _ _ => property?_advances
  lineFeed := by
    intro t
    rw [property?, named?_lineFeed (by decide), Option.bind_none]
  alike := fun _ _ => property?_alike follow

end Form

theorem DocComment.rest_cut {t : Text} {comment : DocComment} (found : at? t = some comment) :
    ∃ opening, t = opening ++ comment.rest ∧
      ∀ before : Text, wordMayStart (before ++ opening).getLast? = true := by
  obtain ⟨stars, after, stands⟩ := stands_of_at? found
  obtain ⟨blanks, cut, blank⟩ := trimStart_cut after
  rw [← stands.rest] at cut
  refine ⟨'/' :: '*' :: '*' :: (comment.body.text ++ (stars ++ ['*'])) ++ ['/'] ++ blanks, ?_, ?_⟩
  · rw [stands.opens, Passage.whole, stands.closes, cut]
    simp
  · intro before
    rw [← List.append_assoc]
    refine wordMayStart_append ?_ fun c member => blank c (List.mem_of_getLast? member)
    rw [← List.append_assoc, List.getLast?_concat]
    decide

structure Head.Alike (head head' : Head) : Prop extends Form.Alike head.toForm head'.toForm where
  comment : head'.comment = head.comment

/-- Heads are found in the same places of a source. -/
structure Head.ReadsAlike (recognise : Recogniser Head) (source : Text) : Prop where
  advances : ∀ before t head, recognise before t = some head →
    head.start = t ∧ Advances t head.rest
  lineFeed : ∀ before t, recognise before ('\n' :: t) = none
  alike : ∀ before t, source = before ++ t →
    Option.Rel Head.Alike (recognise before.getLast? t) (recognise before.getLast? (withReturns t))

theorem afterModifiers_lineFeed (t : Text) : afterModifiers ('\n' :: t) = '\n' :: t := by
  apply afterModifiers_of_none
  rw [Option.eq_none_iff_forall_ne_some]
  intro rest found
  obtain ⟨word, member, found⟩ := List.exists_of_findSome?_eq_some found
  obtain ⟨u, begins, -⟩ := Option.bind_eq_some_iff.mp found
  obtain ⟨c, first, isWord_c⟩ := (oneWord_of_mem_modifierWords word member).exists_head? u
  rw [← after?_eq_some.mp begins] at first
  cases Option.some.inj first
  contradiction

namespace Head

variable {form? : Text → Option Form} {source : Text} (reads : Form.ReadsAlike form? source)
include reads

theorem alike_at {before t : Text} (cut : source = before ++ t)
    (starts : wordMayStart before.getLast? = true) {start start' : Text} {doc doc' : Option Passage}
    (comment : (doc'.bind fun p => plainText? p.text) = doc.bind fun p => plainText? p.text) :
    Option.Rel Alike ((form? t).map fun form => ⟨form, start, doc⟩)
      ((form? (withReturns t)).map fun form => ⟨form, start', doc'⟩) := by
  have alike := reads.alike before t cut starts
  generalize form? t = found, form? (withReturns t) = found' at alike ⊢
  cases alike with
  | some alike => exact .some ⟨alike, comment⟩
  | none => exact .none

theorem bare?_readsAlike : ReadsAlike (bare? form?) source where
  advances := by
    intro before t head found
    obtain ⟨form, read, rfl⟩ := exists_form_of_bare? found
    exact ⟨rfl, reads.advances t form read⟩
  lineFeed := by
    intro before t
    rw [bare?, reads.lineFeed]
    split <;> rfl
  alike := by
    intro before t cut
    unfold bare?
    split
    · exact alike_at reads cut ‹_› rfl
    · exact .none

theorem modified?_readsAlike : ReadsAlike (modified? form?) source where
  advances := by
    intro before t head found
    obtain ⟨-, form, read, rfl⟩ := exists_form_of_modified? found
    obtain ⟨more, cut, -⟩ := afterModifiers_cut t
    have behind : afterModifiers t <:+ t := ⟨more, cut.symm⟩
    exact ⟨rfl, (reads.advances _ form read).of_suffix behind⟩
  lineFeed := by
    intro before t
    rw [modified?, afterModifiers_lineFeed, reads.lineFeed]
    split <;> rfl
  alike := by
    intro before t cut
    unfold modified?
    rw [afterModifiers_withReturns]
    split
    · rename_i starts
      obtain ⟨more, modifiers, last⟩ := afterModifiers_cut t
      have whole : source = (before ++ more) ++ afterModifiers t := by
        rw [cut, List.append_assoc, ← modifiers]
      exact alike_at reads whole (wordMayStart_append starts last) rfl
    · exact .none

theorem documented?_readsAlike : ReadsAlike (documented? form?) source where
  advances := by
    intro before t head found
    obtain ⟨comment, opens, found⟩ := Option.bind_eq_some_iff.mp found
    obtain ⟨form, read, rfl⟩ := Option.map_eq_some_iff.mp found
    obtain ⟨opening, cut, -⟩ := DocComment.rest_cut opens
    obtain ⟨more, modifiers, -⟩ := afterModifiers_cut comment.rest
    have behind : afterModifiers comment.rest <:+ t :=
      List.IsSuffix.trans ⟨more, modifiers.symm⟩ ⟨opening, cut.symm⟩
    exact ⟨rfl, (reads.advances _ form read).of_suffix behind⟩
  lineFeed := by
    intro before t
    rfl
  alike := by
    intro before t cut
    have opens' := DocComment.at?_withReturns t
    unfold documented?
    cases opens : DocComment.at? t with
    | none =>
      rw [opens, Option.map_none, Option.map_eq_none_iff] at opens'
      rw [opens']
      exact .none
    | some comment =>
      rw [opens, Option.map_some] at opens'
      obtain ⟨comment', read', same⟩ := Option.map_eq_some_iff.mp opens'
      obtain ⟨body, rest⟩ := Prod.mk.inj same
      obtain ⟨opening, comment_cut, starts⟩ := DocComment.rest_cut opens
      obtain ⟨more, modifiers, last⟩ := afterModifiers_cut comment.rest
      have whole : source = (before ++ opening ++ more) ++ afterModifiers comment.rest := by
        rw [List.append_assoc _ more, ← modifiers, List.append_assoc, ← comment_cut, cut]
      rw [read', Option.bind_some, Option.bind_some, rest, afterModifiers_withReturns]
      refine alike_at reads whole (wordMayStart_append (starts before) last) ?_
      rw [Option.bind_some, Option.bind_some, body, plainText?_withReturns]

theorem attached?_readsAlike : ReadsAlike (attached? form?) source where
  advances := by
    intro before t head found
    rcases documented_or_modified found with first | second
    · exact (documented?_readsAlike reads).advances before t head first
    · exact (modified?_readsAlike reads).advances before t head second
  lineFeed := by
    intro before t
    rw [attached?, (documented?_readsAlike reads).lineFeed, Option.orElse_eq_or, Option.none_or]
    exact (modified?_readsAlike reads).lineFeed before t
  alike := by
    intro before t cut
    rw [attached?, Option.orElse_eq_or, attached?, Option.orElse_eq_or]
    have documented := (documented?_readsAlike reads).alike before t cut
    generalize documented? form? before.getLast? t = found,
      documented? form? before.getLast? (withReturns t) = found' at documented ⊢
    cases documented with
    | some alike => exact .some alike
    | none => exact (modified?_readsAlike reads).alike before t cut

end Head

/- A search for heads, in a text and in the same with carriage returns. -/
section Scan

variable {recognise : Recogniser Head} {source : Text}

theorem Head.ReadsAlike.fails_return (reads : ReadsAlike recognise source) {before t : Text}
    (cut : source = before ++ '\n' :: t) :
    recognise before.getLast? ('\r' :: '\n' :: withReturns t) = none := by
  have alike := reads.alike before ('\n' :: t) cut
  rw [reads.lineFeed, withReturns_lineFeed] at alike
  generalize recognise before.getLast? ('\r' :: '\n' :: withReturns t) = found at alike ⊢
  cases alike
  rfl

theorem Head.ReadsAlike.forall₂_behind (reads : ReadsAlike recognise source)
    {before t : Text} (cut : source = before ++ t) {head head' : Head}
    (found : recognise before.getLast? t = some head)
    (found' : recognise before.getLast? (withReturns t) = some head') (alike : Alike head head')
    (onward : ∀ more rest, source = more ++ rest → rest.length < t.length → List.Forall₂ Alike
      (scanFrom recognise size 0 more.getLast? rest)
      (scanFrom recognise size 0 more.getLast? (withReturns rest))) :
    List.Forall₂ Alike (scanFrom recognise size 0 before.getLast? t)
      (scanFrom recognise size 0 before.getLast? (withReturns t)) := by
  obtain ⟨start, read, nonempty, whole⟩ := reads.advances _ _ _ found
  obtain ⟨start', read', nonempty', whole'⟩ := reads.advances _ _ _ found'
  have covers : head.size = read.length := by
    rw [size, start, whole, List.length_append, Nat.add_sub_cancel]
  have covers' : head'.size = read'.length := by
    rw [size, start', whole', List.length_append, Nat.add_sub_cancel]
  have last : (before ++ read).getLast? = read.getLast? := by
    rw [List.getLast?_append, List.getLast?_eq_some_getLast nonempty, Option.some_or]
  have shorter : head.rest.length < t.length := by
    have := List.length_pos_iff.mpr nonempty
    rw [whole, List.length_append]
    omega
  rw [whole] at found
  rw [whole'] at found'
  have left := scanFrom_of_some nonempty found covers
  have right := scanFrom_of_some nonempty' found' covers'
  rw [whole', right, whole, left]
  refine .cons alike ?_
  -- A head that ends in front of a line feed took the carriage return with it; both searches pass the
  -- line feed, in which nothing begins.
  rcases alike.rest with same | ⟨u, rest, rest'⟩
  · obtain rfl : read' = withReturns read := by
      rw [whole, withReturns_append, same] at whole'
      exact (List.append_cancel_right whole').symm
    have next := onward (before ++ read) head.rest (by rw [cut, List.append_assoc, ← whole])
      (by omega)
    rw [getLast?_withReturns, same, ← last]
    exact next
  · have next := onward (before ++ read ++ ['\n']) u (by rw [cut, whole, rest]; simp)
      (by rw [rest, List.length_cons] at shorter; omega)
    rw [rest, rest', scanFrom_of_none (reads.lineFeed _ _), scanFrom_of_none (reads.lineFeed _ _)]
    rwa [List.getLast?_concat] at next

theorem Head.ReadsAlike.forall₂_scanFrom (reads : ReadsAlike recognise source) (before t : Text)
    (cut : source = before ++ t) :
    List.Forall₂ Alike (scanFrom recognise size 0 before.getLast? t)
      (scanFrom recognise size 0 before.getLast? (withReturns t)) := by
  -- By what is left: a find takes more than one character, and in step both searches see the same
  -- character before the place.
  induction length : t.length using Nat.strong_induction_on generalizing before t with
  | _ n ih =>
    have onward : ∀ more rest, source = more ++ rest → rest.length < t.length →
        List.Forall₂ Alike (scanFrom recognise size 0 more.getLast? rest)
          (scanFrom recognise size 0 more.getLast? (withReturns rest)) :=
      fun more rest cut shorter => ih _ (length ▸ shorter) more rest cut rfl
    cases t with
    | nil => exact .nil
    | cons c t =>
      have next := onward (before ++ [c]) t (by simpa using cut) (by simp)
      rw [List.getLast?_concat] at next
      by_cases same : c = '\n'
      · subst same
        rw [withReturns_lineFeed, scanFrom_of_none (reads.lineFeed _ _),
          scanFrom_of_none (reads.fails_return cut), scanFrom_of_none (reads.lineFeed _ _)]
        exact next
      · have alike := reads.alike before (c :: t) cut
        generalize here : recognise before.getLast? (c :: t) = found,
          here' : recognise before.getLast? (withReturns (c :: t)) = found' at alike
        cases alike with
        | some alike => exact reads.forall₂_behind cut here here' alike onward
        | none =>
          rw [withReturns_cons same] at here' ⊢
          rw [scanFrom_of_none here, scanFrom_of_none here']
          exact next

theorem Head.ReadsAlike.forall₂_scan (reads : ReadsAlike recognise source) :
    List.Forall₂ Alike (scan recognise size source)
      (scan recognise size (withReturns source)) :=
  reads.forall₂_scanFrom [] source rfl

end Scan

/- Members and documents. -/
section Collect

def Shape.EntersAlike {α : Type} (shape : Shape α) : Prop :=
  ∀ head head' : Head, head.Alike head' → shape.entry? head' = shape.entry? head

theorem Property.shape_entersAlike : Property.shape.EntersAlike := by
  intro head head' alike
  simp only [Shape.entry?, Property.shape, alike.name, alike.comment, alike.type]

theorem Method.shape_entersAlike : Method.shape.EntersAlike := by
  intro head head' alike
  have signature : Signature.at? head'.rest = (Signature.at? head.rest).map fun s =>
      ⟨withReturns s.parameters, s.returnType⟩ := by
    rw [← Signature.at?_trimStart, alike.rest.trimStart, Signature.at?_withReturns,
      Signature.at?_trimStart]
  simp only [Shape.entry?, Method.shape, alike.name, alike.comment, signature, Option.map_map,
    Function.comp_def, listed_withReturns]

namespace Shape

variable {α : Type} {shape : Shape α} (enters : shape.EntersAlike)
include enters

theorem foldl_add_alike {heads heads' : List Head} (alike : List.Forall₂ Head.Alike heads heads')
    (members : List α) : heads'.foldl shape.add members = heads.foldl shape.add members := by
  induction alike generalizing members with
  | nil => rfl
  | @cons head head' _ _ first _ ih =>
    have step : shape.add members head' = shape.add members head := by
      rw [add, add, first.name, enters head head' first]
    rw [List.foldl_cons, List.foldl_cons, step, ih]

theorem collect_withReturns {source : Text} (reads : Form.ReadsAlike shape.form? source)
    (members : List α) : shape.collect (withReturns source) members =
      shape.collect source members := by
  have documented := (Head.documented?_readsAlike reads).forall₂_scan
  have bare := (Head.bare?_readsAlike reads).forall₂_scan
  unfold collect collectDocumented documentedHeads bareHeads Head.documentedIn Head.bareIn
  rw [foldl_add_alike enters bare, foldl_add_alike enters documented]

end Shape

theorem Head.forall₂_declarations (source : Text) :
    List.Forall₂ Head.Alike (declarations source) (declarations (withReturns source)) :=
  (attached?_readsAlike (Form.declaration?_readsAlike source)).forall₂_scan

theorem Declaration.ofSource?_withReturns (source : Text) :
    ofSource? (withReturns source) = ofSource? source := by
  have heads := Head.forall₂_declarations source
  unfold ofSource?
  generalize Head.declarations source = found, Head.declarations (withReturns source) = found'
    at heads ⊢
  cases heads with
  | nil => rfl
  | cons first _ => simp [ofHead?, first.keyword, first.name, first.comment]

theorem Document.ofSource?_withReturns {source : Text} (follow : TypesFollow source) :
    ofSource? (withReturns source) = ofSource? source := by
  have properties := Shape.collect_withReturns Property.shape_entersAlike
    (Form.property?_readsAlike follow)
  have methods := Shape.collect_withReturns Method.shape_entersAlike
    (Form.method?_readsAlike source)
  unfold ofSource? unlinked collectMethods collectProperties
  simp only [Declaration.ofSource?_withReturns, properties, methods]

/-- A carriage return before every line feed changes neither the document nor the failure. -/
theorem Invocation.document_withReturns {source : Text} (follow : TypesFollow source)
    (path : Path) : document path (withReturns source) = document path source := by
  rw [document, document, Document.ofSource?_withReturns follow]

/-- Lines end inside comments, between parameters, in front of types and behind them. -/
def brokenSource : Text :=
  ("/** Counts\n * up. */\nclass A \x7b\n  var b:\n    C\n  /**\n   * Adds.\n   */\n" ++
    "  func d(_ e: F,\n    g: H<I,\n      J>) throws\n    -> K\n").toList

theorem Invocation.document_withReturns_brokenSource :
    TypesFollow brokenSource ∧ (Document.ofSource? brokenSource).isSome = true ∧
      document ⟨['A']⟩ (withReturns brokenSource) = document ⟨['A']⟩ brokenSource := by
  have follow : TypesFollow brokenSource := typesFollow_of_tails (by decide +kernel)
  exact ⟨follow, by decide +kernel, document_withReturns follow ⟨['A']⟩⟩

end Collect
end ReferencePage
