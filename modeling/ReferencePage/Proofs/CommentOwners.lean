import ReferencePage.Proofs.AttachedHeads
import ReferencePage.Proofs.PropertyHeads

/-! No comment describes two things.  Where a comment ends, the text behind it decides what it can
describe: a type, a property or a method, and which one; and what is found of one kind never ends
in the same place twice. -/
namespace ReferencePage

open Text

namespace Text

theorem byteLength_eq_zero {t : Text} (none : byteLength t = 0) : t = [] := by
  cases t with
  | nil => rfl
  | cons c t =>
    have size := c.utf8Size_pos
    simp only [byteLength] at none
    omega

theorem eq_of_suffix_of_byteLength {s t source : Text} (first : s <:+ source)
    (second : t <:+ source)
    (same : byteLength s = byteLength t) : s = t := by
  rcases List.suffix_or_suffix_of_suffix first second with ⟨r, rfl⟩ | ⟨r, rfl⟩
  · rw [byteLength_append] at same
    rw [byteLength_eq_zero (t := r) (by omega), List.nil_append]
  · rw [byteLength_append] at same
    rw [byteLength_eq_zero (t := r) (by omega), List.nil_append]

theorem byteLength_le_of_suffix {s source : Text} (within : s <:+ source) :
    byteLength s ≤ byteLength source := by
  obtain ⟨r, rfl⟩ := within
  rw [byteLength_append]
  exact Nat.le_add_left _ _

end Text

theorem keyword_eq_of_named? {keywords keywords' : List Text}
    (words : ∀ word ∈ keywords, OneWord word) (words' : ∀ word ∈ keywords', OneWord word) {t : Text}
    {form form' : Form} (read : named? keywords t = some form)
    (read' : named? keywords' t = some form') : ∃ word ∈ keywords, word ∈ keywords' := by
  obtain ⟨head, after, cut, -⟩ := NamedHead.exists_of_named? read
  obtain ⟨head', after', cut', -⟩ := NamedHead.exists_of_named? read'
  have first := head.word?_text words after
  rw [← cut, cut', head'.word?_text words' after'] at first
  obtain ⟨same, -⟩ := Passage.mk.inj (Option.some.inj first)
  exact ⟨head.keyword, head.known, same ▸ head'.known⟩

def Form.Apart (form? form'? : Text → Option Form) : Prop :=
  ∀ t form form', form? t = some form → form'? t ≠ some form'

namespace Form

theorem exists_of_property? {t : Text} {form : Form} (read : property? t = some form) :
    ∃ front, named? propertyKeywords t = some front := by
  obtain ⟨front, named, -⟩ := Option.bind_eq_some_iff.mp read
  exact ⟨front, named⟩

theorem apart_declaration?_property? : Apart declaration? property? := by
  intro t form form' read read'
  obtain ⟨front, named⟩ := exists_of_property? read'
  obtain ⟨word, known, known'⟩ := keyword_eq_of_named? (by decide) (by decide) read named
  revert word
  decide

theorem apart_declaration?_method? : Apart declaration? method? := by
  intro t form form' read read'
  obtain ⟨word, known, known'⟩ := keyword_eq_of_named? (by decide) (by decide) read read'
  revert word
  decide

theorem apart_property?_method? : Apart property? method? := by
  intro t form form' read read'
  obtain ⟨front, named⟩ := exists_of_property? read
  obtain ⟨word, known, known'⟩ := keyword_eq_of_named? (by decide) (by decide) named read'
  revert word
  decide

end Form

namespace Head

variable {form? form'? : Text → Option Form} {source : Text} {x y : Head}

/-- The head was found in the source together with a comment in front of its form. -/
def FoundWith (form? : Text → Option Form) (source : Text) (x : Head) : Prop :=
  ∃ content behind, x.MadeOf form? content behind ∧ x.start <:+ source

theorem foundWith_of_succeeds {before rest : Text}
    (here : (documented? form?).Succeeds source before rest x) : x.FoundWith form? source := by
  obtain ⟨start, content, behind, made⟩ := exists_madeOf here.found
  exact ⟨content, behind, made, start ▸ here.cut ▸ List.suffix_append before rest⟩

theorem foundWith_of_mem_documentedIn (known : x ∈ documentedIn form? source) :
    x.FoundWith form? source := by
  obtain ⟨before, rest, here⟩ := succeeds_of_mem_scan known
  exact foundWith_of_succeeds here

theorem foundWith_of_mem_declarations (known : x ∈ declarations source) {p : Passage}
    (part : x.commentPart = some p) : x.FoundWith Form.declaration? source := by
  obtain ⟨before, rest, here⟩ := succeeds_of_mem_scan known
  rcases documented_or_modified here.found with first | second
  · exact foundWith_of_succeeds ⟨here.cut, here.inside, first⟩
  · obtain ⟨-, form, -, rfl⟩ := exists_form_of_modified? second
    contradiction

theorem exists_behind (found : x.FoundWith form? source) (found' : y.FoundWith form'? source)
    {p q : Passage} (part : x.commentPart = some p) (part' : y.commentPart = some q)
    (same : p.stopByte source = q.stopByte source) :
    ∃ t, form? t = some x.toForm ∧ form'? t = some y.toForm := by
  obtain ⟨content, behind, made, within⟩ := found
  obtain ⟨content', behind', made', within'⟩ := found'
  rw [made.commentPart] at part
  rw [made'.commentPart] at part'
  cases part
  cases part'
  have suffix : behind <:+ source := (made.start ▸ List.suffix_append _ behind).trans within
  have suffix' : behind' <:+ source := (made'.start ▸ List.suffix_append _ behind').trans within'
  have sizes : byteLength behind = byteLength behind' := by
    have := byteLength_le_of_suffix suffix
    have := byteLength_le_of_suffix suffix'
    dsimp only [Passage.stopByte] at same
    omega
  cases eq_of_suffix_of_byteLength suffix suffix' sizes
  exact ⟨_, made.form, made'.form⟩

def EndApart (source : Text) (x y : Head) : Prop :=
  ∀ p, x.commentPart = some p → ∀ q, y.commentPart = some q →
    p.stopByte source ≠ q.stopByte source

theorem endApart_of_apart (apart : Form.Apart form? form'?) (found : x.FoundWith form? source)
    (found' : y.FoundWith form'? source) : EndApart source x y := by
  intro p part q part' same
  obtain ⟨t, read, read'⟩ := exists_behind found found' part part' same
  exact apart t _ _ read read'

/-- Of one kind, the next find begins where the last one has ended, so it ends later. -/
theorem pairwise_endApart (advances : ∀ t form, form? t = some form → Advances t form.rest)
    (source : Text) : (documentedIn form? source).Pairwise (EndApart source) := by
  refine (pairwise_documentedIn advances source).imp_of_mem ?_
  intro x y known known' ordered p part q part' same
  have found' := foundWith_of_mem_documentedIn known'
  obtain ⟨t, read, read'⟩ := exists_behind (foundWith_of_mem_documentedIn known) found' part part'
    same
  rw [read] at read'
  have rests : x.rest = y.rest := congrArg Form.rest (Option.some.inj read')
  obtain ⟨content, behind, made, -⟩ := found'
  have longer := made.length_rest_lt advances
  rw [rests] at ordered
  omega

/-- The heads that comments are looked for in front of: the declaration, properties and methods. -/
def described (source : Text) : List Head :=
  (declarations source).head?.toList ++
    (documentedIn Form.property? source ++ documentedIn Form.method? source)

theorem pairwise_described (source : Text) : (described source).Pairwise (EndApart source) := by
  have declared : ∀ x ∈ (declarations source).head?.toList, x ∈ declarations source := by
    intro x member
    exact List.mem_of_head? (Option.mem_toList.mp member)
  refine List.pairwise_append.mpr ⟨?single, List.pairwise_append.mpr
    ⟨pairwise_endApart (fun _ _ => Form.property?_advances) source,
      pairwise_endApart (fun _ _ => advances_of_named?) source, ?members⟩, ?others⟩
  case single =>
    cases (declarations source).head? with
    | none => exact .nil
    | some x => exact List.pairwise_singleton _ _
  case members =>
    intro x known y known'
    exact endApart_of_apart Form.apart_property?_method? (foundWith_of_mem_documentedIn known)
      (foundWith_of_mem_documentedIn known')
  case others =>
    intro x known y known' p part
    have found := foundWith_of_mem_declarations (declared x known) part
    rcases List.mem_append.mp known' with known' | known'
    · exact endApart_of_apart Form.apart_declaration?_property? found
        (foundWith_of_mem_documentedIn known') p part
    · exact endApart_of_apart Form.apart_declaration?_method? found
        (foundWith_of_mem_documentedIn known') p part

/-- Where the comments end that are attached to something. -/
def commentStops (source : Text) : List Nat :=
  (described source).filterMap fun x => x.commentPart.map fun p => p.stopByte source

/-- Attached comments end in different places, each with its own star and slash. -/
theorem nodup_commentStops (source : Text) : (commentStops source).Nodup ∧
    ∀ x ∈ described source, ∀ p, x.commentPart = some p →
      p.whole <:+ source ∧ ∃ content, p.text = commentOf content ∧ NoClosing content := by
  refine ⟨?nodup, ?ends⟩
  case nodup =>
    refine List.pairwise_filterMap.mpr ((pairwise_described source).imp ?_)
    intro x y apart a stop b stop'
    obtain ⟨p, part, rfl⟩ := Option.map_eq_some_iff.mp stop
    obtain ⟨q, part', rfl⟩ := Option.map_eq_some_iff.mp stop'
    exact apart p part q part'
  case ends =>
    intro x known p part
    obtain ⟨form?, content, behind, made, within⟩ : ∃ form?, x.FoundWith form? source := by
      rcases List.mem_append.mp known with known | known
      · exact ⟨_, foundWith_of_mem_declarations
          (List.mem_of_head? (Option.mem_toList.mp known)) part⟩
      · rcases List.mem_append.mp known with known | known
        · exact ⟨_, foundWith_of_mem_documentedIn known⟩
        · exact ⟨_, foundWith_of_mem_documentedIn known⟩
    rw [made.commentPart] at part
    cases part
    refine ⟨?_, content, rfl, made.inside⟩
    rw [Passage.whole, ← made.start]
    exact within

/- A comment for each of the three, one of them with a second opening inside, and one that is
attached to nothing. -/
def commentedSource : Text :=
  "/** é */ /** A /** type. */ final class A \x7b\n/** P. **/ var p: Int\n/** M. */ func m() \x7b".toList

theorem nodup_commentStops_commentedSource : commentStops commentedSource = [28, 55, 76] ∧
    (commentStops commentedSource).Nodup ∧
    ∃ x ∈ described commentedSource, ∃ p, x.commentPart = some p ∧
      p.text = "/** P. **/".toList ∧ p.whole <:+ commentedSource ∧
      ∃ content, p.text = commentOf content ∧ NoClosing content := by
  have stops : commentStops commentedSource = [28, 55, 76] := by decide +kernel
  have some_part : (described commentedSource).any (fun x =>
      x.commentPart.any fun p => p.text = "/** P. **/".toList) = true := by decide +kernel
  obtain ⟨x, known, has⟩ := List.any_eq_true.mp some_part
  obtain ⟨p, part, text⟩ := (Option.any_eq_true _ _).mp has
  have facts := (nodup_commentStops commentedSource).2 x known p part
  exact ⟨stops, (nodup_commentStops commentedSource).1, x, known, p, part, of_decide_eq_true text,
    facts⟩

end Head
end ReferencePage
