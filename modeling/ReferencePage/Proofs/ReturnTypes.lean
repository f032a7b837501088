import ReferencePage.Proofs.BracketEnds
import ReferencePage.Proofs.NamedHeads
import ReferencePage.Proofs.PageReading

/-! What a method returns.  Effects and an arrow may follow its parameters, and what the line holds
behind the arrow, up to a body, is the return type.  Where nothing is, no type is read, and the page
says nothing of one. -/
namespace ReferencePage

open Text

/-- What is left of a text behind any number of effects.  Blanks may stand in front of each, and
each ends where a word ends. -/
inductive BehindEffects : Text → Text → Prop where
  | here (t : Text) : BehindEffects t t
  | effect {blanks word t left : Text} (blank : ∀ c ∈ blanks, isBlank c = true)
      (known : word ∈ effectWords) (border : ∀ c ∈ t.head?, isWord c = false)
      (further : BehindEffects t left) : BehindEffects (blanks ++ (word ++ t)) left

def untilBody (t : Text) : Text := t.takeWhile fun c => c != '\x7b' && c != '\n'

/-- A type is returned where effects, an arrow and then something other than a body follow.  Blanks
may stand in front of the arrow and behind it, line feeds among them. -/
inductive Returns (t : Text) : Text → Prop where
  | arrow {gap blanks behind : Text} {c : Char}
      (effects : BehindEffects t (gap ++ '-' :: '>' :: (blanks ++ c :: behind)))
      (gapBlank : ∀ d ∈ gap, isBlank d = true) (blank : ∀ d ∈ blanks, isBlank d = true)
      (solid : isBlank c = false) (noBody : c ≠ '\x7b') : Returns t (trim (untilBody (c :: behind)))

/- Effects. -/
section Effects

variable {t left rest : Text}

theorem afterEffect?_eq_some : afterEffect? t = some rest ↔
    ∃ blanks word, t = blanks ++ (word ++ rest) ∧ (∀ c ∈ blanks, isBlank c = true) ∧
      word ∈ effectWords ∧ ∀ c ∈ rest.head?, isWord c = false := by
  have ends : ∀ u : Text, (!u.head?.any isWord) = true ↔ ∀ c ∈ u.head?, isWord c = false := by
    intro u
    cases u.head? <;> simp
  constructor
  · intro found
    obtain ⟨word, known, found⟩ := List.exists_of_findSome?_eq_some found
    obtain ⟨begins, border⟩ := Option.filter_eq_some_iff.mp found
    obtain ⟨blanks, cut, blank⟩ := trimStart_cut t
    rw [after?_eq_some.mp begins] at cut
    exact ⟨blanks, word, cut, blank, known, (ends rest).mp border⟩
  · rintro ⟨blanks, word, rfl, blank, known, border⟩
    have one := oneWord_of_mem_effectWords word known
    have begins : trimStart (blanks ++ (word ++ rest)) = word ++ rest :=
      trimStart_blanks_append blank (isBlank_head?_of_oneWord one rest)
    rw [afterEffect?, begins]
    apply findSome?_eq_some_of_unique known
    · rw [after?_eq_some.mpr rfl, Option.filter_some, if_pos ((ends rest).mpr border)]
    · intro other member u found
      obtain ⟨same, border'⟩ := Option.filter_eq_some_iff.mp found
      exact (oneWord_append_inj one (oneWord_of_mem_effectWords other member) border
        ((ends u).mp border') (after?_eq_some.mp same)).2.symm

theorem behindEffects_afterEffects (t : Text) : BehindEffects t (afterEffects t) := by
  induction t using afterEffects.induct with
  | case1 t u found _ ih =>
    obtain ⟨blanks, word, cut, blank, known, border⟩ := afterEffect?_eq_some.mp found
    rw [afterEffects_of_some found, cut]
    exact .effect blank known border ih
  | case2 t none =>
    rw [afterEffects_of_none none]
    exact .here t

theorem BehindEffects.afterEffects_eq (behind : BehindEffects t left) :
    afterEffects t = afterEffects left := by
  induction behind with
  | here t => rfl
  | @effect blanks word t left blank known border further ih =>
    have found := afterEffect?_eq_some.mpr ⟨blanks, word, rfl, blank, known, border⟩
    rw [afterEffects_of_some found, ih]

end Effects

/- The text behind an arrow. -/
section Arrow

variable {t type : Text}

theorem exists_of_lineUpTo {p : Passage} (found : lineUpTo endsReturnType t = some p)
    (nonempty : trim p.text ≠ []) :
    ∃ c behind, trimStart t = c :: behind ∧ c ≠ '\x7b' ∧ p.text = untilBody (c :: behind) := by
  rcases lineUpTo_cases found with taken | ⟨-, blank, one, isBlank_blank, -⟩
  · cases cut : trimStart t with
    | nil =>
      rw [cut] at taken
      rw [← taken] at nonempty
      exact absurd rfl nonempty
    | cons c behind =>
      rw [cut] at taken
      refine ⟨c, behind, rfl, ?_, taken.symm⟩
      rintro rfl
      rw [← taken, List.takeWhile_cons_of_neg (by decide)] at nonempty
      exact absurd rfl nonempty
  · refine absurd ?_ nonempty
    simp [one, trim, trimStart, trimEnd, isBlank_blank]

theorem lineUpTo_of_cons {c : Char} {behind : Text} (cut : trimStart t = c :: behind)
    (noBody : c ≠ '\x7b') :
    ∃ p, lineUpTo endsReturnType t = some p ∧ p.text = untilBody (c :: behind) ∧
      trim p.text ≠ [] := by
  have solid := isBlank_head?_trimStart t c (by rw [cut]; rfl)
  have passes : endsReturnType c = false := by simpa [endsReturnType] using noBody
  obtain ⟨text, rest, whole, nonempty, inside, stops⟩ :=
    trimStart_cut_of_head? (by rw [cut]; rfl) passes
  have read := lineUpTo_cut whole nonempty inside stops
  obtain ⟨d, text, rfl⟩ := List.exists_cons_of_ne_nil nonempty
  obtain ⟨rfl, -⟩ := List.cons.inj (cut.symm.trans whole)
  refine ⟨_, read, ?_, ?_⟩
  · rcases lineUpTo_cases read with taken | ⟨-, blank, one, isBlank_blank, -⟩
    · rw [← taken, cut]
      rfl
    · obtain ⟨rfl, -⟩ := List.cons.inj one
      rw [solid] at isBlank_blank
      contradiction
  · rw [trim, trimStart_eq_self (by simpa using solid), Ne, trimEnd_eq_nil]
    intro all
    rw [all c List.mem_cons_self] at solid
    contradiction

theorem returnType?_eq_some : returnType? t = some type ↔ Returns t type := by
  constructor
  · intro found
    obtain ⟨found, nonempty⟩ := Option.filter_eq_some_iff.mp found
    obtain ⟨p, read, rfl⟩ := Option.map_eq_some_iff.mp found
    obtain ⟨rest, arrow, line⟩ := Option.bind_eq_some_iff.mp read
    obtain ⟨gap, cut, gapBlank⟩ := trimStart_cut (afterEffects t)
    obtain ⟨blanks, behind_cut, blank⟩ := trimStart_cut rest
    obtain ⟨c, behind, first, noBody, text⟩ :=
      exists_of_lineUpTo line (of_decide_eq_true nonempty)
    rw [after?_eq_some.mp arrow, behind_cut, first] at cut
    have effects := behindEffects_afterEffects t
    rw [cut] at effects
    rw [text]
    exact .arrow effects gapBlank blank (isBlank_head?_trimStart rest c (by rw [first]; rfl)) noBody
  · rintro ⟨effects, gapBlank, blank, solid, noBody⟩
    rename_i gap blanks behind c
    have left : afterEffects t = gap ++ '-' :: '>' :: (blanks ++ c :: behind) := by
      rw [effects.afterEffects_eq, afterEffects_hyphen gapBlank]
    have arrow : trimStart (afterEffects t) = "->".toList ++ (blanks ++ c :: behind) := by
      rw [left]
      exact trimStart_blanks_append gapBlank (by simp [isBlank_hyphen])
    have first : trimStart (blanks ++ c :: behind) = c :: behind :=
      trimStart_blanks_append blank (by simpa using solid)
    obtain ⟨p, read, text, nonempty⟩ := lineUpTo_of_cons first noBody
    rw [returnType?, returnForm?, arrow, after?_eq_some.mpr rfl, Option.bind_some, read,
      Option.map_some, Option.filter_some, if_pos (by simpa using nonempty), text]

theorem Returns.ne_nil (returns : Returns t type) : type ≠ [] :=
  (returnType_of_returnType? (returnType?_eq_some.mpr returns)).nonempty

end Arrow

/- The page. -/
section Shown

def Method.entryWith (fenceLanguage arrow paragraph : Text) (m : Method) : Text :=
  m.heading
    ++ "```".toList ++ fenceLanguage ++ endOfLine
    ++ m.name ++ '(' :: Parameter.list m.parameters ++ ')' :: arrow ++ "\n```".toList
    ++ endOfParagraph
    ++ "**Description:** ".toList ++ m.description ++ endOfParagraph
    ++ Parameter.paragraph m.parameters ++ paragraph

/-- The page shows a type in both places, or it shows none in either. -/
def Method.Shows (m : Method) : Option Text → Prop
  | none => ∀ fenceLanguage, m.entry fenceLanguage = m.entryWith fenceLanguage [] []
  | some type => ∀ fenceLanguage, m.entry fenceLanguage =
      m.entryWith fenceLanguage (" -> ".toList ++ type)
        ("**Returns:** `".toList ++ type ++ "`\n\n".toList)

theorem Method.shows (m : Method) :
    m.Shows (if m.returnType = voidType then none else some m.returnType) := by
  split
  · rename_i void
    have none : m.returnsValue = false := by simp [returnsValue, void]
    intro fenceLanguage
    unfold entry entryWith declared Parameter.paragraph
    simp only [none, Bool.false_eq_true, if_false, List.append_nil, List.append_assoc,
      List.cons_append, List.nil_append]
  · rename_i other
    have value : m.returnsValue = true := by simpa [returnsValue] using other
    intro fenceLanguage
    unfold entry entryWith declared Parameter.paragraph
    simp only [value, if_true, List.append_assoc, List.cons_append, List.nil_append]

end Shown

namespace Signature

variable {rest : Text} {s : Signature}

theorem exists_tail_of_at? (found : at? rest = some s) :
    ∃ inner p, BehindClause rest ('(' :: inner) ∧ ListUpTo inner p ∧
      s = ⟨p.text, returnType? p.rest⟩ := by
  obtain ⟨left, generics, found⟩ := Option.bind_eq_some_iff.mp found
  obtain ⟨p, read, rfl⟩ := Option.map_eq_some_iff.mp found
  obtain ⟨inner, rfl, reaches⟩ := parameterText?_eq_some.mp read
  exact ⟨inner, p, afterGenerics?_eq_some.mp generics, reaches, rfl⟩

/-- Behind the parenthesis that ends the parameters, effects, an arrow and the rest of the line
decide what a method returns.  Where no type follows, it is the placeholder, and neither the head of
the method on the page nor a paragraph shows one. -/
theorem at?_returns (found : at? rest = some s) :
    ∃ inner p, BehindClause rest ('(' :: inner) ∧ ListUpTo inner p ∧ s.parameters = p.text ∧
      (∀ type, s.returnType = some type ↔ Returns p.rest type) ∧
      (∀ type, Returns p.rest type → type ≠ []) ∧
      ∀ (head : Head) member, head.rest = rest →
        ∃ m, Method.shape.complete? head member = some m ∧
          ((∀ type, ¬Returns p.rest type) → m.returnType = voidType ∧ m.Shows none) ∧
          (∀ type, Returns p.rest type → m.returnType = type ∧
            m.Shows (if type = voidType then none else some type)) ∧
          (m.returnsValue = false ↔ (∀ type, ¬Returns p.rest type) ∨ Returns p.rest voidType) := by
  obtain ⟨inner, p, behind, reaches, rfl⟩ := exists_tail_of_at? found
  refine ⟨inner, p, behind, reaches, rfl, fun type => returnType?_eq_some,
    fun type => Returns.ne_nil, ?_⟩
  rintro head member rfl
  refine ⟨method ⟨p.text, returnType? p.rest⟩ member, ?_⟩
  have made : Method.shape.complete? head member =
      some (method ⟨p.text, returnType? p.rest⟩ member) := congrArg (Option.map _) found
  have nothing : returnType? p.rest = none ↔ ∀ type, ¬Returns p.rest type := by
    rw [Option.eq_none_iff_forall_ne_some]
    exact forall_congr' fun type => not_congr returnType?_eq_some
  have shows := (method ⟨p.text, returnType? p.rest⟩ member).shows
  refine ⟨made, fun none => ?none, fun type returns => ?some, ?_⟩
  case none =>
    have void : (method ⟨p.text, returnType? p.rest⟩ member).returnType = voidType := by
      rw [method, nothing.mpr none]
      rfl
    rw [void, if_pos rfl] at shows
    exact ⟨void, shows⟩
  case some =>
    have read : (method ⟨p.text, returnType? p.rest⟩ member).returnType = type := by
      rw [method, returnType?_eq_some.mpr returns]
      rfl
    rw [read] at shows
    exact ⟨read, shows⟩
  · rw [← nothing, ← returnType?_eq_some, Method.returnsValue, method]
    cases returnType? p.rest <;> simp

/- An arrow among the parameters, two effects, and line feeds on both sides of the arrow. -/
def arrowTail : Text := " <T>(a: (Int) -> Int) async\n rethrows\n ->\n\t[T] \x7b".toList

theorem at?_returns_arrowTail : ∃ s, at? arrowTail = some s ∧
    s.returnType = some "[T]".toList ∧ ∃ inner p, BehindClause arrowTail ('(' :: inner) ∧
      ListUpTo inner p ∧ Returns p.rest "[T]".toList := by
  have read : (at? arrowTail).any (fun s => s.returnType = some "[T]".toList) = true := by
    decide +kernel
  obtain ⟨s, found, facts⟩ := (Option.any_eq_true _ _).mp read
  have type := of_decide_eq_true facts
  obtain ⟨inner, p, behind, reaches, -, returned, -⟩ := at?_returns found
  exact ⟨s, found, type, inner, p, behind, reaches, (returned _).mp type⟩

end Signature
end ReferencePage
