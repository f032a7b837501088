import Mathlib.Data.List.Infix
import ReferencePage.Proofs.Finds
import ReferencePage.Proofs.SignatureReading

/-! Where the brackets behind a method's name end, said without a depth.  A bracket closes a clause
or a list where as many were closed as opened since; it is the first that does. -/
namespace ReferencePage

open Text

/-- The first `mark` in a text with something that fits in front of it. -/
structure FirstCut (mark : Char) (fits : Text → Prop) (t : Text) (p : Passage) : Prop where
  cut : t = p.text ++ mark :: p.rest
  here : fits p.text
  first : ∀ s u, t = s ++ mark :: u → fits s → p.text.length ≤ s.length

section FirstCut

variable {mark c : Char} {fits : Text → Prop} {t : Text} {p : Passage}

theorem FirstCut.unique {q : Passage} (cut : FirstCut mark fits t p)
    (other : FirstCut mark fits t q) : p = q := by
  have sizes := Nat.le_antisymm (cut.first q.text q.rest other.cut other.here)
    (other.first p.text p.rest cut.cut cut.here)
  obtain ⟨text, tail⟩ := List.append_inj (cut.cut.symm.trans other.cut) sizes
  obtain ⟨-, rest⟩ := List.cons.inj tail
  cases p
  cases q
  cases text
  cases rest
  rfl

theorem firstCut_here (fit : fits []) : FirstCut mark fits (mark :: t) ⟨[], t⟩ :=
  ⟨rfl, fit, fun s _ _ _ => Nat.zero_le s.length⟩

theorem firstCut_cons (apart : c = mark → ¬fits []) : FirstCut mark fits (c :: t) p ↔
    ∃ q, FirstCut mark (fun s => fits (c :: s)) t q ∧ p = ⟨c :: q.text, q.rest⟩ := by
  constructor
  · rintro ⟨cut, here, first⟩
    obtain ⟨text, rest⟩ := p
    cases text with
    | nil => exact absurd here (apart (List.cons.inj cut).1)
    | cons d text =>
      obtain ⟨rfl, cut⟩ := List.cons.inj cut
      refine ⟨⟨text, rest⟩, ⟨cut, here, ?_⟩, rfl⟩
      intro s u later fit
      exact Nat.le_of_succ_le_succ (first (c :: s) u (congrArg (c :: ·) later) fit)
  · rintro ⟨q, ⟨cut, here, first⟩, rfl⟩
    refine ⟨congrArg (c :: ·) cut, here, ?_⟩
    intro s u later fit
    cases s with
    | nil => exact absurd fit (apart (List.cons.inj later).1)
    | cons d s =>
      obtain ⟨rfl, tail⟩ := List.cons.inj later
      exact Nat.succ_le_succ (first s u tail fit)

theorem exists_firstCut {s u : Text} (cut : t = s ++ mark :: u) (fit : fits s) :
    ∃ p, FirstCut mark fits t p := by
  induction t generalizing fits s with
  | nil => simp at cut
  | cons c t ih =>
    by_cases here : c = mark ∧ fits []
    · exact ⟨⟨[], t⟩, here.1 ▸ firstCut_here here.2⟩
    · have apart : c = mark → ¬fits [] := fun same fit => here ⟨same, fit⟩
      cases s with
      | nil => exact absurd fit (apart (List.cons.inj cut).1)
      | cons d s =>
        obtain ⟨rfl, tail⟩ := List.cons.inj cut
        obtain ⟨q, first⟩ := @ih (fun s => fits (c :: s)) s tail fit
        exact ⟨⟨c :: q.text, q.rest⟩, (firstCut_cons apart).mpr ⟨q, first, rfl⟩⟩

theorem eq_none_of_firstCut {found : Option Passage}
    (finds : ∀ p, found = some p ↔ FirstCut mark fits t p) :
    found = none ↔ ∀ s u, t = s ++ mark :: u → ¬fits s := by
  constructor
  · rintro rfl s u cut fit
    obtain ⟨p, first⟩ := exists_firstCut cut fit
    cases (finds p).mpr first
  · intro nowhere
    rw [Option.eq_none_iff_forall_ne_some]
    intro p here
    have first := (finds p).mp here
    exact nowhere p.text p.rest first.cut first.here

end FirstCut

/-- How many brackets a text closes.  The head of an arrow closes none. -/
def closings (closer : Char) : Option Char → Text → Nat
  | _, [] => 0
  | before, c :: t =>
    (if c = closer && !isArrowHead before c then 1 else 0) + closings closer (some c) t

/-- Behind such a text a bracket closes what was opened before it: it is no arrow head, and with
`depth` brackets open in front of the text, as many are closed in it as are open. -/
def Settles (opener closer : Char) (depth : Nat) (before : Option Char) (s : Text) : Prop :=
  isArrowHead (s.getLast?.or before) closer = false ∧
    closings closer before s = depth + s.count opener

section Settles

variable {opener closer c : Char} {depth : Nat} {before : Option Char} {s : Text}

theorem settles_opener (distinct : opener ≠ closer) :
    Settles opener closer depth before (opener :: s) ↔
      Settles opener closer (depth + 1) (some opener) s := by
  simp [Settles, getLast?_cons_or, closings, distinct, Nat.add_assoc, Nat.add_comm 1]

theorem settles_closer (distinct : opener ≠ closer) (closes : isArrowHead before closer = false) :
    Settles opener closer (depth + 1) before (closer :: s) ↔
      Settles opener closer depth (some closer) s := by
  have counted : closings closer before (closer :: s) = 1 + closings closer (some closer) s := by
    simp [closings, closes]
  rw [Settles, Settles, getLast?_cons_or, counted, List.count_cons_of_ne distinct.symm]
  refine and_congr_right fun _ => ?_
  omega

theorem settles_other (opens : c ≠ opener)
    (closes : ¬(c = closer && !isArrowHead before c) = true) :
    Settles opener closer depth before (c :: s) ↔ Settles opener closer depth (some c) s := by
  simp only [Settles, getLast?_cons_or, closings, if_neg closes, List.count_cons_of_ne opens]
  rw [Nat.zero_add]

theorem not_settles_nil (open_ : depth ≠ 0) : ¬Settles opener closer depth before [] := by
  rintro ⟨-, even⟩
  simp [closings] at even
  omega

theorem closing?_eq_some (distinct : opener ≠ closer) {t : Text} {p : Passage} :
    closing? opener closer depth before t = some p ↔
      FirstCut closer (Settles opener closer depth before) t p := by
  induction t generalizing depth before p with
  | nil =>
    constructor
    · intro found
      cases found
    · intro first
      have cut := first.cut
      simp at cut
  | cons c t ih =>
    have onward : ∀ {deeper : Nat} {q : Passage},
        (closing? opener closer deeper (some c) t).map (fun p => ⟨c :: p.text, p.rest⟩) = some q ↔
          ∃ r, FirstCut closer (Settles opener closer deeper (some c)) t r ∧
            q = ⟨c :: r.text, r.rest⟩ := by
      intro deeper q
      rw [Option.map_eq_some_iff]
      simp only [ih, eq_comm]
    rw [closing?]
    by_cases opens : c = opener
    · subst opens
      rw [if_pos rfl, onward, firstCut_cons fun same => absurd same distinct]
      simp only [settles_opener distinct]
    · rw [if_neg opens]
      by_cases closes : (c = closer && !isArrowHead before c) = true
      · rw [if_pos closes]
        obtain ⟨rfl, sign⟩ : c = closer ∧ isArrowHead before c = false := by simpa using closes
        cases depth with
        | zero =>
          have first : FirstCut c (Settles opener c 0 before) (c :: t) ⟨[], t⟩ :=
            firstCut_here ⟨by simpa using sign, by simp [closings]⟩
          rw [if_pos rfl]
          constructor
          · intro found
            cases found
            exact first
          · intro other
            rw [first.unique other]
        | succ depth =>
          rw [if_neg (Nat.succ_ne_zero depth), onward,
            firstCut_cons fun _ => not_settles_nil (Nat.succ_ne_zero depth)]
          simp only [settles_closer distinct sign, Nat.add_sub_cancel]
      · rw [if_neg closes, onward, firstCut_cons]
        · simp only [settles_other opens closes]
        · rintro rfl ⟨sign, -⟩
          exact closes (by simpa using sign)

end Settles

theorem upToFirst?_eq_some {mark : Char} {t : Text} {p : Passage} :
    upToFirst? mark t = some p ↔ FirstCut mark (fun _ => True) t p := by
  induction t generalizing p with
  | nil =>
    constructor
    · intro found
      cases found
    · intro first
      have cut := first.cut
      simp at cut
  | cons c t ih =>
    rw [upToFirst?]
    split
    · rename_i same
      subst same
      have first : FirstCut c (fun _ => True) (c :: t) ⟨[], t⟩ := firstCut_here trivial
      constructor
      · intro found
        cases found
        exact first
      · intro other
        rw [first.unique other]
    · rename_i other
      rw [Option.map_eq_some_iff, firstCut_cons fun same => absurd same other]
      simp only [ih, eq_comm]

/-- What stands between the bracket that opens a generic clause and the one that closes it: that one
is no arrow head, and every bracket opened in between is closed. -/
def EndsClause (s : Text) : Prop := s.getLast? ≠ some '-' ∧ closings '>' none s = s.count '<'

/-- What stands between the parentheses of a list: as many are opened as closed. -/
def EndsList (s : Text) : Prop := s.count '(' = s.count ')'

section Ends

variable {t s : Text} {p : Passage}

theorem isArrowHead_parenthesis (before : Option Char) : isArrowHead before ')' = false := rfl

theorem closings_parenthesis (before : Option Char) (s : Text) :
    closings ')' before s = s.count ')' := by
  induction s generalizing before with
  | nil => rfl
  | cons c s ih =>
    rw [closings, ih, List.count_cons, Nat.add_comm]
    by_cases same : c = ')'
    · simp [same, isArrowHead_parenthesis]
    · simp [same]

theorem settles_clause : Settles '<' '>' 0 none s ↔ EndsClause s := by
  simp [Settles, EndsClause, isArrowHead]

theorem settles_list : Settles '(' ')' 0 none s ↔ EndsList s := by
  simp [Settles, EndsList, isArrowHead_parenthesis, closings_parenthesis, eq_comm]

theorem closing?_clause : closing? '<' '>' 0 none t = some p ↔ FirstCut '>' EndsClause t p := by
  rw [closing?_eq_some (by decide), funext fun s => propext (@settles_clause s)]

theorem closing?_list : closing? '(' ')' 0 none t = some p ↔ FirstCut ')' EndsList t p := by
  rw [closing?_eq_some (by decide), funext fun s => propext (@settles_list s)]

def UnclosedClause (t : Text) : Prop :=
  ∃ u, trimStart t = '<' :: u ∧ ∀ s v, u = s ++ '>' :: v → ¬EndsClause s

/-- What is left of a text behind its blanks and a generic clause, and the blanks behind that. -/
inductive BehindClause (t : Text) : Text → Prop where
  | bare (unopened : ∀ u, trimStart t ≠ '<' :: u) : BehindClause t (trimStart t)
  | clause {u : Text} {p : Passage} (opened : trimStart t = '<' :: u)
      (closed : FirstCut '>' EndsClause u p) : BehindClause t (trimStart p.rest)

/-- What a list goes up to behind its first parenthesis: to the one that balances it, and where none
does, to the first that closes. -/
inductive ListUpTo (inner : Text) (p : Passage) : Prop where
  | even (first : FirstCut ')' EndsList inner p)
  | uneven (nowhere : ∀ s u, inner = s ++ ')' :: u → ¬EndsList s)
      (first : FirstCut ')' (fun _ => True) inner p)

theorem afterGenerics?_eq_some {left : Text} :
    afterGenerics? t = some left ↔ BehindClause t left := by
  cases opened : after? ['<'] (trimStart t) with
  | none =>
    have unopened : ∀ u, trimStart t ≠ '<' :: u := by
      intro u cut
      rw [cut] at opened
      cases opened
    rw [afterGenerics?_eq_after?, opened, Option.elim_none, Option.some_inj]
    constructor
    · rintro rfl
      exact .bare unopened
    · rintro (_ | ⟨cut, -⟩)
      · rfl
      · exact absurd cut (unopened _)
  | some u =>
    have cut : trimStart t = '<' :: u := after?_eq_some.mp opened
    rw [afterGenerics?_eq_after?, opened, Option.elim_some, Option.map_eq_some_iff]
    constructor
    · rintro ⟨p, found, rfl⟩
      exact .clause cut (closing?_clause.mp found)
    · rintro (unopened | ⟨other, closed⟩)
      · exact absurd cut (unopened u)
      · obtain ⟨-, rfl⟩ := List.cons.inj (cut.symm.trans other)
        exact ⟨_, closing?_clause.mpr closed, rfl⟩

theorem afterGenerics?_eq_none : afterGenerics? t = none ↔ UnclosedClause t := by
  rw [afterGenerics?_eq_after?, UnclosedClause]
  cases opened : after? ['<'] (trimStart t) with
  | none =>
    constructor
    · intro impossible
      cases impossible
    · rintro ⟨u, cut, -⟩
      rw [cut] at opened
      cases opened
  | some u =>
    have cut : trimStart t = '<' :: u := after?_eq_some.mp opened
    rw [Option.elim_some, Option.map_eq_none_iff,
      eq_none_of_firstCut fun p => @closing?_clause u p]
    constructor
    · intro nowhere
      exact ⟨u, cut, nowhere⟩
    · rintro ⟨v, other, nowhere⟩
      obtain ⟨-, rfl⟩ := List.cons.inj (cut.symm.trans other)
      exact nowhere

theorem closing?_or_first {inner : Text} :
    (closing? '(' ')' 0 none inner).or (upToFirst? ')' inner) = some p ↔ ListUpTo inner p := by
  have unbalanced := eq_none_of_firstCut fun p => @closing?_list inner p
  rw [Option.or_eq_some_iff, closing?_list, unbalanced, upToFirst?_eq_some]
  constructor
  · rintro (first | ⟨nowhere, first⟩)
    · exact .even first
    · exact .uneven nowhere first
  · rintro (first | ⟨nowhere, first⟩)
    · exact .inl first
    · exact .inr ⟨nowhere, first⟩

theorem parameterText?_eq_some {left : Text} :
    parameterText? left = some p ↔ ∃ inner, left = '(' :: inner ∧ ListUpTo inner p := by
  rw [parameterText?_eq_after?, Option.bind_eq_some_iff]
  simp only [after?_eq_some, closing?_or_first, List.singleton_append]

theorem parameterText?_eq_none {left : Text} :
    parameterText? left = none ↔ left.head? ≠ some '(' ∨ ')' ∉ left := by
  rw [parameterText?_eq_after?]
  cases opened : after? ['('] left with
  | none =>
    refine iff_of_true rfl (.inl fun first => ?_)
    obtain ⟨inner, rfl⟩ := List.head?_eq_some_iff.mp first
    cases opened
  | some inner =>
    obtain rfl : left = '(' :: inner := after?_eq_some.mp opened
    have unclosed := eq_none_of_firstCut fun p => @upToFirst?_eq_some ')' inner p
    have unbalanced := eq_none_of_firstCut fun p => @closing?_list inner p
    rw [Option.bind_some, Option.or_eq_none_iff, unbalanced, unclosed]
    constructor
    · rintro ⟨-, nowhere⟩
      refine .inr fun member => ?_
      obtain ⟨s, u, cut⟩ := List.append_of_mem ((List.mem_cons.mp member).resolve_left (by decide))
      exact nowhere s u cut trivial
    · rintro (other | missing)
      · exact absurd rfl other
      · have nowhere : ∀ s u, inner ≠ s ++ ')' :: u := by
          rintro s u rfl
          simp at missing
        exact ⟨fun s u cut => absurd cut (nowhere s u), fun s u cut => absurd cut (nowhere s u)⟩

end Ends

theorem closings_append (closer : Char) (before : Option Char) (s t : Text) :
    closings closer before (s ++ t) =
      closings closer before s + closings closer (s.getLast?.or before) t := by
  induction s generalizing before with
  | nil => simp [closings]
  | cons c s ih =>
    rw [List.cons_append, closings, ih, closings, getLast?_cons_or, Nat.add_assoc]

/-- Nowhere are more angle brackets closed than opened, and in all as many. -/
structure AngleBalanced (t : Text) : Prop where
  inside : ∀ s, s <+: t → closings '>' none s ≤ s.count '<'
  closed : closings '>' none t = t.count '<'

instance (t : Text) : Decidable (AngleBalanced t) :=
  decidable_of_iff ((∀ s ∈ t.inits, closings '>' none s ≤ s.count '<') ∧
      closings '>' none t = t.count '<')
    ⟨fun ⟨inside, closed⟩ => ⟨fun s front => inside s (List.mem_inits s t |>.mpr front), closed⟩,
      fun ⟨inside, closed⟩ => ⟨fun s front => inside s (List.mem_inits s t |>.mp front), closed⟩⟩

theorem AngleBalanced.firstCut {clause : Text} (balanced : AngleBalanced clause)
    (last : clause.getLast? ≠ some '-') (t : Text) :
    FirstCut '>' EndsClause (clause ++ '>' :: t) ⟨clause, t⟩ := by
  refine ⟨rfl, ⟨last, balanced.closed⟩, ?_⟩
  rintro s u cut ⟨sign, even⟩
  by_contra shorter
  have front : s ++ ['>'] <+: clause := by
    have prefix_ : s ++ ['>'] <+: clause ++ '>' :: t := ⟨u, by rw [cut]; simp⟩
    refine List.prefix_of_prefix_length_le prefix_ (List.prefix_append _ _) ?_
    dsimp only at shorter
    simp only [List.length_append, List.length_singleton]
    omega
  have one : closings '>' (s.getLast?.or none) ['>'] = 1 := by
    simp [closings, isArrowHead, sign]
  have more := balanced.inside _ front
  rw [closings_append, one, even, List.count_append, show ['>'].count '<' = 0 from rfl] at more
  omega

namespace Signature

/-- Behind a method's name the brackets decide: a clause that is opened has to be closed, a list has
to be opened behind it, and some parenthesis has to close; then the parameters are what stands
between the parentheses.  So a balanced list is read whole, with a balanced clause in front of it
or not, where the clause does not make an arrow of the bracket that closes it. -/
theorem at?_brackets :
    (∀ t, at? t = none ↔ UnclosedClause t ∨
      ∃ left, BehindClause t left ∧ (left.head? ≠ some '(' ∨ ')' ∉ left)) ∧
    (∀ t s, at? t = some s ↔ ∃ inner p, BehindClause t ('(' :: inner) ∧ ListUpTo inner p ∧
      s = ⟨p.text, returnType? p.rest⟩) ∧
    ∀ clause list after, AngleBalanced clause → clause.getLast? ≠ some '-' → Balanced list →
      (at? ('<' :: (clause ++ '>' :: '(' :: (list ++ ')' :: after)))).map parameters =
        some list := by
  refine ⟨?none, ?some, ?balanced⟩
  case none =>
    intro t
    rw [at?, Option.bind_eq_none_iff, ← afterGenerics?_eq_none]
    simp only [Option.map_eq_none_iff, parameterText?_eq_none, ← afterGenerics?_eq_some]
    cases afterGenerics? t <;> simp
  case some =>
    intro t s
    rw [at?, Option.bind_eq_some_iff]
    simp only [Option.map_eq_some_iff, parameterText?_eq_some, afterGenerics?_eq_some]
    constructor
    · rintro ⟨left, behind, p, ⟨inner, rfl, reaches⟩, rfl⟩
      exact ⟨inner, p, behind, reaches, rfl⟩
    · rintro ⟨inner, p, behind, reaches, rfl⟩
      exact ⟨'(' :: inner, behind, p, ⟨inner, rfl, reaches⟩, rfl⟩
  case balanced =>
    intro clause list after angles last parentheses
    have solid : isBlank '<' = false ∧ isBlank '(' = false := by decide
    have opened : trimStart ('<' :: (clause ++ '>' :: '(' :: (list ++ ')' :: after))) =
        '<' :: (clause ++ '>' :: '(' :: (list ++ ')' :: after)) :=
      trimStart_eq_self (by simp [solid.1])
    have left : trimStart ('(' :: (list ++ ')' :: after)) = '(' :: (list ++ ')' :: after) :=
      trimStart_eq_self (by simp [solid.2])
    have behind := BehindClause.clause opened (angles.firstCut last _)
    rw [at?, afterGenerics?_eq_some.mpr behind, Option.bind_some, left,
      parameterText?_balanced parentheses, Option.map_some, Option.map_some]

def nestedClause : Text := "T: C<K<T>>, F: (T) -> T".toList

def nestedList : Text := "_ f: ((T) -> Map<K, V>)? = nil, n: (Int, (Int))".toList

theorem at?_brackets_nested : AngleBalanced nestedClause ∧ nestedClause.getLast? ≠ some '-' ∧
    Balanced nestedList ∧
    (at? ('<' :: (nestedClause ++ '>' :: '(' :: (nestedList ++ ')' :: " -> [T]".toList)))).map
      parameters = some nestedList := by
  have angles : AngleBalanced nestedClause := by decide +kernel
  have last : nestedClause.getLast? ≠ some '-' := by decide
  have parentheses : Balanced nestedList := by decide +kernel
  refine ⟨angles, last, parentheses, ?_⟩
  exact at?_brackets.2.2 nestedClause nestedList " -> [T]".toList angles last parentheses

/-- A clause whose last character is a hyphen makes an arrow head of the bracket behind it, so that
it stays open and no parameters are found. -/
theorem not_at?_brackets :
    ¬∀ clause list after, AngleBalanced clause → Balanced list →
      (at? ('<' :: (clause ++ '>' :: '(' :: (list ++ ')' :: after)))).map parameters =
        some list := by
  intro claim
  have read := claim "T-".toList "a: Int".toList [] (by decide) (by decide)
  have none : at? "<T->(a: Int)".toList = none := by decide +kernel
  rw [show '<' :: ("T-".toList ++ '>' :: '(' :: ("a: Int".toList ++ [')'])) =
    "<T->(a: Int)".toList from rfl, none] at read
  contradiction

end Signature
end ReferencePage
