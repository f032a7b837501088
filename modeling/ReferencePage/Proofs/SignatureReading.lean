import Mathlib.Data.List.Infix
import ReferencePage.Proofs.OneLine

/-! The head of a method as the page shows it, read again.  The scanner of signatures counts
parentheses alone, so it finds the end of the list where the parentheses of every type balance; the
list is in normal form and the return type on one line, so both are read as they were. -/
namespace ReferencePage

open Text

/-- Nowhere are more parentheses closed than opened, and in all as many. -/
structure Balanced (t : Text) : Prop where
  inside : ∀ s, s <+: t → s.count ')' ≤ s.count '('
  closed : t.count '(' = t.count ')'

instance (t : Text) : Decidable (Balanced t) :=
  decidable_of_iff ((∀ s ∈ t.inits, s.count ')' ≤ s.count '(') ∧ t.count '(' = t.count ')')
    ⟨fun ⟨inside, closed⟩ => ⟨fun s front => inside s (List.mem_inits s t |>.mpr front), closed⟩,
      fun ⟨inside, closed⟩ => ⟨fun s front => inside s (List.mem_inits s t |>.mp front), closed⟩⟩

section Balanced

variable {s t : Text}

theorem balanced_of_not_mem (opener : '(' ∉ t) (closer : ')' ∉ t) : Balanced t := by
  refine ⟨fun s front => ?_, ?_⟩
  · rw [List.count_eq_zero_of_not_mem fun member => closer (front.subset member)]
    exact Nat.zero_le _
  · rw [List.count_eq_zero_of_not_mem opener, List.count_eq_zero_of_not_mem closer]

theorem Balanced.append (first : Balanced s) (second : Balanced t) : Balanced (s ++ t) := by
  refine ⟨fun u front => ?_, ?_⟩
  · rcases List.prefix_or_prefix_of_prefix front (List.prefix_append s t) with shorter | longer
    · exact first.inside u shorter
    · obtain ⟨v, rfl⟩ := longer
      have := second.inside v ((List.prefix_append_right_inj s).mp front)
      have := first.closed
      simp only [List.count_append]
      omega
  · rw [List.count_append, List.count_append, first.closed, second.closed]

theorem Balanced.join {separator : Text} (between : Balanced separator) {parts : List Text}
    (each : ∀ part ∈ parts, Balanced part) : Balanced (join separator parts) := by
  induction parts with
  | nil => exact balanced_of_not_mem List.not_mem_nil List.not_mem_nil
  | cons part parts ih =>
    obtain ⟨first, others⟩ := List.forall_mem_cons.mp each
    cases parts with
    | nil => simpa using first
    | cons next parts =>
      rw [join_cons_cons]
      exact first.append (between.append (ih others))

theorem closing?_append {depth : Nat} (before : Option Char)
    (inside : ∀ u, u <+: s → u.count ')' ≤ depth + u.count '(')
    (closed : s.count ')' = depth + s.count '(') (t : Text) :
    closing? '(' ')' depth before (s ++ ')' :: t) = some ⟨s, t⟩ := by
  induction s generalizing depth before with
  | nil =>
    obtain rfl : 0 = depth := by simpa using closed
    simp [closing?, isArrowHead]
  | cons c s ih =>
    have step : ∀ u, u <+: s → (c :: u).count ')' ≤ depth + (c :: u).count '(' := by
      intro u front
      exact inside (c :: u) ((List.prefix_cons_inj c).mpr front)
    rw [List.cons_append, closing?]
    by_cases opens : c = '('
    · subst opens
      have further := @ih (depth + 1) (some '(')
        (fun u front => by simpa [Nat.add_assoc, Nat.add_comm 1] using step u front)
        (by simpa [Nat.add_assoc, Nat.add_comm 1] using closed)
      simp [further]
    · by_cases closes : c = ')'
      · subst closes
        obtain ⟨less, rfl⟩ : ∃ less, depth = less + 1 := by
          have first := step [] List.nil_prefix
          simp at first
          exact ⟨depth - 1, by omega⟩
        have further := @ih less (some ')')
          (fun u front => by simpa [Nat.add_right_comm] using step u front)
          (by simpa [Nat.add_right_comm] using closed)
        simp [isArrowHead, further]
      · have further := @ih depth (some c)
          (fun u front => by simpa [opens, closes] using step u front)
          (by simpa [opens, closes] using closed)
        simp [opens, closes, further]

theorem parameterText?_balanced (balanced : Balanced s) (t : Text) :
    parameterText? ('(' :: (s ++ ')' :: t)) = some ⟨s, t⟩ := by
  have closing : closing? '(' ')' 0 none (s ++ ')' :: t) = some ⟨s, t⟩ :=
    closing?_append none (by simpa using balanced.inside) (by simpa using balanced.closed.symm) t
  rw [parameterText?, closing]
  rfl

end Balanced

/- A return type as it is read and as it is written. -/
section ReturnType

variable {t type : Text}

theorem isBlank_hyphen : isBlank '-' = false := by decide

theorem isBlank_of_endsReturnType (c : Char) (ends : endsReturnType c = true) :
    isBlank c = false := by
  rw [endsReturnType, beq_iff_eq] at ends
  rw [ends]
  decide

/-- What a return type is that was read. -/
structure ReturnType (type : Text) : Prop where
  nonempty : type ≠ []
  trimmed : trim type = type
  first : ∀ c ∈ type.head?, isBlank c = false
  passes : Passes endsReturnType type

theorem returnType_of_returnType? (found : returnType? t = some type) : ReturnType type := by
  obtain ⟨found, nonempty⟩ := Option.filter_eq_some_iff.mp found
  obtain ⟨p, read, rfl⟩ := Option.map_eq_some_iff.mp found
  obtain ⟨rest, -, read⟩ := Option.bind_eq_some_iff.mp read
  refine ⟨of_decide_eq_true nonempty, trim_trim p.text, isBlank_head?_trim p.text, ?_⟩
  intro c member
  exact passes_lineUpTo isBlank_of_endsReturnType read c (trim_subset p.text member)

theorem afterEffects_of_some {t rest : Text} (found : afterEffect? t = some rest) :
    afterEffects t = afterEffects rest := by
  rw [afterEffects]
  split
  · rename_i other here
    rw [found] at here
    cases here
    rfl
  · rename_i none
    rw [found] at none
    contradiction

theorem afterEffects_of_none {t : Text} (none : afterEffect? t = none) : afterEffects t = t := by
  rw [afterEffects]
  split
  · rename_i other here
    rw [none] at here
    contradiction
  · rfl

theorem oneWord_of_mem_effectWords : ∀ word ∈ effectWords, OneWord word := by decide

theorem afterEffects_hyphen {gap : Text} (blank : ∀ c ∈ gap, isBlank c = true) (t : Text) :
    afterEffects (gap ++ '-' :: t) = gap ++ '-' :: t := by
  apply afterEffects_of_none
  have first : trimStart (gap ++ '-' :: t) = '-' :: t :=
    trimStart_blanks_append blank (by simp [isBlank_hyphen])
  rw [afterEffect?, first, List.findSome?_eq_none_iff]
  intro word member
  simp only [effectWords, List.mem_cons, List.not_mem_nil, or_false] at member
  rcases member with rfl | rfl | rfl <;> rfl

theorem returnType?_arrow (returned : ReturnType type) :
    returnType? (" -> ".toList ++ type) = some type := by
  have space : ∀ c ∈ [' '], isBlank c = true := by simp [isBlank_space]
  have arrow : trimStart (afterEffects (" -> ".toList ++ type)) = "->".toList ++ ' ' :: type := by
    rw [show " -> ".toList ++ type = [' '] ++ '-' :: '>' :: ' ' :: type from rfl,
      afterEffects_hyphen space]
    exact trimStart_blanks_append space (by simp [isBlank_hyphen])
  have behind : trimStart (' ' :: type) = type ++ [] := by
    rw [List.append_nil]
    exact trimStart_blanks_append (s := [' ']) (by simp [isBlank_space]) returned.first
  have read : lineUpTo endsReturnType (' ' :: type) = some ⟨type, []⟩ :=
    lineUpTo_cut behind returned.nonempty returned.passes (by simp)
  rw [returnType?, returnForm?, arrow, after?_eq_some.mpr rfl, Option.bind_some, read,
    Option.map_some, returned.trimmed, Option.filter_some, if_pos (by simp [returned.nonempty])]

theorem returnType?_nil : returnType? [] = none := by decide +kernel

end ReturnType

theorem afterGenerics?_eq_after? (t : Text) :
    afterGenerics? t = (after? ['<'] (trimStart t)).elim (some (trimStart t)) fun u =>
      (closing? '<' '>' 0 none u).map fun p => trimStart p.rest := by
  cases opens : after? ['<'] (trimStart t) with
  | some u => rw [afterGenerics?, after?_eq_some.mp opens]; rfl
  | none =>
    unfold afterGenerics?
    split
    · rename_i u cut
      rw [cut] at opens
      contradiction
    · rfl

theorem parameterText?_eq_after? (t : Text) :
    parameterText? t = (after? ['('] t).bind fun u =>
      (closing? '(' ')' 0 none u).or (upToFirst? ')' u) := by
  cases opens : after? ['('] t with
  | some u => rw [after?_eq_some.mp opens]; exact Option.orElse_eq_or
  | none =>
    unfold parameterText?
    split
    · contradiction
    · rfl

theorem isLead_parentheses : isLead '(' = false ∧ isLead ')' = false := by decide

/- A name is made of words, so the parentheses of a parameter are those of its type. -/
theorem Parameter.Normal.balanced_declared {p : Parameter} (normal : p.Normal)
    (balanced : Balanced p.type) : Balanced p.declared := by
  have outside : ∀ c, isLead c = false → c ∉ p.name ++ [':', ' '] := by
    intro c other member
    rw [normal.allLead_front c member] at other
    contradiction
  rw [Parameter.declared_cut]
  exact (balanced_of_not_mem (outside '(' isLead_parentheses.1)
    (outside ')' isLead_parentheses.2)).append balanced

theorem Parameter.NormalList.balanced_list {ps : List Parameter} (normal : NormalList ps)
    (balanced : ∀ p ∈ ps, Balanced p.type) : Balanced (Parameter.list ps) := by
  apply Balanced.join (balanced_of_not_mem (by decide) (by decide))
  intro part member
  obtain ⟨p, known, rfl⟩ := List.mem_map.mp member
  exact (normal.normal p known).balanced_declared (balanced p known)

/-- What the page shows behind the name of a method. -/
def Method.tail (m : Method) : Text :=
  '(' :: (Parameter.list m.parameters ++ ')' ::
    if m.returnsValue then " -> ".toList ++ m.returnType else [])

theorem Method.declared_eq (m : Method) : m.declared = m.name ++ m.tail := by
  simp [declared, tail]

namespace Signature

def method (s : Signature) (member : Member) : Method :=
  ⟨member, Parameter.listed s.parameters, s.returnType.getD voidType⟩

variable {rest : Text} {s : Signature}

theorem exists_returnType?_of_at? (found : at? rest = some s) :
    ∃ t, s.returnType = returnType? t := by
  obtain ⟨u, -, found⟩ := Option.bind_eq_some_iff.mp found
  obtain ⟨p, -, rfl⟩ := Option.map_eq_some_iff.mp found
  exact ⟨p.rest, rfl⟩

theorem afterGenerics?_parenthesis (t : Text) : afterGenerics? ('(' :: t) = some ('(' :: t) := by
  have solid : isBlank '(' = false := by decide
  rw [afterGenerics?, trimStart_eq_self (by simp [solid])]
  rfl

theorem at?_parenthesis {parameters : Text} (balanced : Balanced parameters) (t : Text) :
    at? ('(' :: (parameters ++ ')' :: t)) = some ⟨parameters, returnType? t⟩ := by
  rw [at?, afterGenerics?_parenthesis, Option.bind_some, parameterText?_balanced balanced,
    Option.map_some]

/-- The return type that the page shows is the one that was read; where it shows none, none was read
or the placeholder itself. -/
theorem getD_returnType?_tail (found : at? rest = some s) {m : Method}
    (returns : m.returnType = s.returnType.getD voidType) :
    (returnType? (if m.returnsValue then " -> ".toList ++ m.returnType else [])).getD voidType =
      m.returnType := by
  obtain ⟨t, read⟩ := exists_returnType?_of_at? found
  cases value : m.returnsValue with
  | false =>
    have void : m.returnType = voidType := by simpa [Method.returnsValue] using value
    rw [if_neg Bool.false_ne_true, returnType?_nil, void]
    rfl
  | true =>
    cases type : s.returnType with
    | none =>
      rw [type] at returns
      simp [Method.returnsValue, returns] at value
    | some type' =>
      rw [type, Option.getD_some] at returns
      have returned : ReturnType type' := returnType_of_returnType? (read.symm.trans type)
      rw [if_pos rfl, returns, returnType?_arrow returned, Option.getD_some]

/-- Where the parentheses of every parameter's type balance, what the page shows behind the name of
a method is read as the same parameters and the same return type. -/
theorem at?_declared (found : at? rest = some s) (member : Member)
    (balanced : ∀ p ∈ (s.method member).parameters, Balanced p.type) :
    ∃ again, at? ((s.method member).declared.drop member.name.length) = some again ∧
      Parameter.listed again.parameters = (s.method member).parameters ∧
      again.returnType.getD voidType = (s.method member).returnType := by
  have normal := Parameter.normalList_listed s.parameters
  have behind : (s.method member).declared.drop member.name.length = (s.method member).tail := by
    rw [Method.declared_eq]
    exact List.drop_left
  have read := at?_parenthesis (normal.balanced_list balanced)
    (if (s.method member).returnsValue then " -> ".toList ++ (s.method member).returnType else [])
  rw [behind]
  exact ⟨_, read, Parameter.listed_list normal, getD_returnType?_tail found rfl⟩

/- A generic clause, a default, a segment that is dropped, blanks over two lines, and the type of a
function. -/
def generics : Text :=
  " <T: C<T>>(\n  _ f: (Int) -> T,, 7,\n  in  m : Map<K,\tV> = [:]) async throws ->  [T] \x7b".toList

def genericsMember : Member := .of .method "fill".toList none

theorem at?_declared_generics : ∃ s, at? generics = some s ∧
    (∀ p ∈ (s.method genericsMember).parameters, Balanced p.type) ∧
    (s.method genericsMember).declared =
      "fill(_ f: (Int) -> T, in m: Map<K, V> = [:]) -> [T]".toList ∧
    ∃ again, at? ((s.method genericsMember).declared.drop genericsMember.name.length) = some again ∧
      Parameter.listed again.parameters = (s.method genericsMember).parameters ∧
      again.returnType.getD voidType = (s.method genericsMember).returnType := by
  have read : (at? generics).any (fun s =>
      (∀ p ∈ (s.method genericsMember).parameters, Balanced p.type) ∧
      (s.method genericsMember).declared =
        "fill(_ f: (Int) -> T, in m: Map<K, V> = [:]) -> [T]".toList) = true := by
    decide +kernel
  obtain ⟨s, found, facts⟩ := (Option.any_eq_true _ _).mp read
  obtain ⟨balanced, shown⟩ := of_decide_eq_true facts
  exact ⟨s, found, balanced, shown, at?_declared found genericsMember balanced⟩

end Signature
end ReferencePage
