import Mathlib.Data.List.Basic
import ReferencePage.Proofs.LineEndingTexts

/-! What a comment says is what its lines say, one after the other.  A line says what is left of it
when blanks and one star are taken off, and nothing else of it is lost. -/
namespace ReferencePage

open Text

def merged : Option Text → Option Text → Option Text
  | none, t => t
  | some s, none => some s
  | some s, some t => some (s ++ ' ' :: t)

@[simp] theorem none_merged (t : Option Text) : merged none t = t := rfl

@[simp] theorem merged_none (s : Option Text) : merged s none = s := by cases s <;> rfl

namespace Text

/-- Blanks within one line. -/
def LineBlanks (t : Text) : Prop := (∀ c ∈ t, isBlank c = true) ∧ OneLine t

instance (t : Text) : Decidable (LineBlanks t) :=
  decidable_of_iff (t.all isBlank = true ∧ OneLine t) (and_congr_left' List.all_eq_true)

structure Phrase (t : Text) : Prop where
  nonempty : t ≠ []
  first : ∀ c ∈ t.head?, isBlank c = false
  last : ∀ c ∈ t.getLast?, isBlank c = false

/-- All that is written in a text, its blanks left out. -/
def ink (t : Text) : Text := t.filter fun c => !isBlank c

def unstarred (t : Text) : Text := if t.head? = some '*' then t.tail else t

def onOneLine? (parts : List Text) : Option Text :=
  if parts = [] then none else some (join [' '] parts)

theorem onOneLine?_append (parts others : List Text) :
    onOneLine? (parts ++ others) = merged (onOneLine? parts) (onOneLine? others) := by
  induction parts with
  | nil => rfl
  | cons part parts ih =>
    cases others with
    | nil => simp [onOneLine?]
    | cons next others =>
      cases parts with
      | nil => simp [onOneLine?, merged, join_cons_cons]
      | cons second parts =>
        simp only [onOneLine?, List.cons_append, reduceCtorEq, if_false, merged,
          Option.some.injEq] at ih ⊢
        rw [join_cons_cons, ih, join_cons_cons]
        simp

theorem Phrase.spaced {s t : Text} (phrase : Phrase s) (phrase' : Phrase t) :
    Phrase (s ++ ([' '] ++ t)) where
  nonempty := List.append_ne_nil_of_left_ne_nil phrase.nonempty _
  first := by
    rw [List.head?_append_of_ne_nil s phrase.nonempty]
    exact phrase.first
  last := by
    rw [List.getLast?_append, List.getLast?_append,
      List.getLast?_eq_some_getLast phrase'.nonempty, Option.some_or, Option.some_or,
      ← List.getLast?_eq_some_getLast phrase'.nonempty]
    exact phrase'.last

theorem Phrase.of_onOneLine? {parts : List Text} (each : ∀ part ∈ parts, Phrase part) :
    ∀ t ∈ onOneLine? parts, Phrase t := by
  intro t found
  obtain ⟨nonempty, rfl⟩ : parts ≠ [] ∧ join [' '] parts = t := by
    simpa [onOneLine?] using found
  clear found
  induction parts with
  | nil => contradiction
  | cons part parts ih =>
    obtain ⟨first, others⟩ := List.forall_mem_cons.mp each
    cases parts with
    | nil =>
      rw [join_singleton]
      exact first
    | cons next parts =>
      rw [join_cons_cons]
      exact first.spaced (ih others (List.cons_ne_nil next parts))

/- Blanks leave no ink. -/
section Ink

variable {t : Text}

theorem ink_append (s t : Text) : ink (s ++ t) = ink s ++ ink t := List.filter_append s t

theorem ink_blanks (blank : ∀ c ∈ t, isBlank c = true) : ink t = [] := by
  rw [ink, List.filter_eq_nil_iff]
  intro c member
  simp [blank c member]

theorem ink_trimStart (t : Text) : ink (trimStart t) = ink t := by
  obtain ⟨blanks, cut, blank⟩ := trimStart_cut t
  calc
    ink (trimStart t) = ink blanks ++ ink (trimStart t) := by rw [ink_blanks blank, List.nil_append]
    _ = ink t := by rw [← ink_append, ← cut]

theorem ink_trim (t : Text) : ink (trim t) = ink t := by
  obtain ⟨blanks, cut, blank⟩ := trimEnd_cut (trimStart t)
  calc
    ink (trim t) = ink (trim t) ++ ink blanks := by rw [ink_blanks blank, List.append_nil]
    _ = ink (trimStart t) := by rw [← ink_append, trim, ← cut]
    _ = ink t := ink_trimStart t

theorem ink_unstarred (first : ∀ c ∈ t.head?, isBlank c = false) :
    ink (unstarred t) = unstarred (ink t) := by
  cases t with
  | nil => rfl
  | cons c t =>
    have kept : ink (c :: t) = c :: ink t := List.filter_cons_of_pos (by simp [first c rfl])
    rw [kept, unstarred, unstarred, List.head?_cons, List.head?_cons]
    split
    · rfl
    · exact kept

theorem ink_join (parts : List Text) : ink (join [' '] parts) = parts.flatMap ink := by
  induction parts with
  | nil => rfl
  | cons part parts ih =>
    cases parts with
    | nil => simp
    | cons next parts =>
      have space : ink [' '] = [] := by decide
      rw [join_cons_cons, ink_append, ink_append, space, List.nil_append, ih, ← List.flatMap_cons]

end Ink

end Text

/- One line. -/
section Line

variable {u l v : Text}

theorem undecorated_blanks_append (blank : ∀ c ∈ u, isBlank c = true) (l : Text) :
    undecorated (u ++ l) = undecorated l := by
  have start : trimStart (u ++ l) = trimStart l := List.dropWhile_append_of_pos blank
  rw [undecorated_eq, start, ← undecorated_eq]

theorem undecorated_append_blanks (l : Text) (blank : ∀ c ∈ v, isBlank c = true) :
    undecorated (l ++ v) = undecorated l := by
  induction v using List.reverseRecOn with
  | nil => rw [List.append_nil]
  | append_singleton v c ih =>
    obtain ⟨others, last⟩ := List.forall_mem_append.mp blank
    rw [← List.append_assoc, undecorated_append_blank (last c List.mem_cons_self), ih others]

/-- The first star is decoration, and a second one is text. -/
theorem undecorated_star (blank : ∀ c ∈ u, isBlank c = true) (l : Text) :
    undecorated (u ++ '*' :: l) = trim l := by
  rw [undecorated_blanks_append blank]
  rfl

theorem undecorated_unstarred (noStar : (trimStart l).head? ≠ some '*') :
    undecorated l = trim l := by
  rw [undecorated_eq, if_neg noStar, trim, trimStart_eq_self (isBlank_head?_trimStart l), trim]

theorem phrase_undecorated (nonempty : undecorated l ≠ []) : Phrase (undecorated l) := by
  rw [undecorated_eq] at nonempty ⊢
  exact ⟨nonempty, isBlank_head?_trim _, isBlank_getLast?_trim _⟩

theorem ink_undecorated (l : Text) : ink (undecorated l) = unstarred (ink l) := by
  rw [undecorated_eq, ink_trim, ← unstarred, ink_unstarred (isBlank_head?_trimStart l),
    ink_trimStart]

end Line

/-- What the lines of a comment say, as far as they say anything. -/
def sayings (body : Text) : List Text :=
  ((body.splitOn '\n').map undecorated).filter (· ≠ [])

section Comment

variable {body l u v t : Text}

theorem plainText?_eq_onOneLine? (body : Text) : plainText? body = onOneLine? (sayings body) := by
  rw [plainText?, lines, filter_lineParts, ← sayings, onOneLine?]
  cases sayings body <;> rfl

theorem sayings_append (a b : Text) : sayings (a ++ '\n' :: b) = sayings a ++ sayings b := by
  rw [sayings, List.splitOn, List.splitOnP_append_cons a b (by simp), ← List.splitOn,
    ← List.splitOn, List.map_append, List.filter_append, ← sayings, ← sayings]

theorem plainText?_append (a b : Text) :
    plainText? (a ++ '\n' :: b) = merged (plainText? a) (plainText? b) := by
  simp only [plainText?_eq_onOneLine?, sayings_append, onOneLine?_append]

theorem plainText?_oneLine (oneLine : OneLine l) :
    plainText? l = if undecorated l = [] then none else some (undecorated l) := by
  have one : l.splitOn '\n' = [l] := List.splitOnP_eq_singleton fun c member => by
    rw [beq_eq_false_iff_ne]
    rintro rfl
    exact oneLine member
  rw [plainText?_eq_onOneLine?, sayings, one, List.map_singleton, List.filter_singleton]
  by_cases nothing : undecorated l = [] <;> simp [nothing, onOneLine?]

theorem plainText?_blanks (blanks : LineBlanks u) : plainText? u = none := by
  have nothing : undecorated u = [] := by
    rw [← List.append_nil u, undecorated_blanks_append blanks.1]
    rfl
  rw [plainText?_oneLine blanks.2, if_pos nothing]

theorem phrase_plainText? : ∀ t ∈ plainText? body, Phrase t := by
  rw [plainText?_eq_onOneLine?]
  apply Phrase.of_onOneLine?
  intro part member
  obtain ⟨member, nonempty⟩ := List.mem_filter.mp member
  obtain ⟨line, -, rfl⟩ := List.mem_map.mp member
  exact phrase_undecorated (of_decide_eq_true nonempty)

theorem ink_plainText? (body : Text) :
    ink ((plainText? body).getD []) = (body.splitOn '\n').flatMap fun l => unstarred (ink l) := by
  have whole : (plainText? body).getD [] = join [' '] (sayings body) := by
    rw [plainText?_eq_onOneLine?, onOneLine?]
    cases sayings body <;> rfl
  rw [whole, ink_join, sayings]
  induction body.splitOn '\n' with
  | nil => rfl
  | cons l ls ih =>
    rw [List.flatMap_cons, ← ih, ← ink_undecorated, List.map_cons, List.filter_cons]
    split
    · rw [List.flatMap_cons]
    · rename_i empty
      have nothing : undecorated l = [] := by simpa using empty
      rw [nothing]
      rfl

end Comment

/-- What a comment says is put together from its lines.  Blanks around a line, one star in front of
it, lines with nothing on them and the way in which lines end do not change it; nothing else that is
written in the comment is left out, added or moved. -/
theorem plainText?_lineWise :
    (∀ a b, plainText? (a ++ '\n' :: b) = merged (plainText? a) (plainText? b)) ∧
    (∀ u l v, LineBlanks u → OneLine l → LineBlanks v →
      plainText? (u ++ (l ++ v)) = plainText? l ∧
      ((trimStart l).head? ≠ some '*' → plainText? (u ++ '*' :: (v ++ l)) = plainText? l) ∧
      plainText? (u ++ '*' :: l) = if trim l = [] then none else some (trim l)) ∧
    (∀ l, OneLine l → l ≠ [] → trim l = l → l.head? ≠ some '*' → plainText? l = some l) ∧
    (∀ body, ∀ t ∈ plainText? body, Phrase t ∧ OneLine t) ∧
    (∀ a u b, LineBlanks u →
      plainText? (a ++ '\n' :: (u ++ '\n' :: b)) = plainText? (a ++ '\n' :: b)) ∧
    (∀ body, plainText? (withReturns body) = plainText? body) ∧
    ∀ body, ink ((plainText? body).getD []) =
      (body.splitOn '\n').flatMap fun l => unstarred (ink l) := by
  have star : ∀ {t}, OneLine t → OneLine ('*' :: t) := fun {t} line =>
    OneLine.append (show OneLine ['*'] by decide) line
  refine ⟨plainText?_append, fun u l v before oneLine after => ⟨?around, ?starred, ?star⟩, ?trimmed,
    fun body t said => ⟨phrase_plainText? t said, oneLine_plainText? t said⟩, ?blankLine,
    plainText?_withReturns, ink_plainText?⟩
  case around =>
    rw [plainText?_oneLine (before.2.append (oneLine.append after.2)), plainText?_oneLine oneLine,
      undecorated_blanks_append before.1, undecorated_append_blanks l after.1]
  case starred =>
    intro noStar
    have same : trim (v ++ l) = trim l :=
      congrArg trimEnd (List.dropWhile_append_of_pos after.1)
    rw [plainText?_oneLine (before.2.append (star (after.2.append oneLine))),
      plainText?_oneLine oneLine, undecorated_star before.1, same, undecorated_unstarred noStar]
  case star =>
    rw [plainText?_oneLine (before.2.append (star oneLine)), undecorated_star before.1]
  case trimmed =>
    intro l oneLine nonempty trimmed noStar
    have started : trimStart l = l := trimStart_eq_self (trimmed ▸ isBlank_head?_trim l)
    rw [plainText?_oneLine oneLine, undecorated_unstarred (started.symm ▸ noStar), trimmed,
      if_neg nonempty]
  case blankLine =>
    intro a u b blanks
    rw [plainText?_append, plainText?_append u, plainText?_blanks blanks, none_merged,
      plainText?_append]

/- An indented line with a no-break space behind its star, the same words with a second star, and
the words on two lines with an indented empty line between them. -/
def indentation : Text := "\t ".toList
def twoWords : Text := "two words".toList

theorem plainText?_lineWise_twoWords :
    plainText? (indentation ++ (twoWords ++ ['\r'])) = some twoWords ∧
      plainText? (indentation ++ '*' :: (['\u00A0'] ++ twoWords)) = some twoWords ∧
      plainText? (indentation ++ '*' :: '*' :: twoWords) = some ('*' :: twoWords) ∧
      plainText? (twoWords ++ '\n' :: (indentation ++ '\n' :: twoWords)) =
        some (twoWords ++ ' ' :: twoWords) ∧
      Phrase (twoWords ++ ' ' :: twoWords) ∧ OneLine (twoWords ++ ' ' :: twoWords) := by
  obtain ⟨append, surrounded, trimmed, phrase, blankLine, -, -⟩ := plainText?_lineWise
  have said : plainText? twoWords = some twoWords :=
    trimmed twoWords (by decide) (by decide) (by decide) (by decide)
  have blank : LineBlanks indentation := by decide
  have around := (surrounded indentation twoWords ['\r'] blank (by decide) (by decide)).1
  have starred :=
    (surrounded indentation twoWords ['\u00A0'] blank (by decide) (by decide)).2.1 (by decide)
  have second := (surrounded indentation ('*' :: twoWords) [] blank (by decide) (by decide)).2.2
  have twice : plainText? (twoWords ++ '\n' :: (indentation ++ '\n' :: twoWords)) =
      some (twoWords ++ ' ' :: twoWords) := by
    rw [blankLine twoWords indentation twoWords blank, append, said]
    rfl
  have written : trim ('*' :: twoWords) = '*' :: twoWords := by decide
  rw [written, if_neg (List.cons_ne_nil '*' twoWords)] at second
  exact ⟨around.trans said, starred.trans said, second, twice, phrase _ _ twice⟩

end ReferencePage
