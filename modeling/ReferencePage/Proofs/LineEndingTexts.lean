import Mathlib.Data.List.Basic
import ReferencePage.Proofs.CommentEnds
import ReferencePage.Proofs.LineEndings
import ReferencePage.Proofs.SignatureReading

/-! What comments and signatures say does not depend on line endings.  A comment is put on one line,
and the blanks of a type are collapsed or trimmed off, the carriage returns among them. -/
namespace ReferencePage

open Text

theorem isPrefix_withReturns {word t : Text} (unbroken : Unbroken word) :
    word <+: withReturns t ↔ word <+: t := by
  constructor
  · rintro ⟨u, cut⟩
    have found := after?_withReturns unbroken t
    rw [after?_eq_some.mpr cut.symm] at found
    obtain ⟨v, here, -⟩ := Option.map_eq_some_iff.mp found.symm
    exact ⟨v, (after?_eq_some.mp here).symm⟩
  · rintro ⟨u, rfl⟩
    rw [withReturns_append, withReturns_oneLine unbroken.2]
    exact List.prefix_append _ _

/- A passage that begins one character earlier. -/
section Longer

variable (found : Option Passage)

theorem map_lineFeed_withReturns :
    (found.map fun p => (⟨'\n' :: p.text, p.rest⟩ : Passage)).map Passage.withReturns =
      ((found.map Passage.withReturns).map fun p => (⟨'\n' :: p.text, p.rest⟩ : Passage)).map
        fun p => ⟨'\r' :: p.text, p.rest⟩ := by
  cases found <;> rfl

theorem map_cons_withReturns {c : Char} (other : c ≠ '\n') :
    (found.map fun p => (⟨c :: p.text, p.rest⟩ : Passage)).map Passage.withReturns =
      (found.map Passage.withReturns).map fun p => ⟨c :: p.text, p.rest⟩ := by
  cases found with
  | none => rfl
  | some p => simp [Passage.withReturns, withReturns_cons other]

end Longer

/- Comments. -/
section Comment

theorem upToClosing_withReturns (t : Text) :
    upToClosing (withReturns t) = (upToClosing t).map Passage.withReturns := by
  have closing : Unbroken ['*', '/'] := by decide
  induction t using lineFeed_induction with
  | nil => rfl
  | lineFeed t ih =>
    rw [withReturns_lineFeed, upToClosing_cons (by simp), upToClosing_cons (by simp),
      upToClosing_cons (by simp), ih, map_lineFeed_withReturns]
  | cons c t other ih =>
    by_cases closes : ['*', '/'] <+: c :: t
    · obtain ⟨u, cut⟩ := closes
      rw [← cut]
      rfl
    · have open' := mt (isPrefix_withReturns closing).mp closes
      rw [upToClosing_cons closes, map_cons_withReturns _ other, ← ih]
      rw [withReturns_cons other] at open' ⊢
      exact upToClosing_cons open'

theorem DocComment.at?_eq_after? (t : Text) :
    at? t = (after? "/**".toList t).bind fun u => (upToClosing u).map fun inner =>
      ⟨⟨dropTrailingStars inner.text, u.drop (dropTrailingStars inner.text).length⟩,
        trimStart inner.rest⟩ := by
  cases opens : after? "/**".toList t with
  | some u =>
    rw [after?_eq_some.mp opens]
    rfl
  | none =>
    unfold at?
    split
    · rename_i u
      contradiction
    · rfl

theorem DocComment.at?_withReturns (t : Text) :
    (at? (withReturns t)).map (fun c => (c.body.text, c.rest)) =
      (at? t).map fun c => (withReturns c.body.text, withReturns c.rest) := by
  rw [at?_eq_after?, at?_eq_after?, after?_withReturns (by decide)]
  cases after? "/**".toList t with
  | none => rfl
  | some u =>
    rw [Option.map_some, Option.bind_some, Option.bind_some, upToClosing_withReturns]
    cases upToClosing u with
    | none => rfl
    | some inner =>
      have stars : dropTrailingStars (withReturns inner.text) =
          withReturns (dropTrailingStars inner.text) :=
        rdropWhile_withReturns (by decide) inner.text
      simp [Passage.withReturns, stars, trimStart_withReturns]

theorem undecorated_eq (line : Text) :
    undecorated line = trim (if (trimStart line).head? = some '*' then (trimStart line).tail
      else trimStart line) := by
  unfold undecorated
  split
  · rename_i u starred
    rw [starred, List.head?_cons, if_pos rfl, List.tail_cons]
  · rename_i other
    split
    · rename_i starred
      obtain ⟨u, cut⟩ := List.head?_eq_some_iff.mp starred
      exact absurd cut (other u)
    · rfl

/- A blank at the end of a line adds nothing to it. -/
section Line

variable {c : Char} (blank : isBlank c = true)
include blank

theorem trimStart_append_blank (s : Text) :
    trimStart (s ++ [c]) = if trimStart s = [] then [] else trimStart s ++ [c] := by
  unfold trimStart
  rw [List.dropWhile_append]
  simp [blank]

theorem trimEnd_append_blank (s : Text) : trimEnd (s ++ [c]) = trimEnd s :=
  List.rdropWhile_concat_pos isBlank s c blank

theorem trim_append_blank (s : Text) : trim (s ++ [c]) = trim s := by
  rw [trim, trimStart_append_blank blank]
  split
  · rename_i nothing
    rw [trim, nothing]
  · exact trimEnd_append_blank blank _

theorem undecorated_append_blank (s : Text) : undecorated (s ++ [c]) = undecorated s := by
  rw [undecorated_eq, undecorated_eq, trimStart_append_blank blank]
  cases trimStart s with
  | nil => rfl
  | cons d u =>
    rw [if_neg (List.cons_ne_nil d u), List.cons_append, List.head?_cons, List.head?_cons]
    split
    · exact trim_append_blank blank u
    · exact trim_append_blank blank (d :: u)

end Line

theorem undecorated_dropReturn (line : Text) :
    undecorated (dropReturn line) = undecorated line := by
  unfold dropReturn
  split
  · rename_i last
    rw [← undecorated_append_blank (isBlank_return.trans isBlank_lineFeed) line.dropLast,
      List.dropLast_append_getLast? _ last]
  · rfl

/-- What a comment says, line by line, whether a carriage return belongs to a line or to its end. -/
theorem filter_lineParts (parts : List Text) :
    ((lineParts parts).map undecorated).filter (· ≠ []) =
      (parts.map undecorated).filter (· ≠ []) := by
  induction parts with
  | nil => rfl
  | cons part parts ih =>
    cases parts with
    | nil =>
      unfold lineParts
      split
      · rename_i empty
        rw [empty]
        rfl
      · rfl
    | cons next parts =>
      rw [lineParts, List.map_cons, List.map_cons, undecorated_dropReturn, List.filter_cons,
        List.filter_cons, ih]

/- Each part but the last has a carriage return more at its end. -/
theorem splitOn_withReturns (t : Text) :
    List.Forall₂ (fun part' part => part' = part ∨ part' = part ++ ['\r'])
      ((withReturns t).splitOn '\n') (t.splitOn '\n') := by
  induction t using lineFeed_induction with
  | nil => simp
  | lineFeed t ih =>
    simp only [withReturns_lineFeed, List.splitOn_cons_eq_if_modifyHead]
    simpa using ih
  | cons c t other ih =>
    rw [withReturns_cons other, List.splitOn_cons_eq_if_modifyHead,
      List.splitOn_cons_eq_if_modifyHead, if_neg (by simpa using other),
      if_neg (by simpa using other)]
    generalize (withReturns t).splitOn '\n' = parts', t.splitOn '\n' = parts at ih ⊢
    cases ih with
    | nil => exact .nil
    | cons first others =>
      refine .cons (first.imp ?_ ?_) others
      · rintro rfl
        rfl
      · rintro rfl
        rfl

theorem plainText?_withReturns (body : Text) : plainText? (withReturns body) = plainText? body := by
  have returns : isBlank '\r' = true := isBlank_return.trans isBlank_lineFeed
  have parts : ((withReturns body).splitOn '\n').map undecorated =
      (body.splitOn '\n').map undecorated := by
    rw [← List.forall₂_eq_eq_eq, List.forall₂_map_left_iff, List.forall₂_map_right_iff]
    refine (splitOn_withReturns body).imp fun part' part same => ?_
    rcases same with rfl | rfl
    · rfl
    · exact undecorated_append_blank returns part
  unfold plainText? lines
  rw [filter_lineParts, filter_lineParts, parts]

end Comment

/- Brackets and commas. -/
section Bracket

theorem closing?_other {opener closer c : Char} (notOpener : c ≠ opener) (notCloser : c ≠ closer)
    (depth : Nat) (before : Option Char) (t : Text) :
    closing? opener closer depth before (c :: t) =
      (closing? opener closer depth (some c) t).map fun p => ⟨c :: p.text, p.rest⟩ := by
  simp [closing?, notOpener, notCloser]

theorem closing?_withReturns {opener closer : Char} (brackets : Unbroken [opener, closer])
    (depth : Nat) (before : Option Char) (t : Text) :
    closing? opener closer depth before (withReturns t) =
      (closing? opener closer depth before t).map Passage.withReturns := by
  obtain ⟨⟨openerReturn, openerFeed⟩, closer_unbroken⟩ := brackets.of_cons
  obtain ⟨⟨closerReturn, closerFeed⟩, -⟩ := closer_unbroken.of_cons
  induction t using lineFeed_induction generalizing depth before with
  | nil => rfl
  | lineFeed t ih =>
    rw [withReturns_lineFeed, closing?_other openerReturn.symm closerReturn.symm,
      closing?_other openerFeed.symm closerFeed.symm, closing?_other openerFeed.symm closerFeed.symm,
      ih, map_lineFeed_withReturns]
  | cons c t other ih =>
    rw [withReturns_cons other, closing?, closing?]
    simp only [ih, ← map_cons_withReturns _ other]
    split
    · rfl
    · split
      · split <;> rfl
      · rfl

theorem upToFirst?_withReturns {mark : Char} (unbroken : Unbroken [mark]) (t : Text) :
    upToFirst? mark (withReturns t) = (upToFirst? mark t).map Passage.withReturns := by
  obtain ⟨⟨noReturn, noLineFeed⟩, -⟩ := unbroken.of_cons
  induction t using lineFeed_induction with
  | nil => rfl
  | lineFeed t ih =>
    rw [withReturns_lineFeed, upToFirst?, upToFirst?, upToFirst?, if_neg noReturn.symm,
      if_neg noLineFeed.symm, if_neg noLineFeed.symm, ih, map_lineFeed_withReturns]
  | cons c t other ih =>
    rw [withReturns_cons other, upToFirst?, upToFirst?, ih, ← map_cons_withReturns _ other]
    split <;> rfl

theorem growFirst_lineFeed (parts : List Text) :
    (growFirst '\n' parts).map withReturns =
      growFirst '\r' (growFirst '\n' (parts.map withReturns)) := by
  cases parts <;> rfl

theorem growFirst_withReturns {c : Char} (other : c ≠ '\n') (parts : List Text) :
    (growFirst c parts).map withReturns = growFirst c (parts.map withReturns) := by
  cases parts <;> simp [growFirst, withReturns_cons other]

theorem splitAtCommas_withReturns (depth : Nat) (before : Option Char) (t : Text) :
    splitAtCommas depth before (withReturns t) =
      (splitAtCommas depth before t).map withReturns := by
  induction t using lineFeed_induction generalizing depth before with
  | nil => rfl
  | lineFeed t ih =>
    have returns : isBlank '\r' = true := isBlank_return.trans isBlank_lineFeed
    rw [withReturns_lineFeed, splitAtCommas_blank returns, splitAtCommas_blank isBlank_lineFeed,
      splitAtCommas_blank isBlank_lineFeed, ih, growFirst_lineFeed]
  | cons c t other ih =>
    rw [withReturns_cons other, splitAtCommas, splitAtCommas, ih, ih]
    split
    · rfl
    · exact (growFirst_withReturns other _).symm

end Bracket

/- Parameters. -/
section Parameter

theorem afterColon?_withReturns (t : Text) :
    (afterColon? (withReturns t)).map (fun p => collapse p.text) =
      (afterColon? t).map fun p => collapse p.text := by
  unfold afterColon?
  rw [trimStart_withReturns]
  cases trimStart t with
  | nil => rw [withReturns_nil, getLast?_withReturns]
  | cons c u =>
    split
    · rename_i nothing
      exact absurd (withReturns_eq_nil.mp nothing) (List.cons_ne_nil c u)
    · exact congrArg some (collapse_withReturns (c :: u))

theorem labelledType?_withReturns (external external' : Option Passage)
    (same : external'.map Passage.text = external.map Passage.text) (t : Text) :
    (labelledType? external' (withReturns t)).map ParameterForm.parameter =
      (labelledType? external t).map ParameterForm.parameter := by
  unfold labelledType?
  rw [word?_withReturns]
  cases read : word? t with
  | none => rfl
  | some name =>
    have line := (oneWord_of_word? read).1.oneLine
    rw [Option.map_some, Option.bind_some, Option.bind_some, Passage.withReturns,
      trimStart_withReturns, after?_withReturns (by decide), withReturns_oneLine line]
    cases after? [':'] (trimStart name.rest) with
    | none => rfl
    | some rest =>
      -- Of a parameter's type only its words count, and its label is the same.
      have label : (external'.elim [] fun label => label.text ++ [' ']) =
          external.elim [] fun label => label.text ++ [' '] := by
        cases external <;> cases external' <;> simp_all
      have types := congrArg (Option.map fun type => (⟨(external.elim [] fun label =>
        label.text ++ [' ']) ++ name.text, type⟩ : Parameter)) (afterColon?_withReturns rest)
      simpa only [Option.map_some, Option.bind_some, Option.map_map, Function.comp_def,
        ParameterForm.parameter, label] using types

theorem ofSegment?_withReturns (segment : Text) :
    Parameter.ofSegment? (withReturns segment) = Parameter.ofSegment? segment := by
  have oneName := labelledType?_withReturns none none rfl segment
  unfold Parameter.ofSegment? ParameterForm.at?
  rw [word?_withReturns]
  cases read : word? segment with
  | none => simpa using oneName
  | some label =>
    have line := (oneWord_of_word? read).1.oneLine
    rw [Option.map_some, Option.bind_some, Option.bind_some, Passage.withReturns,
      afterBlanks?_withReturns, withReturns_oneLine line]
    cases afterBlanks? label.rest with
    | none => simpa using oneName
    | some rest =>
      have twoNames := labelledType?_withReturns (some label)
        (some ⟨label.text, withReturns label.rest⟩) rfl rest
      rw [Option.map_some, Option.bind_some, Option.bind_some, Option.orElse_eq_or,
        Option.orElse_eq_or, Option.map_or, Option.map_or, twoNames, oneName]

theorem listed_withReturns (t : Text) : Parameter.listed (withReturns t) = Parameter.listed t := by
  rw [Parameter.listed_eq_filterMap, Parameter.listed_eq_filterMap, splitAtCommas_withReturns,
    List.filterMap_map]
  congr 1
  funext part
  rw [Function.comp_apply, trim_withReturns, ofSegment?_withReturns]

end Parameter

/-- What is left of a text, and what is left of it with carriage returns: a reader that stops in
front of a line feed has the carriage return behind it. -/
def RestAlike (rest rest' : Text) : Prop :=
  rest' = withReturns rest ∨ ∃ u, rest = '\n' :: u ∧ rest' = '\n' :: withReturns u

theorem RestAlike.trimStart {rest rest' : Text} (alike : RestAlike rest rest') :
    trimStart rest' = withReturns (trimStart rest) := by
  rcases alike with rfl | ⟨u, rfl, rfl⟩
  · exact trimStart_withReturns rest
  · have first : ∀ v, Text.trimStart ('\n' :: v) = Text.trimStart v :=
      fun v => List.dropWhile_cons_of_pos isBlank_lineFeed
    rw [first, first, trimStart_withReturns]

/- The text after a mark. -/
section Marked

variable {isStop : Char → Bool} (passes : isStop '\r' = false) {t : Text}
include passes

/-- The line ends with a carriage return more, which trimming takes off. -/
theorem lineUpTo_withReturns {c : Char} (first : (trimStart t).head? = some c)
    (before : isStop c = false) :
    ∃ p p', lineUpTo isStop t = some p ∧ lineUpTo isStop (withReturns t) = some p' ∧
      trim p'.text = trim p.text ∧ RestAlike p.rest p'.rest := by
  obtain ⟨text, rest, cut, nonempty, inside, stops⟩ := trimStart_cut_of_head? first before
  have line : OneLine text := fun member => (inside _ member).2 rfl
  have cut' : trimStart (withReturns t) = text ++ withReturns rest := by
    rw [trimStart_withReturns, cut, withReturns_append, withReturns_oneLine line]
  refine ⟨⟨text, rest⟩, ?_⟩
  by_cases ends : ∃ u, rest = '\n' :: u
  · obtain ⟨u, rfl⟩ := ends
    refine ⟨⟨text ++ ['\r'], '\n' :: withReturns u⟩, lineUpTo_cut cut nonempty inside stops,
      lineUpTo_cut (by simpa using cut') (by simp) ?_ (by simp), ?_, .inr ⟨u, rfl, rfl⟩⟩
    · intro d member
      rcases List.mem_append.mp member with member | member
      · exact inside d member
      · rw [List.mem_singleton.mp member]
        exact ⟨passes, by decide⟩
    · exact trim_append_blank (isBlank_return.trans isBlank_lineFeed) text
  · refine ⟨⟨text, withReturns rest⟩, lineUpTo_cut cut nonempty inside stops,
      lineUpTo_cut cut' nonempty inside ?_, rfl, .inl rfl⟩
    cases rest with
    | nil => simp
    | cons d rest =>
      have other : d ≠ '\n' := fun same => ends ⟨rest, same ▸ rfl⟩
      rw [withReturns_cons other]
      exact stops

theorem filter_lineUpTo_withReturns (t : Text) :
    ((lineUpTo isStop (withReturns t)).map fun p => trim p.text).filter (· ≠ []) =
      ((lineUpTo isStop t).map fun p => trim p.text).filter (· ≠ []) := by
  by_cases something : ∃ c, (trimStart t).head? = some c ∧ isStop c = false
  · obtain ⟨c, first, before⟩ := something
    obtain ⟨p, p', read, read', same, -⟩ := lineUpTo_withReturns passes first before
    rw [read, read', Option.map_some, Option.map_some, same]
  · have nothing : ∀ c ∈ (trimStart t).head?, isStop c = true := by
      intro c first
      by_contra before
      exact something ⟨c, first, Bool.eq_false_iff.mpr before⟩
    have nothing' : ∀ c ∈ (trimStart (withReturns t)).head?, isStop c = true := by
      rw [trimStart_withReturns, head?_withReturns_trimStart]
      exact nothing
    have blank : ∀ u, (∀ c ∈ (trimStart u).head?, isStop c = true) →
        ((lineUpTo isStop u).map fun p => trim p.text).filter (· ≠ []) = none := by
      intro u none_before
      cases read : lineUpTo isStop u with
      | none => rfl
      | some p => simp [trim_lineUpTo_of_head? none_before read]
    rw [blank _ nothing, blank _ nothing']

end Marked

/- Signatures. -/
section Signature

theorem afterEffect?_withReturns (t : Text) :
    afterEffect? (withReturns t) = (afterEffect? t).map withReturns := by
  unfold afterEffect?
  apply findSome?_eq_map
  intro word member
  rw [trimStart_withReturns, after?_withReturns (oneWord_of_mem_effectWords word member).unbroken]
  cases after? word (trimStart t) with
  | none => rfl
  | some rest =>
    rw [Option.map_some, Option.filter_some, Option.filter_some,
      any_head?_withReturns isWord_return]
    split <;> rfl

theorem afterEffects_withReturns (t : Text) :
    afterEffects (withReturns t) = withReturns (afterEffects t) := by
  induction t using afterEffects.induct with
  | case1 t u found _ ih =>
    have found' := afterEffect?_withReturns t
    rw [found, Option.map_some] at found'
    rw [afterEffects_of_some found', afterEffects_of_some found, ih]
  | case2 t none =>
    have none' := afterEffect?_withReturns t
    rw [none, Option.map_none] at none'
    rw [afterEffects_of_none none', afterEffects_of_none none]

theorem returnType?_withReturns (t : Text) : returnType? (withReturns t) = returnType? t := by
  unfold returnType? returnForm?
  rw [afterEffects_withReturns, trimStart_withReturns, after?_withReturns (by decide)]
  cases after? "->".toList (trimStart (afterEffects t)) with
  | none => rfl
  | some rest => exact filter_lineUpTo_withReturns (by decide) rest

theorem afterGenerics?_withReturns (t : Text) :
    afterGenerics? (withReturns t) = (afterGenerics? t).map withReturns := by
  rw [afterGenerics?_eq_after?, afterGenerics?_eq_after?, trimStart_withReturns,
    after?_withReturns (by decide)]
  cases after? ['<'] (trimStart t) with
  | none => rfl
  | some u =>
    rw [Option.map_some, Option.elim_some, Option.elim_some, closing?_withReturns (by decide)]
    cases closing? '<' '>' 0 none u with
    | none => rfl
    | some p => exact congrArg some (trimStart_withReturns p.rest)

theorem parameterText?_withReturns (t : Text) :
    parameterText? (withReturns t) = (parameterText? t).map Passage.withReturns := by
  rw [parameterText?_eq_after?, parameterText?_eq_after?, after?_withReturns (by decide)]
  cases after? ['('] t with
  | none => rfl
  | some u =>
    rw [Option.map_some, Option.bind_some, Option.bind_some, closing?_withReturns (by decide),
      upToFirst?_withReturns (by decide), Option.map_or]

theorem Signature.at?_withReturns (t : Text) : at? (withReturns t) =
    (at? t).map fun s => ⟨withReturns s.parameters, s.returnType⟩ := by
  unfold at?
  rw [afterGenerics?_withReturns]
  cases afterGenerics? t with
  | none => rfl
  | some u =>
    rw [Option.map_some, Option.bind_some, Option.bind_some, parameterText?_withReturns]
    cases parameterText? u with
    | none => rfl
    | some p => simp [Passage.withReturns, returnType?_withReturns]

theorem Signature.at?_trimStart (t : Text) : at? (trimStart t) = at? t := by
  have twice : trimStart (trimStart t) = trimStart t :=
    trimStart_eq_self (isBlank_head?_trimStart t)
  unfold at? afterGenerics?
  rw [twice]

end Signature
end ReferencePage
