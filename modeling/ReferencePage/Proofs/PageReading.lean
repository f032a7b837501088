import Mathlib.Data.List.Forall2
import ReferencePage.Document.Page
import ReferencePage.Proofs.OneLine

/-! A page can be read back.  No field holds a line feed, so each ends with its line, and an entry
goes on until the next one opens.  Documents with the same page therefore say the same. -/
namespace ReferencePage

open Text

theorem cut_at {mark : Char} {s t u v : Text} (hs : mark ∉ s) (ht : mark ∉ t)
    (same : s ++ mark :: u = t ++ mark :: v) : s = t ∧ u = v := by
  induction s generalizing t with
  | nil =>
    cases t with
    | nil => simpa using same
    | cons d t =>
      obtain ⟨rfl, -⟩ := List.cons.inj same
      exact absurd List.mem_cons_self ht
  | cons c s ih =>
    cases t with
    | nil =>
      obtain ⟨rfl, -⟩ := List.cons.inj same
      exact absurd List.mem_cons_self hs
    | cons d t =>
      simp only [List.cons_append, List.cons.injEq, List.mem_cons, not_or] at same hs ht
      obtain ⟨rfl, later⟩ := same
      obtain ⟨rfl, rest⟩ := ih hs.2 ht.2 later
      exact ⟨rfl, rest⟩

def fieldLine (label field closing rest : Text) : Text :=
  label ++ (field ++ (closing ++ '\n' :: rest))

theorem fieldLine_cut {label closing s t u v : Text} (closed : OneLine closing) (hs : OneLine s)
    (ht : OneLine t) (same : fieldLine label s closing u = fieldLine label t closing v) :
    s = t ∧ u = v := by
  have behind := List.append_cancel_left same
  rw [← List.append_assoc, ← List.append_assoc t] at behind
  obtain ⟨line, rest⟩ := cut_at (hs.append closed) (ht.append closed) behind
  exact ⟨List.append_cancel_right line, rest⟩

/- What a page says of a document, part by part. -/

structure Member.SameOnPage (m n : Member) : Prop where
  name : m.name = n.name
  anchor : m.anchor = n.anchor
  description : m.description = n.description

structure Property.SameOnPage (p q : Property) : Prop where
  member : p.toMember.SameOnPage q.toMember
  type : p.type = q.type

structure Method.SameOnPage (m n : Method) : Prop where
  member : m.toMember.SameOnPage n.toMember
  parameters : m.parameters = n.parameters
  returnType : m.returnType = n.returnType

/-- The documents say the same; a comment that says what stands for a missing one is no other. -/
structure Document.SameOnPage (d e : Document) : Prop where
  name : d.declaration.name = e.declaration.name
  description : d.declaration.description = e.declaration.description
  properties : List.Forall₂ Property.SameOnPage d.properties e.properties
  methods : List.Forall₂ Method.SameOnPage d.methods e.methods

/-- Neither the parameters nor the return type of a method begin here. -/
def EndsEntry (t : Text) : Prop := t.head? ≠ some '*'

/-- Entries that open with a mark and can be told apart, whatever ends them. -/
structure Readable {α : Type} (entry : α → Text) (mark : Text) (valid : α → Prop)
    (same : α → α → Prop) : Prop where
  begins : ∃ c, mark.head? = some c ∧ c ≠ '*'
  opens : ∀ a, mark <+: entry a
  cut : ∀ a b s t, valid a → valid b → EndsEntry s → EndsEntry t →
    entry a ++ s = entry b ++ t → same a b ∧ s = t

namespace Readable

variable {α : Type} {entry : α → Text} {mark : Text} {valid : α → Prop} {same : α → α → Prop}
  (readable : Readable entry mark valid same)
include readable

theorem opens_append (a : α) (s : Text) : mark <+: entry a ++ s :=
  (readable.opens a).trans (List.prefix_append _ s)

theorem endsEntry_flatMap {s : Text} (ends : EndsEntry s) (l : List α) :
    EndsEntry (l.flatMap entry ++ s) := by
  cases l with
  | nil => exact ends
  | cons a l =>
    obtain ⟨c, first, differs⟩ := readable.begins
    obtain ⟨rest, cut⟩ := readable.opens_append a (l.flatMap entry ++ s)
    rw [EndsEntry, List.flatMap_cons, List.append_assoc, ← cut, List.head?_append, first]
    simpa using differs

/-- A list of entries is known where what follows opens no entry.  The two lists are gone through at
once, and neither ends before the other. -/
theorem flatMap_cut {l l' : List α} {s t : Text} (all : ∀ a ∈ l, valid a) (all' : ∀ a ∈ l', valid a)
    (hs : ¬mark <+: s) (ht : ¬mark <+: t) (ends : EndsEntry s) (ends' : EndsEntry t)
    (eq : l.flatMap entry ++ s = l'.flatMap entry ++ t) : List.Forall₂ same l l' ∧ s = t := by
  induction l generalizing l' with
  | nil =>
    cases l' with
    | nil => exact ⟨.nil, eq⟩
    | cons b l' =>
      rw [List.flatMap_cons, List.append_assoc, List.flatMap_nil, List.nil_append] at eq
      exact absurd (eq ▸ readable.opens_append b _) hs
  | cons a l ih =>
    cases l' with
    | nil =>
      rw [List.flatMap_cons, List.append_assoc, List.flatMap_nil, List.nil_append] at eq
      exact absurd (eq ▸ readable.opens_append a _) ht
    | cons b l' =>
      simp only [List.forall_mem_cons] at all all'
      rw [List.flatMap_cons, List.append_assoc, List.flatMap_cons, List.append_assoc] at eq
      obtain ⟨first, later⟩ := readable.cut a b _ _ all.1 all'.1
        (readable.endsEntry_flatMap ends l) (readable.endsEntry_flatMap ends' l') eq
      obtain ⟨others, rest⟩ := ih all.2 all'.2 later
      exact ⟨.cons first others, rest⟩

end Readable

/- The heading of a member. -/
section Heading

/- The name stands behind the last angle bracket. -/
def Member.title (m : Member) : Text := m.anchor ++ '\'' :: '>' :: m.name

def headingMark : Text := "### <a id='".toList

theorem Member.heading_append (m : Member) (rest : Text) : m.heading ++ rest =
    fieldLine headingMark m.title "</a>".toList ('\n' :: rest) := by
  have closing : "'>".toList = ['\'', '>'] := rfl
  unfold heading title fieldLine
  rw [closing]
  simp only [List.append_assoc]
  rfl

theorem Member.prefix_heading_append (m : Member) (rest : Text) :
    headingMark <+: m.heading ++ rest := by
  rw [heading_append]
  exact List.prefix_append _ _

variable {kind : MemberKind} {m n : Member} {s t : Text}

theorem Member.Plain.oneLine_title (plain : m.Plain kind) : OneLine m.title :=
  plain.oneLine_anchor.append
    (OneLine.append (show OneLine ['\'', '>'] by decide) plain.word.oneLine)

theorem Member.Plain.not_mem_name (plain : m.Plain kind) : '>' ∉ m.name := by
  intro member
  have word := plain.word.2 '>' member
  have other : isWord '>' = false := by decide
  simp [other] at word

theorem Member.Plain.heading_cut (plain : m.Plain kind) (plain' : n.Plain kind)
    (eq : m.heading ++ s = n.heading ++ t) : m.name = n.name ∧ m.anchor = n.anchor ∧ s = t := by
  rw [Member.heading_append, Member.heading_append] at eq
  obtain ⟨line, rest⟩ := fieldLine_cut (by decide) plain.oneLine_title plain'.oneLine_title eq
  have backwards := congrArg List.reverse line
  simp only [Member.title, List.reverse_append, List.reverse_cons, List.append_assoc,
    List.cons_append, List.nil_append] at backwards
  obtain ⟨name, -⟩ := cut_at (by simpa using plain.not_mem_name)
    (by simpa using plain'.not_mem_name) backwards
  have name := List.reverse_injective name
  refine ⟨name, ?_, (List.cons.inj rest).2⟩
  rw [plain.anchored, plain'.anchored, name]

end Heading

/- One property. -/
section PropertyEntry

variable {p q : Property} {s t : Text}

theorem Property.entry_append (p : Property) (rest : Text) : p.entry ++ rest =
    p.heading ++ fieldLine "- **Type:** `".toList p.type ['`']
      (fieldLine "- **Description:** ".toList p.description [] ('\n' :: rest)) := by
  have closing : "`\n".toList = ['`', '\n'] := rfl
  unfold entry fieldLine
  rw [closing]
  simp only [List.append_assoc]
  rfl

theorem Property.Plain.entry_cut (plain : p.Plain) (plain' : q.Plain)
    (eq : p.entry ++ s = q.entry ++ t) : p.SameOnPage q ∧ s = t := by
  rw [Property.entry_append, Property.entry_append] at eq
  obtain ⟨name, anchor, eq⟩ := plain.member.heading_cut plain'.member eq
  obtain ⟨type, eq⟩ := fieldLine_cut (by decide) plain.type plain'.type eq
  obtain ⟨description, eq⟩ :=
    fieldLine_cut (by decide) plain.member.description plain'.member.description eq
  exact ⟨⟨⟨name, anchor, description⟩, type⟩, (List.cons.inj eq).2⟩

theorem Property.readable :
    Readable Property.entry headingMark Property.Plain Property.SameOnPage where
  begins := ⟨'#', rfl, by decide⟩
  opens p := by
    rw [← List.append_nil p.entry, entry_append]
    exact p.prefix_heading_append _
  cut _ _ _ _ plain plain' _ _ eq := plain.entry_cut plain' eq

end PropertyEntry

/- The parameters of a method. -/
section Parameters

variable {p q : Parameter} {s t : Text}

theorem Parameter.item_append (p : Parameter) (rest : Text) : p.item ++ rest =
    "- `".toList ++ (p.name ++ '`' :: fieldLine [' ', '('] p.type [')'] rest) := by
  have opening : "` (".toList = ['`', ' ', '('] := rfl
  have closing : ")\n".toList = [')', '\n'] := rfl
  unfold item fieldLine
  rw [opening, closing]
  simp only [List.append_assoc]
  rfl

theorem Parameter.Plain.item_cut (plain : p.Plain) (plain' : q.Plain)
    (eq : p.item ++ s = q.item ++ t) : p = q ∧ s = t := by
  rw [Parameter.item_append, Parameter.item_append] at eq
  obtain ⟨name, eq⟩ := cut_at plain.unquoted plain'.unquoted (List.append_cancel_left eq)
  obtain ⟨type, eq⟩ := fieldLine_cut (by decide) plain.type plain'.type eq
  obtain ⟨_, _⟩ := p
  obtain ⟨_, _⟩ := q
  simp_all

theorem Parameter.readable : Readable Parameter.item "- `".toList Parameter.Plain Eq where
  begins := ⟨'-', rfl, by decide⟩
  opens p := by
    rw [← List.append_nil p.item, item_append]
    exact List.prefix_append _ _
  cut _ _ _ _ plain plain' _ _ eq := plain.item_cut plain' eq

def Parameter.paragraph (ps : List Parameter) : Text :=
  if ps = [] then []
  else "**Parameters:**\n\n".toList ++ ps.flatMap Parameter.item ++ endOfLine

theorem Parameter.paragraph_nil : paragraph [] = [] := if_pos rfl

theorem Parameter.paragraph_append {ps : List Parameter} (nonempty : ps ≠ []) (rest : Text) :
    paragraph ps ++ rest =
      "**Parameters:**\n\n".toList ++ (ps.flatMap Parameter.item ++ '\n' :: rest) := by
  rw [paragraph, if_neg nonempty, List.append_assoc, List.append_assoc]
  rfl

def EndsParameters (t : Text) : Prop := ¬"**Parameters:**\n\n".toList <+: t

theorem Parameter.paragraph_cut {ps qs : List Parameter} (all : ∀ p ∈ ps, p.Plain)
    (all' : ∀ q ∈ qs, q.Plain) (ends : EndsParameters s) (ends' : EndsParameters t)
    (eq : paragraph ps ++ s = paragraph qs ++ t) : ps = qs ∧ s = t := by
  by_cases none : ps = [] <;> by_cases none' : qs = []
  · subst none none'
    exact ⟨rfl, eq⟩
  · subst none
    rw [paragraph_append none', paragraph_nil, List.nil_append] at eq
    exact absurd (eq ▸ List.prefix_append _ _) ends
  · subst none'
    rw [paragraph_append none, paragraph_nil, List.nil_append] at eq
    exact absurd (eq ▸ List.prefix_append _ _) ends'
  · rw [paragraph_append none, paragraph_append none'] at eq
    obtain ⟨items, rest⟩ := Parameter.readable.flatMap_cut all all' (by simp) (by simp)
      (by simp [EndsEntry]) (by simp [EndsEntry]) (List.append_cancel_left eq)
    exact ⟨List.forall₂_eq_eq_eq ▸ items, (List.cons.inj rest).2⟩

end Parameters

/- The return type of a method. -/
section Returns

variable {m n : Method} {s t : Text}

def Method.returnParagraph (m : Method) : Text :=
  if m.returnsValue then "**Returns:** `".toList ++ m.returnType ++ "`\n\n".toList else []

theorem Method.returnParagraph_append (returns : m.returnsValue = true) (rest : Text) :
    m.returnParagraph ++ rest =
      fieldLine "**Returns:** `".toList m.returnType ['`'] ('\n' :: rest) := by
  have closing : "`\n\n".toList = ['`', '\n', '\n'] := rfl
  rw [returnParagraph, if_pos returns, closing]
  unfold fieldLine
  simp only [List.append_assoc]
  rfl

theorem Method.returnType_of_returnsValue (m : Method) (none : ¬m.returnsValue = true) :
    m.returnType = voidType := by
  simpa [returnsValue] using none

theorem Method.returnParagraph_cut (line : OneLine m.returnType) (line' : OneLine n.returnType)
    (ends : EndsEntry s) (ends' : EndsEntry t)
    (eq : m.returnParagraph ++ s = n.returnParagraph ++ t) :
    m.returnType = n.returnType ∧ s = t := by
  by_cases returns : m.returnsValue = true <;> by_cases returns' : n.returnsValue = true
  · rw [returnParagraph_append returns, returnParagraph_append returns'] at eq
    obtain ⟨type, rest⟩ := fieldLine_cut (by decide) line line' eq
    exact ⟨type, (List.cons.inj rest).2⟩
  · rw [returnParagraph_append returns, returnParagraph, if_neg returns', List.nil_append] at eq
    exact absurd (eq ▸ rfl) ends'
  · rw [returnParagraph_append returns', returnParagraph, if_neg returns, List.nil_append] at eq
    exact absurd (eq ▸ rfl) ends
  · rw [returnParagraph, if_neg returns, returnParagraph, if_neg returns'] at eq
    rw [m.returnType_of_returnsValue returns, n.returnType_of_returnsValue returns']
    exact ⟨rfl, eq⟩

theorem Method.endsParameters_returnParagraph (m : Method) (ends : EndsEntry s) :
    EndsParameters (m.returnParagraph ++ s) := by
  by_cases returns : m.returnsValue = true
  · rw [returnParagraph_append returns, fieldLine]
    rintro ⟨rest, eq⟩
    have third : some 'P' = some 'R' := congrArg (fun t : Text => t[2]?) eq
    exact absurd third (by decide)
  · rw [returnParagraph, if_neg returns]
    rintro ⟨rest, rfl⟩
    exact ends rfl

end Returns

/- One method. -/
section MethodEntry

variable {m n : Method} {s t : Text}

theorem Method.entry_append (fenceLanguage : Text) (m : Method) (rest : Text) :
    m.entry fenceLanguage ++ rest =
      m.heading ++ fieldLine ("```".toList ++ (fenceLanguage ++ endOfLine)) m.declared []
        (fieldLine ("```".toList ++ (endOfParagraph ++ "**Description:** ".toList)) m.description []
          ('\n' :: (Parameter.paragraph m.parameters ++ (m.returnParagraph ++ rest)))) := by
  have fence : "\n```".toList = '\n' :: "```".toList := rfl
  unfold entry fieldLine Parameter.paragraph returnParagraph
  rw [fence]
  simp only [List.append_assoc]
  rfl

theorem Parameter.Plain.oneLine_declared {p : Parameter} (plain : p.Plain) :
    OneLine p.declared :=
  (plain.name.append (by decide)).append plain.type

theorem Method.Plain.oneLine_declared (plain : m.Plain) : OneLine m.declared := by
  have list : OneLine (Parameter.list m.parameters) := by
    apply oneLine_join (by decide)
    intro t listed
    obtain ⟨p, known, rfl⟩ := List.mem_map.mp listed
    exact (plain.parameters p known).oneLine_declared
  have front : OneLine (m.name ++ '(' :: Parameter.list m.parameters ++ [')']) := by
    have name := plain.member.word.oneLine
    simp [OneLine] at *
    exact ⟨name, list⟩
  unfold Method.declared
  split
  · exact front.append ((show OneLine " -> ".toList by decide).append plain.returnType)
  · exact front.append (by decide)

theorem Method.Plain.entry_cut {fenceLanguage : Text} (plain : m.Plain) (plain' : n.Plain)
    (ends : EndsEntry s) (ends' : EndsEntry t)
    (eq : m.entry fenceLanguage ++ s = n.entry fenceLanguage ++ t) : m.SameOnPage n ∧ s = t := by
  rw [Method.entry_append, Method.entry_append] at eq
  obtain ⟨name, anchor, eq⟩ := plain.member.heading_cut plain'.member eq
  obtain ⟨-, eq⟩ := fieldLine_cut (by decide) plain.oneLine_declared plain'.oneLine_declared eq
  obtain ⟨description, eq⟩ :=
    fieldLine_cut (by decide) plain.member.description plain'.member.description eq
  obtain ⟨parameters, eq⟩ := Parameter.paragraph_cut plain.parameters plain'.parameters
    (m.endsParameters_returnParagraph ends) (n.endsParameters_returnParagraph ends')
    (List.cons.inj eq).2
  obtain ⟨returnType, eq⟩ :=
    Method.returnParagraph_cut plain.returnType plain'.returnType ends ends' eq
  exact ⟨⟨⟨name, anchor, description⟩, parameters, returnType⟩, eq⟩

theorem Method.readable (fenceLanguage : Text) :
    Readable (Method.entry fenceLanguage) headingMark Method.Plain Method.SameOnPage where
  begins := ⟨'#', rfl, by decide⟩
  opens m := by
    rw [← List.append_nil (m.entry fenceLanguage), entry_append]
    exact m.prefix_heading_append _
  cut _ _ _ _ plain plain' ends ends' eq := plain.entry_cut plain' ends ends' eq

end MethodEntry

/- The sections of a page. -/
section Sections

variable {α : Type} {entry : α → Text} {valid : α → Prop} {same : α → α → Prop} {title : String}
  {l l' : List α} {s t : Text}

/-- The section with this title does not begin here, and no entry of another does. -/
structure EndsSection (title : String) (t : Text) : Prop where
  entry : EndsEntry t
  heading : ¬headingMark <+: t
  titled : ¬"## ".toList ++ (title.toList ++ endOfParagraph) <+: t

theorem titled_append (nonempty : l ≠ []) (rest : Text) : titled title entry l ++ rest =
    ("## ".toList ++ (title.toList ++ endOfParagraph)) ++ (l.flatMap entry ++ rest) := by
  rw [titled, if_neg (by simpa using nonempty)]
  simp only [List.append_assoc]

theorem titled_nil : titled title entry [] = [] := rfl

theorem Readable.titled_cut (readable : Readable entry headingMark valid same)
    (all : ∀ a ∈ l, valid a) (all' : ∀ a ∈ l', valid a) (ends : EndsSection title s)
    (ends' : EndsSection title t) (eq : titled title entry l ++ s = titled title entry l' ++ t) :
    List.Forall₂ same l l' ∧ s = t := by
  by_cases none : l = [] <;> by_cases none' : l' = []
  · subst none none'
    exact ⟨.nil, eq⟩
  · subst none
    rw [titled_append none', titled_nil, List.nil_append] at eq
    exact absurd (eq ▸ List.prefix_append _ _) ends.titled
  · subst none'
    rw [titled_append none, titled_nil, List.nil_append] at eq
    exact absurd (eq ▸ List.prefix_append _ _) ends'.titled
  · rw [titled_append none, titled_append none'] at eq
    exact readable.flatMap_cut all all' ends.heading ends'.heading ends.entry ends'.entry
      (List.append_cancel_left eq)

theorem endsSection_nil : EndsSection title [] :=
  ⟨by simp [EndsEntry], by decide, by simp⟩

theorem endsSection_methods (entry : Method → Text) (ms : List Method) :
    EndsSection "Properties" (titled "Methods" entry ms) := by
  by_cases none : ms = []
  · subst none
    exact endsSection_nil
  · rw [← List.append_nil (titled "Methods" entry ms), titled_append none]
    refine ⟨by simp [EndsEntry], ?_, ?_⟩
    · rintro ⟨rest, eq⟩
      have third : some '#' = some ' ' := congrArg (fun t : Text => t[2]?) eq
      exact absurd third (by decide)
    · rintro ⟨rest, eq⟩
      have fourth : some 'P' = some 'M' := congrArg (fun t : Text => t[3]?) eq
      exact absurd fourth (by decide)

theorem titled_congr {R : α → α → Prop} (each : ∀ a b, R a b → entry a = entry b)
    (related : List.Forall₂ R l l') : titled title entry l = titled title entry l' := by
  have entries : l.flatMap entry = l'.flatMap entry := by
    induction related with
    | nil => rfl
    | cons first _ ih => rw [List.flatMap_cons, List.flatMap_cons, each _ _ first, ih]
  cases related with
  | nil => rfl
  | cons first others =>
    unfold titled
    rw [entries]
    rfl

end Sections

theorem Member.SameOnPage.heading {m n : Member} (same : m.SameOnPage n) :
    m.heading = n.heading := by
  unfold Member.heading
  rw [same.name, same.anchor]

theorem Property.SameOnPage.entry {p q : Property} (same : p.SameOnPage q) :
    p.entry = q.entry := by
  unfold Property.entry
  rw [same.member.heading, same.member.description, same.type]

theorem Method.SameOnPage.entry {m n : Method} (fenceLanguage : Text) (same : m.SameOnPage n) :
    m.entry fenceLanguage = n.entry fenceLanguage := by
  unfold Method.entry Method.declared Method.returnsValue
  rw [same.member.heading, same.member.name, same.member.description, same.parameters,
    same.returnType]

namespace Document

variable {d e : Document}

/- Between the description and the sections nothing depends on the document. -/
theorem page_eq (setting : Setting) (d : Document) : d.page setting =
    fieldLine "# ".toList d.declaration.name []
      ('\n' :: fieldLine [] d.declaration.description []
        ((endOfLine ++ ("## File Information\n\n".toList ++ ("- **File:** ".toList ++
          (setting.fileName ++ (endOfLine ++ ("- **Documentation Generated:** ".toList ++
            (setting.generatedAt ++ endOfParagraph))))))) ++
          (titled "Properties" Property.entry d.properties ++
            titled "Methods" (Method.entry setting.fenceLanguage) d.methods))) := by
  unfold page fieldLine
  simp only [List.append_assoc]
  rfl

theorem Plain.sameOnPage (plain : d.Plain) (plain' : e.Plain) {setting : Setting}
    (eq : d.page setting = e.page setting) : d.SameOnPage e := by
  rw [page_eq, page_eq] at eq
  obtain ⟨name, eq⟩ :=
    fieldLine_cut (by decide) plain.declaration.name plain'.declaration.name eq
  obtain ⟨description, eq⟩ := fieldLine_cut (by decide) plain.declaration.description
    plain'.declaration.description (List.cons.inj eq).2
  obtain ⟨properties, eq⟩ := Property.readable.titled_cut plain.properties plain'.properties
    (endsSection_methods _ _) (endsSection_methods _ _) (List.append_cancel_left eq)
  rw [← List.append_nil (titled _ _ d.methods), ← List.append_nil (titled _ _ e.methods)] at eq
  obtain ⟨methods, -⟩ := (Method.readable _).titled_cut plain.methods plain'.methods
    endsSection_nil endsSection_nil eq
  exact ⟨name, description, properties, methods⟩

theorem SameOnPage.page (same : d.SameOnPage e) (setting : Setting) :
    d.page setting = e.page setting := by
  have properties : titled "Properties" Property.entry d.properties =
      titled "Properties" Property.entry e.properties :=
    titled_congr (fun _ _ each => each.entry) same.properties
  have methods : titled "Methods" (Method.entry setting.fenceLanguage) d.methods =
      titled "Methods" (Method.entry setting.fenceLanguage) e.methods :=
    titled_congr (fun _ _ each => each.entry _) same.methods
  rw [page_eq, page_eq, same.name, same.description, properties, methods]

/-- Of documents that are made from sources, no text holds a line feed, and those with the same page
say the same, whatever the setting. -/
theorem page_eq_iff_sameOnPage {source other : Text} (made : ofSource? source = some d)
    (made' : ofSource? other = some e) :
    (∀ t ∈ d.texts ++ e.texts, OneLine t) ∧
      ∀ setting, d.page setting = e.page setting ↔ d.SameOnPage e := by
  have plain := plain_of_ofSource? made
  have plain' := plain_of_ofSource? made'
  constructor
  · intro t known
    rcases List.mem_append.mp known with known | known
    · exact plain.oneLine_texts t known
    · exact plain'.oneLine_texts t known
  · intro setting
    exact ⟨plain.sameOnPage plain', fun same => same.page setting⟩

/- A type with one property and one method, declared in two ways. -/
def point (keyword : TypeKeyword) : Document where
  declaration := ⟨"Point".toList, keyword, none⟩
  properties := [⟨.of .property "x".toList none, "Int".toList⟩]
  methods := [⟨.of .method "move".toList none, [⟨"by n".toList, "Int".toList⟩], "Bool".toList⟩]

def closeSource : Text :=
  "class Point \x7b\n  let x: Int\n  func move(by n: Int) -> Bool\n\x7d".toList

def looseSource : Text :=
  ("public struct Point \x7b\n  private(set) var x :Int = 0\n\n" ++
    "  func move <T> ( by  n:Int )  throws->Bool \x7b \x7d\n\x7d").toList

theorem page_eq_iff_sameOnPage_point :
    ofSource? closeSource = some (point .classType) ∧
      ofSource? looseSource = some (point .structType) ∧
      (point .classType).SameOnPage (point .structType) ∧
      (∀ t ∈ (point .classType).texts ++ (point .structType).texts, OneLine t) ∧
      ∀ setting, (point .classType).page setting = (point .structType).page setting ↔
        (point .classType).SameOnPage (point .structType) := by
  have made : ofSource? closeSource = some (point .classType) := by decide +kernel
  have made' : ofSource? looseSource = some (point .structType) := by decide +kernel
  have same : (point .classType).SameOnPage (point .structType) :=
    ⟨rfl, rfl, .cons ⟨⟨rfl, rfl, rfl⟩, rfl⟩ .nil, .cons ⟨⟨rfl, rfl, rfl⟩, rfl, rfl⟩ .nil⟩
  exact ⟨made, made', same, page_eq_iff_sameOnPage made made'⟩

end Document
end ReferencePage
