import ReferencePage.Proofs.AttachedHeads
import ReferencePage.Proofs.Collected

/-! No comment of a method is lost.  The search goes on behind what it has found, so it can miss the
opening of a comment only inside of an earlier find.  That find then ends its comment in the same
place, and reads the same head behind it. -/
namespace ReferencePage

open Text

/-- The head stands in the source, and the comment directly in front of it. -/
structure NamedHead.DocumentedAt {keywords : List Text} (head : NamedHead keywords)
    (source front content before after : Text) : Prop extends
    head.StandsIn source before after where
  directly : DirectlyBefore front (commentOf content) before
  inside : NoClosing content

/-- The find has this form, and its comment part ends behind `read`. -/
structure Head.Attaches (found : Head) (source read : Text) (form : Form) : Prop where
  reads : found.toForm = form
  part : ∃ p, found.commentPart = some p ∧ source = read ++ p.rest

section Covered

variable {keywords : List Text} {source front rest content content' after g : Text}
  {between : Between} {head : NamedHead keywords} {x : Head}

theorem Head.ReadAs.exists_cut (readAs : x.ReadAs content between head after) {front' : Text}
    (cut : source = front' ++ x.start) (cut' : source = front ++ rest)
    (covered : front'.length = front.length ∨
      front'.length < front.length ∧ front.length < front'.length + x.size) :
    ∃ g b, commentOf content ++ (between.text ++ head.text) = g ++ b ∧ b ≠ [] ∧
      rest = b ++ after := by
  have rests : x.rest = after := congrArg Form.rest readAs.reads
  have start : x.start = (commentOf content ++ (between.text ++ head.text)) ++ after := by
    rw [readAs.start]
    simp
  have size : x.size = (commentOf content ++ (between.text ++ head.text)).length := by
    rw [Head.size, start, rests, List.length_append, Nat.add_sub_cancel]
  obtain ⟨g, rfl⟩ : front' <+: front :=
    List.prefix_of_prefix_length_le ⟨_, cut.symm⟩ ⟨_, cut'.symm⟩ (by omega)
  have same : (commentOf content ++ (between.text ++ head.text)) ++ after = g ++ rest := by
    rw [← start]
    exact List.append_cancel_left (cut.symm.trans (cut'.trans (List.append_assoc _ _ _)))
  have shorter : g.length < (commentOf content ++ (between.text ++ head.text)).length := by
    have opening : 0 < (commentOf content ++ (between.text ++ head.text)).length := Nat.succ_pos _
    rw [size, List.length_append] at covered
    omega
  rcases List.append_eq_append_iff.mp same with ⟨c, longer, -⟩ | ⟨b, split, behind⟩
  · have sizes := congrArg List.length longer
    rw [List.length_append] at sizes
    omega
  · refine ⟨g, b, split, ?_, behind⟩
    rintro rfl
    rw [split, List.append_nil] at shorter
    exact Nat.lt_irrefl _ shorter

variable (keys : HeadKeywords keywords)

include keys in
theorem behind_eq_of_opens {b behind : Text} (inside : NoClosing content)
    (inside' : NoClosing content') (first : content.head? ≠ some '/')
    (cut : commentOf content' ++ (between.text ++ head.text) = g ++ b) (nonempty : b ≠ [])
    (same : commentOf content ++ behind = b ++ after) :
    behind = between.text ++ (head.text ++ after) := by
  have no_slash := between.not_mem_text_append keys head stops_slash
  have no_star := between.not_mem_text_append keys head stops_star
  obtain ⟨d, u, whole⟩ := List.exists_cons_of_ne_nil nonempty
  have opens : b ++ after = '/' :: '*' :: '*' :: (content ++ '*' :: '/' :: behind) := by
    rw [← same]
    simp [commentOf]
  have slash : '/' ∈ b := by
    rw [whole, List.cons_append] at opens
    rw [whole, (List.cons.inj opens).1]
    exact List.mem_cons_self
  rcases List.append_eq_append_iff.mp cut with ⟨c, -, split⟩ | ⟨c, split, rfl⟩
  · -- Behind the other comment there is no slash.
    exact absurd (split ▸ List.mem_append_right _ slash) no_slash
  by_cases none : c = []
  · rw [none, List.nil_append] at slash
    exact absurd slash no_slash
  rw [List.append_assoc] at opens
  cases opensInside ⟨g, split.symm⟩ none opens with
  | atSlash stars =>
    obtain ⟨e, v, name⟩ := List.exists_cons_of_ne_nil
      (List.append_ne_nil_of_right_ne_nil between.text head.text_ne_nil)
    obtain ⟨t, star⟩ := stars
    rw [name, List.cons_append, List.cons_append] at star
    exact absurd (name ▸ (List.cons.inj star).1 ▸ List.mem_cons_self) no_star
  | atStar last closes =>
    cases content with
    | nil => simp at closes
    | cons e content => exact absurd (congrArg some (List.cons.inj closes).1) first
  | before w inner cut =>
    have same' : commentOf content ++ behind =
        commentOf w ++ ((between.text ++ head.text) ++ after) := by
      simpa [commentOf] using cut
    have inside_w : NoClosing w := fun closing => inside' (closing.trans inner.isInfix)
    rw [(commentOf_append_inj inside inside_w same').2, List.append_assoc]

include keys in
/-- Directly behind a comment whose content does not begin with a slash, every head is found, with a
comment that ends there too. -/
theorem Head.exists_attaches {before : Text} (documented : head.DocumentedAt source front content
    before after) (first : content.head? ≠ some '/') :
    ∃ found ∈ documentedIn (named? keywords) source,
      found.Attaches source (front ++ commentOf content) (head.form after) := by
  obtain ⟨between, place⟩ := documented.directly
  have cut : source = front ++ (commentOf content ++ (between.text ++ (head.text ++ after))) := by
    rw [documented.cut, place]
    simp
  obtain ⟨y, here, -⟩ := exists_documented? keys documented.inside between head documented.ends
    front.getLast?
  obtain ⟨found, known, front', rest', there, covers⟩ := mem_scan_of_succeeds Head.size
    ⟨cut, by simp [commentOf], here⟩
  obtain ⟨start, content', between', head', after', readAs⟩ := exists_readAs there.found
  have cut' : source = front' ++ found.start := start ▸ there.cut
  obtain ⟨g, b, split, nonempty, same⟩ := readAs.exists_cut cut' cut covers
  have behind := behind_eq_of_opens keys documented.inside readAs.inside first split nonempty same
  have form := readAs.form
  rw [← behind, between.named?_text keys head documented.ends] at form
  refine ⟨found, known, (Option.some.inj form).symm, _, readAs.commentPart, ?_⟩
  rw [cut, ← behind, List.append_assoc]

theorem Head.exists_documentedAt {found : Head}
    (known : found ∈ documentedIn (named? keywords) source) :
    ∃ (head : NamedHead keywords) (front content before after : Text),
      head.DocumentedAt source front content before after ∧ source = front ++ found.start ∧
        found.Attaches source (front ++ commentOf content) (head.form after) ∧
          found.comment = plainText? (dropTrailingStars content) := by
  obtain ⟨front, rest, here⟩ := succeeds_of_mem_scan known
  obtain ⟨start, content, between, head, after, readAs⟩ := exists_readAs here.found
  have cut : source = front ++ found.start := start ▸ here.cut
  obtain ⟨body, attached, text, -⟩ := readAs.doc
  refine ⟨head, front, content, _, after, ⟨readAs.standsIn cut, ⟨between, rfl⟩, readAs.inside⟩, cut,
    ⟨readAs.reads, _, readAs.commentPart, ?_⟩, ?_⟩
  · rw [cut, readAs.start, List.append_assoc]
  · rw [comment, attached, Option.bind_some, text]

end Covered

namespace Shape

variable {α : Type} {shape : Shape α} {source : Text} {members : List α} {found : Head} {entry : α}

theorem mem_collectDocumented (names : shape.NamesEntries)
    (advances : ∀ t form, shape.form? t = some form → Advances t form.rest)
    (known : found ∈ shape.documentedHeads source) (complete : shape.entry? found = some entry)
    (new : shape.lists members found.name.text = false)
    (first : ∀ other ∈ shape.documentedHeads source, other.name.text = found.name.text →
      (shape.entry? other).isSome → other.rest.length ≤ found.rest.length) :
    entry ∈ shape.collectDocumented source members := by
  have kept : found ∈ shape.completeHeads (shape.documentedHeads source) :=
    List.mem_filter.mpr ⟨known, complete ▸ rfl⟩
  obtain ⟨earlier, later, split⟩ := List.append_of_mem kept
  have ordered : (shape.completeHeads (shape.documentedHeads source)).Pairwise
      fun x y => y.start.length ≤ x.rest.length :=
    (Head.pairwise_documentedIn advances source).filter _
  rw [split] at ordered
  obtain ⟨-, -, longer⟩ := (Head.documented?_readInPlace advances).exists_place known
  have leads : (shape.completeHeads (shape.documentedHeads source)).find?
      (fun head => head.name.text = found.name.text) = some found := by
    refine List.find?_eq_some_iff_append.mpr ⟨by simp, earlier, later, split, ?_⟩
    intro other member
    have there : other ∈ shape.completeHeads (shape.documentedHeads source) :=
      split ▸ List.mem_append_left _ member
    obtain ⟨listed, made⟩ := List.mem_filter.mp there
    have apart : found.start.length ≤ other.rest.length :=
      (List.pairwise_append.mp ordered).2.2 other member found List.mem_cons_self
    by_contra same
    have earlier := first other listed (by simpa using same) made
    omega
  rw [collectDocumented, foldl_add names]
  refine List.mem_append_right _ (List.mem_filterMap.mpr ⟨found.name.text, ?_, ?_⟩)
  · exact mem_newNames.mpr ⟨⟨found, kept, rfl⟩, new⟩
  · rw [leads]
    exact complete

end Shape

namespace Head

variable {source : Text} {found : Head}

def Recorded (source : Text) (found : Head) : Prop :=
  ∀ (members : List Method) (signature : Signature), Signature.at? found.rest = some signature →
    Method.shape.lists members found.name.text = false →
      (∀ other ∈ documentedIn Form.method? source, other.name.text = found.name.text →
        (Signature.at? other.rest).isSome → other.rest.length ≤ found.rest.length) →
      ⟨.of .method found.name.text found.comment, Parameter.listed signature.parameters,
        signature.returnType.getD voidType⟩ ∈ Method.shape.collectDocumented source members

theorem recorded_of_mem (known : found ∈ documentedIn Form.method? source) :
    found.Recorded source := by
  intro members signature complete new first
  apply Shape.mem_collectDocumented Method.shape_namesEntries (fun _ _ => advances_of_named?) known
    (congrArg (Option.map _) complete) new
  intro other listed same made
  exact first other listed same (Option.isSome_map ▸ made)

/-- Every method directly behind a comment is found with one that ends there, and recorded; and
whatever is found is such a method, with its comment from the opening on. -/
theorem methods_documented (source : Text) :
    (∀ (head : NamedHead ["func".toList]) (front content before after : Text),
      head.DocumentedAt source front content before after → content.head? ≠ some '/' →
        ∃ found ∈ documentedIn Form.method? source, found.Recorded source ∧
          found.Attaches source (front ++ commentOf content) (head.form after)) ∧
    ∀ found ∈ documentedIn Form.method? source,
      ∃ (head : NamedHead ["func".toList]) (front content before after : Text),
        head.DocumentedAt source front content before after ∧ source = front ++ found.start ∧
          found.Attaches source (front ++ commentOf content) (head.form after) ∧
            found.comment = plainText? (dropTrailingStars content) := by
  constructor
  · intro head front content before after documented first
    obtain ⟨found, known, attaches⟩ := exists_attaches methodKeywords_headKeywords documented first
    exact ⟨found, known, recorded_of_mem known, attaches⟩
  · intro found known
    exact exists_documentedAt known

/- The comment of the first method opens twice, and the second method has the name of the first. -/
def overload : Text := "(a: Int) \x7b\n/** M. */ func add() \x7b".toList

def overloadedSource : Text :=
  "/** One /** two **/ public static func add".toList ++ overload

def addHead : NamedHead ["func".toList] :=
  ⟨"func".toList, [' '], "add".toList, by decide, by decide, by simp [isBlank_space], by decide⟩

def publicStatic : Between :=
  ⟨[' '], [⟨"public".toList, [], [' '], by decide, .inl rfl, by decide, by simp [isBlank_space]⟩,
    ⟨"static".toList, [], [' '], by decide, .inl rfl, by decide, by simp [isBlank_space]⟩],
    by simp [isBlank_space]⟩

theorem methods_documented_overloadedSource :
    ∃ found ∈ documentedIn Form.method? overloadedSource,
      found.comment = some "One /** two".toList ∧
      found.Attaches overloadedSource ("/** One ".toList ++ commentOf " two *".toList)
        (addHead.form overload) ∧
      ⟨.of .method "add".toList (some "One /** two".toList), [⟨"a".toList, "Int".toList⟩],
        voidType⟩ ∈ Method.shape.collectDocumented overloadedSource [] := by
  have documented : addHead.DocumentedAt overloadedSource "/** One ".toList " two *".toList
      "/** One /** two **/ public static ".toList overload := by
    refine ⟨⟨by decide, by decide, ?_⟩, ⟨publicStatic, by decide⟩, by decide⟩
    rintro c ⟨⟩
    decide
  obtain ⟨found, known, recorded, attaches⟩ :=
    (methods_documented overloadedSource).1 _ _ _ _ _ documented (by decide)
  have finds : ∀ x ∈ documentedIn Form.method? overloadedSource,
      x.rest.length ≤ overload.length ∧
        (x.rest = overload → x.comment = some "One /** two".toList) := by
    decide +kernel
  have name : found.name.text = "add".toList :=
    congrArg (fun form => form.name.text) attaches.reads
  have rest : found.rest = overload := congrArg Form.rest attaches.reads
  have comment := (finds found known).2 rest
  refine ⟨found, known, comment, attaches, ?_⟩
  obtain ⟨signature, complete, read⟩ := Option.map_eq_some_iff.mp
    (show (Signature.at? overload).map (fun s => (Parameter.listed s.parameters, s.returnType)) =
      some ([⟨"a".toList, "Int".toList⟩], none) by decide +kernel)
  have recorded := recorded [] signature (rest ▸ complete) rfl
    fun other listed _ _ => rest ▸ (finds other listed).1
  obtain ⟨parameters, returnType⟩ := Prod.mk.inj read
  rw [name, comment, parameters, returnType] at recorded
  exact recorded

end Head
end ReferencePage
