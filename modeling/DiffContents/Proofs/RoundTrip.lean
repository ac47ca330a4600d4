import DiffContents.Decoding
import DiffContents.Encoding
import DiffContents.Proofs.Json.Reading

/-!
# What is written is read again

The JSON form of a value is read as the value, whatever characters its paths, texts, names and
categories hold, and whether it is written without white space or over several lines.  Two things
are asked of the value: its categories are named as they are read (`Category.Canonical`), and its
form has no more levels than a text may have.

A term is read with a bound on the nodes inside one another, which the levels of its form keep
(`Term.reads`, by induction on the term with the bound free); a child has fewer levels than the
shape it stands in (`Shape.depth_child_lt`).  Diffs go the same way, and everything else is put
together from its parts.
-/

namespace DiffContents

universe u

open Json (Reader)
open Json.Reader

/-! ## The categories of a value -/

/-- The categories of a shape's children. -/
def Shape.categories {α : Type u} (f : α → List Category) (s : Shape α) : List Category :=
  s.children.flatMap f

/-- The categories of a patch's sides. -/
def Patch.categories {α : Type u} (f : α → List Category) (p : Patch α) : List Category :=
  p.sides.flatMap fun side => f side.2

/-- All categories of a term. -/
def Term.categories : Term → List Category :=
  Term.fold fun category _ shape => category :: shape.categories id

/-- All categories of a diff. -/
def Diff.categories : Diff → List Category :=
  Diff.fold (fun patch => patch.categories Term.categories)
    fun category _ shape => category :: shape.categories id

/-- The category of a side, if it has one. -/
def Info.categories (i : Info) : List Category := i.category.toList

/-- The category of a context. -/
def Context.categories (c : Context) : List Category := [c.declaration.category]

/-- All categories of a change record. -/
def Record.categories (r : Record) : List Category :=
  r.patch.categories Info.categories ++ r.context.toList.flatMap Context.categories

theorem Term.categories_mk (c : Category) (s : Span) (shape : Shape Term) :
    (Term.mk c s shape).categories = c :: shape.categories Term.categories := by
  simp only [Term.categories, Term.fold_mk, Shape.categories, Shape.children_map,
    List.flatMap_map]
  rfl

theorem Diff.categories_node (c : Category) (s : Span) (shape : Shape Diff) :
    (Diff.node c s shape).categories = c :: shape.categories Diff.categories := by
  simp only [Diff.categories, Diff.fold_node, Shape.categories, Shape.children_map,
    List.flatMap_map]
  rfl

/-! ## Positions, spans, categories

A structure is read along the chain of its members, in the order they are written in: of each
member, that its name is found among the fields, that the field has not been read yet, and how its
value is read.
-/

theorem Position.reads (p : Position) : Reads Position.reader p.toJson p :=
  reads_structureOr _
    (.field rfl rfl (reads_uint32 _) <|
      .field rfl rfl (reads_uint32 _) <| .nil _) rfl

theorem Span.reads (s : Span) : Reads Span.reader s.toJson s :=
  reads_structureOr _
    (.field rfl rfl (reads_uint64 _) <|
      .field rfl rfl (reads_uint64 _) <|
      .field rfl rfl s.start.reads <|
      .field rfl rfl s.stop.reads <| .nil _) rfl

theorem Category.reads {c : Category} (h : c.Canonical) :
    Reads Category.reader c.toJson c := by
  have hmap := (reads_string c.name).map Category.ofName
  rwa [h] at hmap

theorem Change.reads (c : Change) : Reads Change.reader c.toJson c := by
  cases c with
  | added => exact reads_choice_name (v := unit .added) rfl fun _ _ => rfl
  | removed => exact reads_choice_name (v := unit .removed) rfl fun _ _ => rfl
  | modified => exact reads_choice_name (v := unit .modified) rfl fun _ _ => rfl

/-! ## Shapes -/

namespace Shape

variable {α : Type}

/-- A child does not nest as deeply as the shape. -/
theorem depth_child_lt {f : α → Json} {a : α} {s : Shape α} (ha : a ∈ s.children) :
    (f a).depth < (s.toJson f).depth := by
  have hlist : ∀ as : List α, a ∈ as → (f a).depth ≤ (Json.ofList f as).depth := fun as h =>
    Nat.le_succ_of_le (Json.depth_le_elementsDepth (List.mem_map_of_mem h))
  have hoption : ∀ o : Option α, a ∈ o.toList → (f a).depth ≤ (Json.ofOption f o).depth := by
    intro o h
    obtain rfl := Option.mem_toList.mp h
    exact Nat.le_refl _
  cases s with
  | leaf => cases ha
  | function identifier params body =>
    simp only [children, List.mem_cons, List.mem_append] at ha
    simp only [toJson, members, Json.depth, Json.membersDepth]
    rcases ha with rfl | h | h
    · omega
    · have := hlist params h; omega
    · have := hlist body h; omega
  | method receiver identifier params body =>
    simp only [children, List.mem_append, List.mem_cons] at ha
    simp only [toJson, members, Json.depth, Json.membersDepth]
    rcases ha with h | rfl | h | h
    · have := hoption receiver h; omega
    · omega
    · have := hlist params h; omega
    · have := hlist body h; omega
  | parameter identifier type =>
    simp only [children, List.mem_cons] at ha
    simp only [toJson, members, Json.depth, Json.membersDepth]
    rcases ha with rfl | h
    · omega
    · have := hoption type h; omega
  | indexed items =>
    have := hlist items ha
    simp only [toJson, members, Json.depth, Json.membersDepth]
    omega
  | branch nodes =>
    have := hlist nodes ha
    simp only [toJson, members, Json.depth, Json.membersDepth]
    omega

/-- **A shape is read, if its children are.** -/
theorem reads {r : Reader α} {f : α → Json} (hnull : ∀ a, f a ≠ .null) {s : Shape α}
    (h : ∀ a ∈ s.children, Reads r (f a) a) : Reads (reader r) (s.toJson f) s := by
  cases s with
  | leaf =>
    exact reads_tagged _ (i := 0) rfl rfl (by simp [members])
      (contentReads_bare _ ⟨trivial, trivial⟩)
  | function identifier params body =>
    simp only [children, List.mem_cons, List.mem_append] at h
    exact reads_tagged _ (i := 1) rfl rfl (by simp [members]) <| contentReads_beside
      (.other rfl trivial <|
        .field rfl rfl (h _ (.inl rfl)) <|
        .field rfl rfl (reads_list fun a ha => h a (.inr (.inl ha))) <|
        .field rfl rfl (reads_list fun a ha => h a (.inr (.inr ha))) <|
        .nil _) rfl
  | method receiver identifier params body =>
    simp only [children, List.mem_append, List.mem_cons, Option.mem_toList] at h
    have hreceiver : Reads (option r) (.ofOption f receiver) receiver :=
      reads_option receiver (fun a _ => hnull a) fun a ha => h a (.inl ha)
    exact reads_tagged _ (i := 2) rfl rfl (by simp [members]) <| contentReads_beside
      (.other rfl trivial <|
        .field rfl rfl hreceiver <|
        .field rfl rfl (h _ (.inr (.inl rfl))) <|
        .field rfl rfl (reads_list fun a ha => h a (.inr (.inr (.inl ha)))) <|
        .field rfl rfl (reads_list fun a ha => h a (.inr (.inr (.inr ha)))) <|
        .nil _) rfl
  | parameter identifier type =>
    simp only [children, List.mem_cons, Option.mem_toList] at h
    have htype : Reads (option r) (.ofOption f type) type :=
      reads_option type (fun a _ => hnull a) fun a ha => h a (.inr ha)
    exact reads_tagged _ (i := 3) rfl rfl (by simp [members]) <| contentReads_beside
      (.other rfl trivial <|
        .field rfl rfl (h _ (.inl rfl)) <|
        .field rfl rfl htype <| .nil _) rfl
  | indexed items =>
    exact reads_tagged _ (i := 4) rfl rfl (by simp [members]) <| contentReads_beside
      (.other rfl trivial <| .field rfl rfl (reads_list h) <| .nil _) rfl
  | branch nodes =>
    exact reads_tagged _ (i := 5) rfl rfl (by simp [members]) <| contentReads_beside
      (.other rfl trivial <| .field rfl rfl (reads_list h) <| .nil _) rfl

end Shape

/-! ## Terms and diffs -/

/-- The members of a node are read, if its shape is. -/
theorem membersRead_node {α β : Type} (title : String) {shape : Reader (Shape α)}
    (make : Category → Span → Shape α → β) {c : Category} (hc : c.Canonical) (s : Span)
    {j : Json} {a : Shape α} (h : Reads shape j a) :
    MembersRead (nodeForm title shape make).fields
      [("category", c.toJson), ("span", s.toJson), ("syntax", j)] ⟨none, none, none⟩
      ⟨some c, some s, some a⟩ :=
  .field rfl rfl (Category.reads hc) <|
    .field rfl rfl s.reads <|
    .field rfl rfl h <| .nil _

/-- The shape of a node does not nest as deeply as the node. -/
theorem depth_shape_lt (c : Category) (s : Span) (j : Json) :
    j.depth < (nodeJson c s j).depth := by
  simp only [nodeJson, Json.depth, Json.membersDepth]
  omega

theorem Term.toJson_ne_null (t : Term) : t.toJson ≠ .null := by
  cases t
  rw [Term.toJson_mk]
  exact nofun

theorem Diff.toJson_ne_null (d : Diff) : d.toJson ≠ .null := by
  cases d with
  | node => rw [Diff.toJson_node]; exact nofun
  | leaf => exact nofun

/-- **A term is read** with as many levels as it takes. -/
theorem Term.reads (t : Term) (hc : ∀ c ∈ t.categories, c.Canonical) (levels : Nat)
    (hl : t.toJson.depth ≤ levels) : Reads (Term.readerWithin levels) t.toJson t := by
  induction t using Term.induction generalizing levels with
  | node c s shape ih =>
    rw [Term.categories_mk] at hc
    rw [Term.toJson_mk] at hl ⊢
    have hshape := depth_shape_lt c s (shape.toJson Term.toJson)
    cases levels with
    | zero => omega
    | succ levels =>
      -- a child has at least one level of the text less, so one node less is enough for it
      refine reads_structureOr _ (membersRead_node _ _ (hc c List.mem_cons_self) s ?_) rfl
      refine Shape.reads Term.toJson_ne_null fun t ht => ih t ht ?_ levels ?_
      · exact fun c' hc' => hc c' (List.mem_cons_of_mem c (List.mem_flatMap.mpr ⟨t, ht, hc'⟩))
      · have hchild := Shape.depth_child_lt (f := Term.toJson) ht
        omega

/-- **A patch is read, if its sides are.** -/
theorem Patch.reads {α : Type} {r : Reader α} {f : α → Json} {p : Patch α}
    (h : ∀ side ∈ p.sides, Reads r (f side.2) side.2) : Reads (Patch.reader r) (p.toJson f) p := by
  cases p with
  | insert after =>
    exact reads_choice rfl <| variantReads_record
      (.field rfl rfl (h (true, after) (by simp [sides])) <| .nil _) rfl
  | delete before =>
    exact reads_choice rfl <| variantReads_record
      (.field rfl rfl (h (false, before) (by simp [sides])) <| .nil _) rfl
  | replace before after =>
    exact reads_choice rfl <| variantReads_record
      (.field rfl rfl (h (false, before) (by simp [sides])) <|
        .field rfl rfl (h (true, after) (by simp [sides])) <| .nil _) rfl

/-- A side does not nest as deeply as its patch. -/
theorem Patch.depth_side_lt {α : Type u} {f : α → Json} {p : Patch α} {side : Bool × α}
    (h : side ∈ p.sides) : (f side.2).depth < (p.toJson f).depth := by
  cases p <;> simp only [sides, List.mem_cons, List.not_mem_nil, or_false] at h <;>
    rcases h with rfl | rfl <;> simp only [toJson, Json.depth, Json.membersDepth] <;> omega

/-- A shape of terms is read. -/
theorem Shape.reads_terms {s : Shape Term}
    (hc : ∀ c ∈ s.categories Term.categories, c.Canonical)
    (hl : (s.toJson Term.toJson).depth ≤ Json.maxDepth) :
    Reads (Shape.reader Term.reader) (s.toJson Term.toJson) s := by
  refine Shape.reads Term.toJson_ne_null fun t ht => t.reads (fun c h => ?_) maxNodes ?_
  · exact hc c (List.mem_flatMap.mpr ⟨t, ht, h⟩)
  · have hchild := Shape.depth_child_lt (f := Term.toJson) ht
    exact Nat.le_succ_of_le (by omega)

/-- A patch of terms is read. -/
theorem Patch.reads_terms {p : Patch Term}
    (hc : ∀ c ∈ p.categories Term.categories, c.Canonical)
    (hl : (p.toJson Term.toJson).depth ≤ Json.maxDepth) :
    Reads (Patch.reader Term.reader) (p.toJson Term.toJson) p := by
  refine Patch.reads fun side hside => side.2.reads (fun c h => ?_) maxNodes ?_
  · exact hc c (List.mem_flatMap.mpr ⟨side, hside, h⟩)
  · have hside' := Patch.depth_side_lt (f := Term.toJson) hside
    exact Nat.le_succ_of_le (by omega)

/-- **A diff is read** with as many levels as it takes. -/
theorem Diff.reads (d : Diff) (hc : ∀ c ∈ d.categories, c.Canonical) (levels : Nat)
    (hl : d.toJson.depth ≤ levels) (hm : d.toJson.depth ≤ Json.maxDepth) :
    Reads (Diff.readerWithin levels) d.toJson d := by
  induction d using Diff.induction generalizing levels with
  | leaf p =>
    rw [Diff.toJson_leaf] at hl hm ⊢
    simp only [Json.depth, Json.membersDepth] at hl hm
    cases levels with
    | zero => omega
    | succ levels =>
      -- terms are counted anew inside a patch, so the levels of the whole text bound them
      have hp := (Patch.reads_terms hc (by omega)).map Diff.leaf
      exact reads_choice rfl (variantReads_wrapped hp)
  | node c s shape ih =>
    rw [Diff.categories_node] at hc
    rw [Diff.toJson_node] at hl hm ⊢
    simp only [Json.depth, Json.membersDepth] at hl hm
    have hshape := depth_shape_lt c s (shape.toJson Diff.toJson)
    cases levels with
    | zero => omega
    | succ levels =>
      refine reads_choice rfl <| variantReads_record
        (membersRead_node _ _ (hc c List.mem_cons_self) s ?_) rfl
      refine Shape.reads Diff.toJson_ne_null fun d hd => ?_
      have hchild := Shape.depth_child_lt (f := Diff.toJson) hd
      refine ih d hd (fun c' hc' => ?_) levels (by omega) (by omega)
      exact hc c' (List.mem_cons_of_mem c (List.mem_flatMap.mpr ⟨d, hd, hc'⟩))

theorem Document.reads (d : Document) (hc : ∀ c ∈ d.diff.categories, c.Canonical)
    (hl : d.toJson.depth ≤ Json.maxDepth) : Reads Document.reader d.toJson d := by
  have hd : d.diff.toJson.depth < d.toJson.depth := by
    simp only [toJson, Json.depth, Json.membersDepth]
    omega
  have hdiff : Reads Diff.reader d.diff.toJson d.diff :=
    d.diff.reads hc maxNodes (Nat.le_succ_of_le (by omega)) (by omega)
  exact reads_structureOr _
    (.field rfl rfl (reads_string _) <|
      .field rfl rfl (reads_string _) <|
      .field rfl rfl (reads_string _) <|
      .field rfl rfl (reads_string _) <|
      .field rfl rfl hdiff <| .nil _) rfl

/-! ## Change records -/

theorem Info.reads {i : Info} (hc : ∀ c ∈ i.categories, c.Canonical) :
    Reads Info.reader i.toJson i := by
  have hcategory : Reads (option Category.reader) (.ofOption Category.toJson i.category)
      i.category :=
    reads_option i.category (fun _ _ => nofun) fun c h =>
      Category.reads (hc c (Option.mem_toList.mpr h))
  exact reads_structureOr _
    (.field rfl rfl hcategory <|
      .field rfl rfl (reads_string _) <|
      .field rfl rfl i.span.reads <| .nil _) rfl

/-- A patch of sides is read. -/
theorem Patch.reads_infos {p : Patch Info}
    (hc : ∀ c ∈ p.categories Info.categories, c.Canonical) :
    Reads (Patch.reader Info.reader) (p.toJson Info.toJson) p :=
  Patch.reads fun side hside => Info.reads fun c h =>
    hc c (List.mem_flatMap.mpr ⟨side, hside, h⟩)

theorem Context.reads {c : Context} (hc : ∀ c' ∈ c.categories, c'.Canonical) :
    Reads Context.reader c.toJson c := by
  have hcategory := Category.reads (hc c.declaration.category List.mem_cons_self)
  cases c with
  | edited declaration change =>
    exact reads_tagged _ (i := 0) rfl rfl (by simp [Declaration.members]) <|
      contentReads_beside
        (.other rfl trivial <|
          .field rfl rfl hcategory <|
          .field rfl rfl (reads_string _) <|
          .field rfl rfl declaration.span.reads <|
          .field rfl rfl change.reads <| .nil _) rfl
  | enclosing declaration =>
    exact reads_tagged _ (i := 1) rfl rfl (by simp [Declaration.members]) <|
      contentReads_beside
        (.other rfl trivial <|
          .field rfl rfl hcategory <|
          .field rfl rfl (reads_string _) <|
          .field rfl rfl declaration.span.reads <| .nil _) rfl

theorem Context.toJson_ne_null (c : Context) : c.toJson ≠ .null := by
  cases c <;> exact nofun

theorem Record.reads {r : Record} (hc : ∀ c ∈ r.categories, c.Canonical) :
    Reads Record.reader r.toJson r := by
  have hpatch : Reads (Patch.reader Info.reader) (r.patch.toJson Info.toJson) r.patch :=
    Patch.reads_infos fun c h => hc c (List.mem_append_left _ h)
  have hcontext : Reads (option Context.reader) (.ofOption Context.toJson r.context) r.context :=
    reads_option r.context (fun c _ => c.toJson_ne_null) fun c hmem => Context.reads fun c' h =>
      hc c' (List.mem_append_right _ (List.mem_flatMap.mpr ⟨c, Option.mem_toList.mpr hmem, h⟩))
  exact reads_structureOr _
    (.field rfl rfl hpatch <|
      .field rfl rfl hcontext <| .nil _) rfl

/-! ## Texts -/

/-- **What is written is read again**: of every value whose categories are named as they are read,
and which does not nest too deeply, both texts are read as the value. -/
def RoundTrips {α : Type} (write : α → Json) (reader : Reader α)
    (categories : α → List Category) : Prop :=
  ∀ a, (∀ c ∈ categories a, c.Canonical) → (write a).depth ≤ Json.maxDepth →
    Json.read reader (write a).compact = .ok a ∧ Json.read reader (write a).pretty = .ok a

theorem roundTrips_of_reads {α : Type} {write : α → Json} {reader : Reader α}
    {categories : α → List Category}
    (h : ∀ a, (∀ c ∈ categories a, c.Canonical) → (write a).depth ≤ Json.maxDepth →
      Reads reader (write a) a) : RoundTrips write reader categories := by
  intro a hc hl
  exact (h a hc hl).read_texts hl

/-- **Everything that is read from a file is read as it was written**: documents, diffs, terms and
their shapes, spans, patches, and change records with their sides and contexts. -/
theorem written_values_read_back :
    RoundTrips Document.toJson Document.reader (fun d => d.diff.categories) ∧
    RoundTrips Diff.toJson Diff.reader Diff.categories ∧
    RoundTrips Term.toJson Term.reader Term.categories ∧
    RoundTrips (Shape.toJson Term.toJson) (Shape.reader Term.reader)
      (Shape.categories Term.categories) ∧
    RoundTrips Span.toJson Span.reader (fun _ => []) ∧
    RoundTrips (Patch.toJson Term.toJson) (Patch.reader Term.reader)
      (Patch.categories Term.categories) ∧
    RoundTrips (Patch.toJson Info.toJson) (Patch.reader Info.reader)
      (Patch.categories Info.categories) ∧
    RoundTrips Record.toJson Record.reader Record.categories ∧
    RoundTrips Info.toJson Info.reader Info.categories ∧
    RoundTrips Context.toJson Context.reader Context.categories := by
  exact ⟨roundTrips_of_reads Document.reads,
    roundTrips_of_reads fun d hc hl => d.reads hc maxNodes (Nat.le_succ_of_le hl) hl,
    roundTrips_of_reads fun t hc hl => t.reads hc maxNodes (Nat.le_succ_of_le hl),
    roundTrips_of_reads fun _ hc hl => Shape.reads_terms hc hl,
    roundTrips_of_reads fun s _ _ => s.reads,
    roundTrips_of_reads fun _ hc hl => Patch.reads_terms hc hl,
    roundTrips_of_reads fun _ hc _ => Patch.reads_infos hc,
    roundTrips_of_reads fun _ hc _ => Record.reads hc,
    roundTrips_of_reads fun _ hc _ => Info.reads hc,
    roundTrips_of_reads fun _ hc _ => Context.reads hc⟩

/-- A document whose texts need every kind of escape. -/
private def escapedDocument : Document where
  beforePath := "src\\\"a\".rs"
  afterPath := "src/ä😀\x01\x1f.rs"
  beforeSource := "fn f()\n\t\x08\x0c\r/\x7f"
  afterSource := "u0041\\u0041"
  diff := .node (.other "Pro\"gram\n") ⟨0, 18446744073709551615, ⟨1, 1⟩, ⟨4294967295, 7⟩⟩
    (.branch [
      .leaf (.insert (.mk .function ⟨0, 6, ⟨1, 1⟩, ⟨1, 7⟩⟩
        (.method none (.mk (.other "") ⟨3, 4, ⟨1, 4⟩, ⟨1, 5⟩⟩ .leaf) [] [])))])

/-- A document with awkward texts, the greatest offset and an absent receiver is read as it was
written. -/
theorem escaped_document_reads_back :
    (∀ c ∈ escapedDocument.diff.categories, c.Canonical) ∧
    escapedDocument.toJson.depth ≤ Json.maxDepth ∧
    Document.ofText escapedDocument.toJson.compact = .ok escapedDocument ∧
    Document.ofText escapedDocument.toJson.pretty = .ok escapedDocument :=
  ⟨by decide, by decide, written_values_read_back.1 escapedDocument (by decide) (by decide)⟩

end DiffContents
