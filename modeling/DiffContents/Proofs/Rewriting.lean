import DiffContents.Decoding
import DiffContents.Encoding
import DiffContents.Proofs.Json.Rewriting
import DiffContents.Proofs.RoundTrip
import Mathlib.Logic.Relation

/-!
# Documents written differently

`Document.Rewriting` is the relation between the outlines of two texts of which the second comes from
the first by rewritings a document does not depend on, at any depth:

* the members of a document, node, term, span, position, side of a patch or shape come in another
  order, also the kind of a shape;
* a member that holds its default is left out: an empty path or source, an empty list of a shape, an
  absent receiver or type;
* a member is added that nothing there is named after, with null, a truth value, a number or a
  text.

`Document.ofText_rewriting` says that such a text is read as the same document.  A shape is taken in
before its kind is known and a term as the text goes by, so a rewriting inside a shape must leave it
fit to be taken in, and one inside a term must leave it readable (`Json.Reader.Respects` has both).
-/

namespace DiffContents

open Json (Outline Reader Slot)

/-! ## Rewritings of every form -/

/-- The slots of a position. -/
def Position.slots : List Slot := [.plain "line", .plain "column"]

/-- **One rewriting of a position.** -/
def Position.rewrites : Outline → Outline → Prop := Slot.RewritesStructure slots

/-- The slots of a span. -/
def Span.slots : List Slot := [.plain "start_byte", .plain "end_byte",
  .needed "start" Position.rewrites, .needed "end" Position.rewrites]

/-- **One rewriting of a span.** -/
def Span.rewrites : Outline → Outline → Prop := Slot.RewritesStructure slots

/-- The slots of the six shapes, given the rewritings of a child. -/
def Shape.slots (rel : Outline → Outline → Prop) : List (String × List Slot) := [
  ("leaf", []),
  ("function", [.needed "identifier" rel, .list "params" rel, .list "body" rel]),
  ("method",
    [.option "receiver" rel, .needed "identifier" rel, .list "params" rel, .list "body" rel]),
  ("parameter_decl", [.needed "identifier" rel, .option "ty" rel]),
  ("indexed", [.list "items" rel]),
  ("branch", [.list "children" rel])]

/-- The slots of a node, given the rewritings of a child. -/
def nodeSlots (rel : Outline → Outline → Prop) : List Slot := [.plain "category",
  .needed "span" Span.rewrites, .needed "syntax" (Slot.RewritesTagged (Shape.slots rel))]

/-- One rewriting of a term, fewer than a number of nodes down. -/
def Term.rewritesWithin : Nat → Outline → Outline → Prop
  | 0 => Slot.fixed
  | levels + 1 => Slot.RewritesStructure (nodeSlots (rewritesWithin levels))

/-- **One rewriting of a term.** -/
def Term.rewrites (o o' : Outline) : Prop := ∃ levels, rewritesWithin levels o o'

/-- The rewritings of the sides of a patch, given those of a side. -/
def Patch.rewrites (rel : Outline → Outline → Prop) : Outline → Outline → Prop :=
  Slot.RewritesChoice [
    ("insert", Slot.RewritesStructure [.needed "after" rel]),
    ("delete", Slot.RewritesStructure [.needed "before" rel]),
    ("replace", Slot.RewritesStructure [.needed "before" rel, .needed "after" rel])]

/-- One rewriting of a diff, fewer than a number of nodes down. -/
def Diff.rewritesWithin : Nat → Outline → Outline → Prop
  | 0 => Slot.fixed
  | levels + 1 => Slot.RewritesChoice [
    ("node", Slot.RewritesStructure (nodeSlots (rewritesWithin levels))),
    ("leaf", Patch.rewrites Term.rewrites)]

/-- **One rewriting of a diff.** -/
def Diff.rewrites (o o' : Outline) : Prop := ∃ levels, rewritesWithin levels o o'

namespace Document

/-- The slots of a document. -/
def slots : List Slot := [.text "before_path", .text "after_path", .text "before_source",
  .text "after_source", .needed "diff" Diff.rewrites]

/-- **One rewriting of a document.** -/
def rewrites : Outline → Outline → Prop := Slot.RewritesStructure slots

/-- **Rewritings of a document**, one after the other. -/
def Rewriting : Outline → Outline → Prop := Relation.ReflTransGen rewrites

end Document

/-! ## Forms and their slots -/

section Forms

open Json.Reader

variable {α : Type} {r : Reader α} {rel : Outline → Outline → Prop}

theorem Position.suits : form.Suits slots where
  hosts :=
    .cons (hosts_plain _ lawful_uint32 fun _ _ => rfl) <|
    .cons (hosts_plain _ lawful_uint32 fun _ _ => rfl) .nil
  nonempty := nofun
  independent := by simp [form, independent_of]

theorem Position.respects : Position.reader.Respects rewrites := suits.respects _

theorem Span.suits : form.Suits slots where
  hosts :=
    .cons (hosts_plain _ lawful_uint64 fun _ _ => rfl) <|
    .cons (hosts_plain _ lawful_uint64 fun _ _ => rfl) <|
    .cons (hosts_needed _ Position.respects fun _ _ => rfl) <|
    .cons (hosts_needed _ Position.respects fun _ _ => rfl) .nil
  nonempty := nofun
  independent := by simp [form, independent_of]

theorem Span.respects : Span.reader.Respects rewrites := suits.respects _

theorem Category.lawful_reader : Category.reader.Lawful := readsAtoms_string.lawful.map _

namespace Shape

theorem suits_functionForm (h : r.Respects rel) : (functionForm r).Suits
    [.needed "identifier" rel, .list "params" rel, .list "body" rel] where
  hosts :=
    .cons (hosts_needed _ h fun _ _ => rfl) <|
    .cons (hosts_list _ h (fun _ _ => rfl) fun s hs => by simp [functionForm, hs]) <|
    .cons (hosts_list _ h (fun _ _ => rfl) fun s hs => by simp [functionForm, hs]) .nil
  nonempty := nofun
  independent := by
    simp [functionForm, identifierField, paramsField, bodyField, independent_of]

theorem suits_methodForm (h : r.Respects rel) : (methodForm r).Suits
    [.option "receiver" rel, .needed "identifier" rel, .list "params" rel, .list "body" rel] where
  hosts :=
    .cons (hosts_option _ h (fun _ _ => rfl) fun s hs => by simp [methodForm, hs]) <|
    .cons (hosts_needed _ h fun _ _ => rfl) <|
    .cons (hosts_list _ h (fun _ _ => rfl) fun s hs => by simp [methodForm, hs]) <|
    .cons (hosts_list _ h (fun _ _ => rfl) fun s hs => by simp [methodForm, hs]) .nil
  nonempty := nofun
  independent := by
    simp [methodForm, receiverField, identifierField, paramsField, bodyField, independent_of]

theorem suits_parameterForm (h : r.Respects rel) :
    (parameterForm r).Suits [.needed "identifier" rel, .option "ty" rel] where
  hosts :=
    .cons (hosts_needed _ h fun _ _ => rfl) <|
    .cons (hosts_option _ h (fun _ _ => rfl) fun s hs => by simp [parameterForm, hs]) .nil
  nonempty := nofun
  independent := by simp [parameterForm, identifierField, independent_of]

theorem suits_indexedForm (h : r.Respects rel) : (indexedForm r).Suits [.list "items" rel] where
  hosts := .cons (hosts_list _ h (fun _ _ => rfl) fun s hs => by simp [indexedForm, hs]) .nil
  nonempty := nofun
  independent := List.pairwise_singleton _ _

theorem suits_branchForm (h : r.Respects rel) : (branchForm r).Suits [.list "children" rel] where
  hosts := .cons (hosts_list _ h (fun _ _ => rfl) fun s hs => by simp [branchForm, hs]) .nil
  nonempty := nofun
  independent := List.pairwise_singleton _ _

/-- **A shape is read alike after a rewriting**, if its children are. -/
theorem respects (h : r.Respects rel) :
    (reader r).Respects (Slot.RewritesTagged (slots rel)) := by
  refine respects_tagged <|
    .cons ⟨rfl, contentRespects_bare _⟩ <|
    .cons ⟨rfl, contentRespects_beside (suits_functionForm h) ?_⟩ <|
    .cons ⟨rfl, contentRespects_beside (suits_methodForm h) ?_⟩ <|
    .cons ⟨rfl, contentRespects_beside (suits_parameterForm h) ?_⟩ <|
    .cons ⟨rfl, contentRespects_beside (suits_indexedForm h) ?_⟩ <|
    .cons ⟨rfl, contentRespects_beside (suits_branchForm h) ?_⟩ .nil
  all_goals simp [Slot.needed, Slot.list, Slot.option]

end Shape

theorem suits_nodeForm {β : Type} (title : String) (h : r.Respects rel)
    (make : Category → Span → Shape α → β) :
    (nodeForm title (Shape.reader r) make).Suits (nodeSlots rel) where
  hosts :=
    .cons (hosts_plain _ Category.lawful_reader fun _ _ => rfl) <|
    .cons (hosts_needed _ Span.respects fun _ _ => rfl) <|
    .cons (hosts_needed _ (Shape.respects h) fun _ _ => rfl) .nil
  nonempty := nofun
  independent := by simp [nodeForm, independent_of]

/-! ## Terms, patches and diffs -/

theorem respects_tooDeep (h : Slot.Gentle rel) : Respects (tooDeep : Reader α) rel where
  lawful := ⟨fun _ hr => (nomatch hr), fun _ _ hr => (nomatch hr)⟩
  gentle := h
  keeps := by
    intro site o o' a _ ha
    obtain ⟨n, hn, -⟩ := Json.Node.exists_shows o []
    exact nomatch ha n hn

/-- Readers that go one level down at a time respect rewritings that do, however deep either
goes. -/
theorem respects_within {readers : Nat → Reader α} (rels : Nat → Outline → Outline → Prop)
    (hreader : readers 0 = tooDeep) (hrel : rels 0 = Slot.fixed)
    (step : ∀ levels k, (readers levels).Respects (rels k) →
      (readers (levels + 1)).Respects (rels (k + 1))) (levels k : Nat) :
    (readers levels).Respects (rels k) := by
  induction k generalizing levels with
  | zero =>
    rw [hrel]
    induction levels with
    | zero => exact hreader ▸ respects_tooDeep Slot.gentle_fixed
    | succ levels ih => exact (step levels 0 (hrel ▸ ih)).lawful.respects_fixed
  | succ k ih =>
    cases levels with
    | zero => exact hreader ▸ respects_tooDeep (step 0 k (ih 0)).gentle
    | succ levels => exact step levels k (ih levels)

theorem Term.respects : Term.reader.Respects rewrites :=
  respects_exists <| respects_within rewritesWithin rfl rfl
    (fun _ _ h => (suits_nodeForm _ h _).respects _) maxNodes

theorem Patch.suits_insertForm (h : r.Respects rel) :
    (insertForm r).Suits [.needed "after" rel] where
  hosts := .cons (hosts_needed _ h fun _ _ => rfl) .nil
  nonempty := nofun
  independent := List.pairwise_singleton _ _

theorem Patch.suits_deleteForm (h : r.Respects rel) :
    (deleteForm r).Suits [.needed "before" rel] where
  hosts := .cons (hosts_needed _ h fun _ _ => rfl) .nil
  nonempty := nofun
  independent := List.pairwise_singleton _ _

theorem Patch.suits_replaceForm (h : r.Respects rel) :
    (replaceForm r).Suits [.needed "before" rel, .needed "after" rel] where
  hosts := .cons (hosts_needed _ h fun _ _ => rfl) <| .cons (hosts_needed _ h fun _ _ => rfl) .nil
  nonempty := nofun
  independent := by simp [replaceForm, beforeField, afterField, independent_of]

theorem Patch.respects (h : r.Respects rel) : (Patch.reader r).Respects (rewrites rel) :=
  respects_choice <|
    .cons ⟨rfl, variantRespects_record (suits_insertForm h)⟩ <|
    .cons ⟨rfl, variantRespects_record (suits_deleteForm h)⟩ <|
    .cons ⟨rfl, variantRespects_record (suits_replaceForm h)⟩ .nil

theorem Diff.respects : Diff.reader.Respects rewrites :=
  respects_exists <| respects_within rewritesWithin rfl rfl
    (fun _ _ h => respects_choice <|
      .cons ⟨rfl, variantRespects_record (suits_nodeForm _ h _)⟩ <|
      .cons ⟨rfl, variantRespects_wrapped ((Patch.respects Term.respects).map _)⟩ .nil) maxNodes

end Forms

/-! ## Documents -/

namespace Document

open Json.Reader

theorem suits : form.Suits slots where
  hosts :=
    .cons (hosts_text _ (fun _ _ => rfl) fun s hs => by simp [form, hs]) <|
    .cons (hosts_text _ (fun _ _ => rfl) fun s hs => by simp [form, hs]) <|
    .cons (hosts_text _ (fun _ _ => rfl) fun s hs => by simp [form, hs]) <|
    .cons (hosts_text _ (fun _ _ => rfl) fun s hs => by simp [form, hs]) <|
    .cons (hosts_needed _ Diff.respects fun _ _ => rfl) .nil
  nonempty := nofun
  independent := by simp [form, independent_of]

theorem respects : reader.Respects rewrites := suits.respects _

/-- **A document is read alike however it is written.**  A text that is read has an outline; and
every text whose outline comes from that by rewritings is read, as the same document. -/
theorem ofText_rewriting {text : String} {d : Document} (h : ofText text = .ok d) :
    ∃ o, Outline.ofText? text = some o ∧ ∀ o' text', Rewriting o o' →
      Outline.ofText? text' = some o' → ofText text' = .ok d := by
  obtain ⟨o, ho⟩ := exists_outline_of_read respects.lawful h
  refine ⟨o, ho, fun o' text' hrewriting ho' => ?_⟩
  have hmakes : reader.Makes ⟨Json.maxDepth, false⟩ o d :=
    (read_eq_ok_iff respects.lawful ho).mp h
  have hmakes' : reader.Makes ⟨Json.maxDepth, false⟩ o' d := by
    clear ho'
    induction hrewriting with
    | refl => exact hmakes
    | tail _ hstep ih => exact respects.keeps hstep ih
  exact (read_eq_ok_iff respects.lawful ho').mpr hmakes'

/-- A new file with one method. -/
private def newMethod : Document where
  beforePath := ""
  afterPath := "a.rb"
  beforeSource := ""
  afterSource := "def f; end"
  diff := .leaf (.insert (.mk .method ⟨0, 10, ⟨1, 1⟩, ⟨1, 11⟩⟩
    (.method none (.mk (.other "Identifier") ⟨4, 5, ⟨1, 5⟩, ⟨1, 6⟩⟩ .leaf) [] [])))

/-- The members of the shape of the method, as they are written. -/
private def methodMembers : List (String × Json) := [
  ("kind", .string "method"),
  ("receiver", .null),
  ("identifier", Term.toJson (.mk (.other "Identifier") ⟨4, 5, ⟨1, 5⟩, ⟨1, 6⟩⟩ .leaf)),
  ("params", .array []),
  ("body", .array [])]

/-- The form of the diff, given the members of the shape of the method. -/
private def diffJson (shape : List (String × Json)) : Json :=
  .object [("leaf", .object [("insert", .object [("after", .object [
    ("category", .string "Method"),
    ("span", Span.toJson ⟨0, 10, ⟨1, 1⟩, ⟨1, 11⟩⟩),
    ("syntax", .object shape)])])])]

/-- The members of the document, given those of the shape of the method. -/
private def documentMembers (shape : List (String × Json)) : List (String × Json) := [
  ("before_path", .string ""),
  ("after_path", .string "a.rb"),
  ("before_source", .string ""),
  ("after_source", .string "def f; end"),
  ("diff", diffJson shape)]

/-- The same document, written without the receiver and the path before, with the kind of the shape
last, the members of the document the other way round, and one that is not its own. -/
private def newMethodRewritten : Json :=
  .object (("note", .number (.int (-9223372036854775808))) ::
    (documentMembers (methodMembers.eraseIdx 1).reverse).tail.reverse)

/-- What is rewritten in the shape of the method is rewritten in the document. -/
private theorem rewrites_shape {shape shape' : List (String × Json)}
    (hmem : (some "kind", .atom (.string (some "method"))) ∈ Outline.ofMembers shape)
    (h : Slot.RewritesMembers (.kind :: [.option "receiver" Slot.fixed,
      .needed "identifier" Slot.fixed, .list "params" Slot.fixed, .list "body" Slot.fixed])
      (Outline.ofMembers shape) (Outline.ofMembers shape')) :
    rewrites (.ofJson (.object (documentMembers shape)))
      (.ofJson (.object (documentMembers shape'))) := by
  have hshape : Slot.RewritesTagged (Shape.slots Slot.fixed) (.object (Outline.ofMembers shape))
      (.object (Outline.ofMembers shape')) := .members hmem (.name rfl) h
  have hterm : Term.rewrites _ _ := ⟨1, .members <|
    @Slot.RewritesMembers.inside (nodeSlots Slot.fixed) (Outline.ofMembers
      [("category", .string "Method"), ("span", Span.toJson ⟨0, 10, ⟨1, 1⟩, ⟨1, 11⟩⟩)])
      [] _ _ _ (.tail _ (.tail _ (.head _))) hshape⟩
  have hdiff : Diff.rewrites (.ofJson (diffJson shape)) (.ofJson (diffJson shape')) :=
    ⟨1, .value rfl <| .value rfl <| .members <|
      @Slot.RewritesMembers.inside _ [] [] _ _ _ (.head _) hterm⟩
  exact .members <| @Slot.RewritesMembers.inside slots
    (Outline.ofMembers ((documentMembers shape).take 4)) [] (.needed "diff" Diff.rewrites) _ _
    (by simp [slots]) hdiff

theorem newMethod_reads_alike :
    ofText newMethod.toJson.compact = .ok newMethod ∧
    Rewriting (.ofJson newMethod.toJson) (.ofJson newMethodRewritten) ∧
    ofText newMethodRewritten.compact = .ok newMethod := by
  have hreads := newMethod.reads (by decide) (by decide)
  have htext := Json.lexesTo_compact hreads.plain
  have hread : ofText newMethod.toJson.compact = .ok newMethod :=
    Json.read_of_lexesTo hreads (by decide) htext
  have hplain : newMethodRewritten.Plain := by
    simp [newMethodRewritten, documentMembers, diffJson, methodMembers, Json.Plain,
      Json.PlainMembers, Json.PlainElements, Json.ofNat, Span.toJson, Position.toJson,
      Term.toJson_mk, nodeJson, Category.toJson, Shape.toJson, Shape.members, UInt64.size]
  have hrewriting : Rewriting (.ofJson newMethod.toJson) (.ofJson newMethodRewritten) := by
    have hreceiver : rewrites (.ofJson newMethod.toJson)
        (.ofJson (.object (documentMembers (methodMembers.eraseIdx 1)))) :=
      rewrites_shape (.head _) <| @Slot.RewritesMembers.leaveOut _
        (Outline.ofMembers (methodMembers.take 1)) (Outline.ofMembers (methodMembers.drop 2))
        (.option "receiver" Slot.fixed) _ (.tail _ (.head _)) rfl
    have hkind : rewrites (.ofJson (.object (documentMembers (methodMembers.eraseIdx 1))))
        (.ofJson (.object (documentMembers (methodMembers.eraseIdx 1).reverse))) :=
      rewrites_shape (.head _) (.reorder (List.reverse_perm _).symm)
    have hpath : rewrites (.ofJson (.object (documentMembers (methodMembers.eraseIdx 1).reverse)))
        (.ofJson (.object (documentMembers (methodMembers.eraseIdx 1).reverse).tail)) :=
      .members (@Slot.RewritesMembers.leaveOut slots [] _ (.text "before_path") _ (.head _) rfl)
    have hreverse :
        rewrites (.ofJson (.object (documentMembers (methodMembers.eraseIdx 1).reverse).tail))
          (.ofJson (.object (documentMembers (methodMembers.eraseIdx 1).reverse).tail.reverse)) :=
      .members (.reorder (List.reverse_perm _).symm)
    have hnote : rewrites _ (.ofJson newMethodRewritten) :=
      .members (@Slot.RewritesMembers.add slots [] _ "note"
        (.number (some (.int (-9223372036854775808)))) (by simp [slots, Slot.text, Slot.needed])
        (Option.some_ne_none _))
    exact .head hreceiver <| .head hkind <| .head hpath <| .head hreverse <| .single hnote
  obtain ⟨o, ho, hsame⟩ := ofText_rewriting hread
  rw [Outline.ofText?_of_lexesTo htext] at ho
  cases ho
  exact ⟨hread, hrewriting,
    hsame _ _ hrewriting (Outline.ofText?_of_lexesTo (Json.lexesTo_compact hplain))⟩

end Document

end DiffContents
