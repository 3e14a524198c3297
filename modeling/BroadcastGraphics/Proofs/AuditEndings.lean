import BroadcastGraphics.CommandLine
import BroadcastGraphics.Proofs.AuditedLoading

/-!
# How an audit ends

The audit takes values of any shape and is to report on them, not to break off.  It breaks off on two
shapes.  Ids of elements are looked for among the ids before them, which cannot be done with a list or an
object.  And where nothing is found, placeholders are looked for in the content of every element, which
cannot be done in a value that is no text.  On every other value it ends with its report.
-/

namespace BroadcastGraphics
namespace Audit

/-! ## Results that break off on a shape -/

/-- The result is an answer if a condition holds, and the fault of a wrong shape if it does not. -/
structure AnswersIf {α : Type} (condition : Prop) (result : Except Fault α) : Prop where
  answer : condition -> ∃ answer, result = .ok answer
  fault : ¬ condition -> result = .error .wrongShape

namespace AnswersIf

variable {α β : Type} {condition : Prop} {result : Except Fault α}

theorem ok
    (holds : condition)
    (answer : α) : AnswersIf condition (.ok answer : Except Fault α) where
  answer _ := ⟨answer, rfl⟩
  fault fails := absurd holds fails

theorem wrongShape
    (fails : ¬ condition) : AnswersIf condition (.error .wrongShape : Except Fault α) where
  answer holds := absurd holds fails
  fault _ := rfl

theorem exists_ok_iff (answers : AnswersIf condition result) :
    (∃ answer, result = .ok answer) ↔ condition := by
  refine ⟨fun ⟨answer, done⟩ => ?_, answers.answer⟩
  by_contra fails
  cases done.symm.trans (answers.fault fails)

theorem congr
    {other : Prop}
    (answers : AnswersIf condition result)
    (same : condition ↔ other) : AnswersIf other result where
  answer holds := answers.answer (same.2 holds)
  fault fails := answers.fault fun holds => fails (same.1 holds)

/-- What comes after the answer may ask for more. -/
theorem bind
    {further : Prop}
    {next : α -> Except Fault β}
    (answers : AnswersIf condition result)
    (later : ∀ answer, result = .ok answer -> AnswersIf further (next answer)) :
    AnswersIf (condition ∧ further) (result >>= next) := by
  by_cases holds : condition
  · obtain ⟨answer, done⟩ := answers.answer holds
    rw [done]
    exact (later answer done).congr (and_iff_right holds).symm
  · rw [answers.fault holds]
    exact wrongShape fun both => holds both.1

theorem bind_ok
    (answers : AnswersIf condition result)
    (change : α -> β) : AnswersIf condition (result >>= fun answer => .ok (change answer)) :=
  (answers.bind fun answer _ => ok trivial (change answer)).congr (and_iff_left trivial)

/-- Items are worked on one after the other, and each of them has to be of the right shape. -/
theorem mapM
    {change : α -> Except Fault β}
    {fits : α -> Prop}
    (each : ∀ item, AnswersIf (fits item) (change item))
    (items : List α) : AnswersIf (∀ item ∈ items, fits item) (items.mapM change) := by
  induction items with
  | nil => exact ok (List.forall_mem_nil _) []
  | cons item rest ih =>
    rw [List.mapM_cons]
    exact ((each item).bind fun first _ => ih.bind_ok (first :: ·)).congr List.forall_mem_cons.symm

end AnswersIf

/-! ## Findings -/

/-- The id of an element counts as missing or is a scalar, which can be looked for among others. -/
def HasKeyId (element : Json) : Prop :=
  (idOf element).isEmptyish = true ∨ (idOf element).isScalar = true

/-- The elements of a template of any shape. -/
def elementsOf : Json -> List Json
  | .obj members => ((Table.get? members "elements").getD (.arr [])).arr?.getD []
  | _ => []

theorem elementsOf_obj (members : Table Json) :
    elementsOf (.obj members) = ((Table.get? members "elements").getD (.arr [])).arr?.getD [] :=
  rfl

theorem answersIf_elementsFindingsFrom
    (fromText : Bool)
    (elements : List Json)
    (index : Nat)
    (seen : List Json) :
    AnswersIf (∀ element ∈ elements, HasKeyId element)
      (elementsFindingsFrom fromText index seen elements) := by
  induction elements generalizing index seen with
  | nil => exact .ok (List.forall_mem_nil _) []
  | cons element rest ih =>
    rw [elementsFindingsFrom, List.forall_mem_cons]
    dsimp only
    split
    · rename_i nameless
      exact ((ih _ _).bind_ok _).congr (and_iff_right (Or.inl nameless)).symm
    · rename_i named
      split
      · rename_i compound
        rw [Bool.not_eq_true'] at compound
        exact .wrongShape fun fits =>
          fits.1.elim named fun scalar => Bool.false_ne_true (compound.symm.trans scalar)
      · rename_i scalar
        have key : HasKeyId element := Or.inr (by simpa using scalar)
        exact ((ih _ _).bind_ok _).congr (and_iff_right key).symm

theorem answersIf_elementsFindings
    (fromText : Bool)
    (elements : Json) :
    AnswersIf (∀ element ∈ elements.arr?.getD [], HasKeyId element)
      (elementsFindings fromText elements) := by
  cases elements with
  | arr items => exact answersIf_elementsFindingsFrom fromText items 0 []
  | _ => exact .ok (List.forall_mem_nil _) _

/-- Findings are made on every value whose elements have ids that can be looked for. -/
theorem answersIf_findings
    (template : Json)
    (fromText : Bool) :
    AnswersIf (∀ element ∈ elementsOf template, HasKeyId element) (findings template fromText) := by
  cases template with
  | obj members => exact (answersIf_elementsFindings fromText _).bind_ok _
  | _ => exact .ok (List.forall_mem_nil _) _

/-! ## Warnings -/

/-- The content of an element counts as missing or is a text, in which placeholders can be looked for;
an element that is no object has no content. -/
def HasTextContent : Json -> Prop
  | .obj members =>
      (Json.memberOrNull members "content").isEmptyish = true ∨
        ∃ text, Json.memberOrNull members "content" = .str text
  | _ => True

theorem answersIf_placeholderNames
    (content : Json) :
    AnswersIf (content.isEmptyish = true ∨ ∃ text, content = .str text)
      (placeholderNames content) := by
  unfold placeholderNames
  split
  · rename_i nothing
    exact .ok (Or.inl nothing) []
  · rename_i something
    cases content with
    | str text => exact .ok (Or.inr ⟨text, rfl⟩) _
    | _ => exact .wrongShape (by simpa using something)

theorem answersIf_placeholderWarnings
    (properties : Table Json)
    (element : Json) :
    AnswersIf (HasTextContent element) (placeholderWarnings properties element) := by
  cases element with
  | obj members => exact (answersIf_placeholderNames _).bind_ok _
  | _ => exact .ok trivial []

theorem answersIf_elementsWarnings
    (properties : Table Json)
    (items : List Json) :
    AnswersIf (∀ element ∈ items, HasTextContent element)
      (elementsWarnings properties (.arr items)) := by
  cases items with
  | nil => exact .ok (List.forall_mem_nil _) []
  | cons first rest =>
    exact (AnswersIf.mapM (answersIf_placeholderWarnings properties) (first :: rest)).bind_ok _

/-- What has been seen of a value in which nothing is found: it has a manifest and a list of elements,
which may be left out. -/
theorem exists_parts_of_clean
    {template : Json}
    {fromText : Bool}
    (clean : findings template fromText = .ok []) :
    ∃ members manifest, template = .obj members ∧
      Json.memberOrNull members "manifest" = .obj manifest ∧ SeenManifest manifest ∧
      (Table.get? members "elements" = none ∨
        ∃ items, Table.get? members "elements" = some (.arr items)) := by
  cases template with
  | obj members =>
    obtain ⟨found, elementsClean, clean⟩ := ok_of_bind clean
    simp only [Except.ok.injEq, List.append_eq_nil_iff, and_assoc] at clean
    obtain ⟨manifestClean, rfl, _⟩ := clean
    obtain ⟨manifest, described, seen⟩ := seen_of_manifestFindings manifestClean
    refine ⟨members, manifest, rfl, described, seen, ?_⟩
    cases given : Table.get? members "elements" with
    | none => exact Or.inl rfl
    | some elements =>
      rw [given] at elementsClean
      cases elements with
      | arr items => exact Or.inr ⟨items, rfl⟩
      | _ => cases elementsClean
  | _ => cases clean

/-- On a value in which nothing is found warnings can be given just if every content is a text. -/
theorem answersIf_warnings
    {template : Json}
    {fromText : Bool}
    (clean : findings template fromText = .ok []) :
    AnswersIf (∀ element ∈ elementsOf template, HasTextContent element) (warnings template) := by
  obtain ⟨members, manifest, rfl, described, seen, elements⟩ := exists_parts_of_clean clean
  have filled : (Json.obj manifest).isEmptyish = false := by
    obtain ⟨id, found, _⟩ := seen.id
    cases manifest with
    | nil => cases found
    | cons member rest => rfl
  unfold warnings
  simp only [described, filled, Bool.false_eq_true, if_false]
  refine AnswersIf.bind_ok ?_ _
  rw [elementsOf_obj]
  unfold Json.memberOrNull
  rcases elements with absent | ⟨items, given⟩
  · rw [absent]
    exact .ok (List.forall_mem_nil _) []
  · rw [given]
    exact answersIf_elementsWarnings _ items

/-- An audit with its warnings comes to an end on the value. -/
structure Auditable (template : Json) : Prop where
  ids : ∀ element ∈ elementsOf template, HasKeyId element
  contents : findings template true = .ok [] ->
    ∀ element ∈ elementsOf template, HasTextContent element

end Audit

namespace CommandLine

open Audit

/-! ## The command -/

/-- A value is reported on just if it can be audited to the end, with or without details. -/
theorem answersIf_auditValue
    (path : String)
    (document : Json)
    (verbose : Bool) :
    AnswersIf (Auditable (templateOf document)) (auditValue path document verbose) := by
  have both : AnswersIf ((∀ element ∈ elementsOf (templateOf document), HasKeyId element) ∧
      (findings (templateOf document) true = .ok [] ->
        ∀ element ∈ elementsOf (templateOf document), HasTextContent element))
      (auditValue path document verbose) := by
    refine (answersIf_findings (templateOf document) true).bind fun found done => ?_
    cases found with
    | nil =>
      exact ((answersIf_warnings done).bind_ok _).congr ⟨fun fits _ => fits, fun fits => fits done⟩
    | cons first rest => exact .ok (fun clean => nomatch done.symm.trans clean) _
  exact both.congr ⟨fun ⟨ids, contents⟩ => ⟨ids, contents⟩, fun ⟨ids, contents⟩ => ⟨ids, contents⟩⟩

/-- The status of a report tells whether something was found. -/
theorem status_auditValue
    {path : String}
    {document : Json}
    {verbose : Bool}
    {ending : Ending}
    (ended : auditValue path document verbose = .ok ending) :
    ending.status = if findings (templateOf document) true = .ok [] then 0 else 1 := by
  obtain ⟨found, done, ended⟩ := ok_of_bind ended
  rw [done]
  cases found with
  | nil =>
    obtain ⟨warned, _, ended⟩ := ok_of_bind ended
    cases ended
    rfl
  | cons first rest =>
    cases ended
    exact (if_neg nofun).symm

/-- A template with a list in the place of an id. -/
def listedIdText : String :=
  "\x7b\"elements\": [\x7b\"id\": [1]\x7d]\x7d"

/-- The members of an element with a number in the place of its content. -/
def numberedElement : Table Json :=
  [("id", .str "title"), ("type", .str "text"), ("x", .int 0), ("y", .int 0), ("width", .int 1),
    ("height", .int 1), ("content", .int 5)]

/-- A template in which nothing is found, though a content is a number. -/
def numberedTemplate : Json :=
  .obj [("manifest", .obj [("id", .str "demo"), ("name", .str "Demo"), ("main", .str "a.mjs"),
    ("schema", .obj [("properties", .obj [])])]), ("elements", .arr [.obj numberedElement])]

/-- The text of that template. -/
def numberedText : String :=
  "\x7b\"manifest\": \x7b\"id\": \"demo\", \"name\": \"Demo\", \"main\": \"a.mjs\", " ++
    "\"schema\": \x7b\"properties\": \x7b\x7d\x7d\x7d, \"elements\": [\x7b\"id\": \"title\", " ++
    "\"type\": \"text\", \"x\": 0, \"y\": 0, \"width\": 1, \"height\": 1, \"content\": 5\x7d]\x7d"

end CommandLine
end BroadcastGraphics
