import Storefront.Billing.Response
import Storefront.Proofs.Records

/-!
# Gathered records

A service gathers the texts of its records into one list. The list is read exactly if each of
its texts is read on its own, and one text that is no record fails all of them, wherever it stands.
-/

namespace Storefront.Json

/-- What is written of a document can be put anywhere. -/
theorem Document.parts {text : List Char} {value : Value} (document : Document text value) :
    ∃ before written after, text = before ++ (written ++ after) ∧
      (∀ other, Blanks (before ++ other) other) ∧
      (∀ other, Spells (written ++ other) value other) ∧
      ∀ other, Blanks (after ++ other) other := by
  obtain ⟨start, rest, lead, spells, trail⟩ := document
  obtain ⟨before, rfl, befores⟩ := lead.local
  obtain ⟨written, rfl, spellings⟩ := spells.local
  obtain ⟨after, rfl, afters⟩ := trail.local
  exact ⟨before, written, after, by simp, befores, spellings, afters⟩

/-- Blanks may stand between an item and what separates it from the next. -/
theorem Items.after {text start rest : List Char} {items : List Value} (blanks : Blanks text start)
    (inside : Items false start items rest) : Items false text items rest := by
  cases inside with
  | close closes => exact .close (blanks.trans closes)
  | item begins spells others =>
      cases begins with
      | further before after => exact .item (.further (blanks.trans before) after) spells others

/-- Documents that are written behind each other are the items of a list. -/
theorem items_writeFurther {texts : List (List Char)} {values : List Value}
    (documents : List.Forall₂ Document texts values) (first : Bool) (rest : List Char) :
    Items first (writeFurther first texts ++ ']' :: rest) values rest := by
  induction documents generalizing first with
  | nil =>
      rw [writeFurther_nil]
      exact .close .refl
  | cons document documents inductionHypothesis =>
      obtain ⟨before, written, after, rfl, befores, spellings, afters⟩ := document.parts
      have others := Items.after (afters _) (inductionHypothesis false)
      rw [writeFurther_cons]
      simp only [List.append_assoc]
      refine .item ?_ (spellings _) others
      cases first with
      | true => exact .first (befores _)
      | false => exact .further .refl (befores _)

/-- Documents that are written as a list are the document of it. -/
theorem document_writeList {texts : List (List Char)} {values : List Value}
    (documents : List.Forall₂ Document texts values) :
    Document (writeList texts) (.list values) := by
  exact ⟨_, [], .refl, .list (items_writeFurther documents true []), .refl⟩

theorem writeSeparated_eq (texts : List (List Char)) :
    writeSeparated texts = [','].intercalate texts := by
  induction texts with
  | nil => rfl
  | cons text texts inductionHypothesis =>
      cases texts with
      | nil => simp [writeSeparated, List.intercalate]
      | cons next texts =>
          rw [writeSeparated, inductionHypothesis, List.intercalate_cons_cons]
          · simp
          · simp

end Storefront.Json

namespace Storefront.Billing

open Json

/-- The text of a list, gathered from the texts of its items. -/
def gather (texts : List String) : String :=
  "[" ++ ",".intercalate texts ++ "]"

theorem gather_toList (texts : List String) :
    (gather texts).toList = writeList (texts.map String.toList) := by
  simp [gather, writeList, writeSeparated_eq]

/-- The senses of a record's members. -/
def Sku.senses : Senses shape.members :=
  (IsText, IsText, IsText, IsText, IsText, IsInteger, IsText, IsText, ())

theorem Sku.apart : AreApart members := by
  simp [AreApart, members, Member.answersTo, Member.required, Member.optional]

theorem Sku.reads : Reads shape.read (shape.Sense senses) :=
  Reads.record shape ⟨.string, .string, .string, .string, .string, .integer, .string, .string,
    trivial⟩ apart

/-- Records in a list are read as each of them has a sense. -/
theorem Sku.decodeList_eq_ok {list : String} {items : List Value} {details : List Sku}
    (document : Document list.toList (.list items)) :
    decodeList list = .ok details ↔ List.Forall₂ (shape.Sense senses) items details := by
  rw [decodeList, reads.list.readDocument_value document]
  simp [IsList]

theorem exists_documents {texts : List String} (wellFormed : ∀ text ∈ texts, WellFormed text) :
    ∃ values, List.Forall₂ (fun text value => Document text.toList value) texts values := by
  induction texts with
  | nil => exact ⟨[], .nil⟩
  | cons text texts inductionHypothesis =>
      obtain ⟨value, document⟩ := wellFormed text (.head _)
      obtain ⟨values, documents⟩ :=
        inductionHypothesis fun other among => wellFormed other (.tail _ among)
      exact ⟨value :: values, .cons document documents⟩

/-- A gathered list is read if and only if each text is read on its own, in order. -/
theorem decodeList_gather {texts : List String} (wellFormed : ∀ text ∈ texts, WellFormed text)
    {details : List Sku} :
    Sku.decodeList (gather texts) = .ok details ↔
      List.Forall₂ (fun text sku => Sku.decode text = .ok sku) texts details := by
  obtain ⟨values, documents⟩ := exists_documents wellFormed
  have whole : Document (gather texts).toList (.list values) := by
    rw [gather_toList]
    exact document_writeList (List.forall₂_map_left_iff.mpr documents)
  rw [Sku.decodeList_eq_ok whole]
  clear whole wellFormed
  induction documents generalizing details with
  | nil => simp
  | cons document documents inductionHypothesis =>
      cases details with
      | nil => simp
      | cons sku details =>
          simp only [List.forall₂_cons, inductionHypothesis, Sku.decode,
            Sku.reads.readDocument_value document]

theorem decodes_of_mem {texts : List String} {details : List Sku}
    (each : List.Forall₂ (fun text sku => Sku.decode text = .ok sku) texts details)
    {text : String} (among : text ∈ texts) : ∃ sku, Sku.decode text = .ok sku := by
  induction each with
  | nil => simp at among
  | cons reads each inductionHypothesis =>
      rcases List.mem_cons.mp among with rfl | further
      · exact ⟨_, reads⟩
      · exact inductionHypothesis further

/-- Records that are gathered from well-formed texts are read all or not at all. If each of them is
read on its own, the answer keeps its result and has them in order. If one is not, the answer is an
error without records, whatever its result was. Neither is taken for an answer that is fine but has
no list. -/
theorem Reply.read_gather (result : Result) (texts : List String)
    (wellFormed : ∀ text ∈ texts, WellFormed text) :
    (∀ details, List.Forall₂ (fun text sku => Sku.decode text = .ok sku) texts details →
      (Reply.read ⟨result, some (gather texts)⟩).1 = ⟨result, some details⟩) ∧
    ((∃ text ∈ texts, ∃ refusal, Sku.decode text = .error refusal) →
      ∃ reason, (Reply.read ⟨result, some (gather texts)⟩).1 =
        ⟨⟨.error, "malformed sku details: " ++ reason⟩, none⟩) ∧
    ∀ missing : Result, missing.code = .ok →
      (Reply.read ⟨result, some (gather texts)⟩).1 ≠ (Reply.read ⟨missing, none⟩).1 := by
  refine ⟨fun details each => ?_, ?_, fun missing fine same => ?_⟩
  · simp [Reply.read, (decodeList_gather wellFormed).mpr each]
  · rintro ⟨text, among, refusal, unread⟩
    cases all : Sku.decodeList (gather texts) with
    | ok details =>
        obtain ⟨sku, reads⟩ := decodes_of_mem ((decodeList_gather wellFormed).mp all) among
        simp [reads] at unread
    | error refusal => exact ⟨refusal.message, by simp [Reply.read, all, Response.malformed]⟩
  · cases all : Sku.decodeList (gather texts) with
    | ok details => simp [Reply.read, all] at same
    | error refusal =>
        simp only [Reply.read, all, Response.malformed, Response.mk.injEq] at same
        simp [← same.1] at fine

/-- What is passed over to the end of a text is well-formed. -/
theorem wellFormed_of_skip {text : String} (skips : skipValue text.toList = .ok []) :
    WellFormed text := by
  obtain ⟨start, value, blanks, spells⟩ := skipValue_sound skips
  exact ⟨value, start, [], blanks, spells, .refl⟩

/-- One record alone is read, and the same record in front of a null is not. -/
theorem Reply.read_gather_null :
    (Reply.read ⟨⟨.ok, ""⟩,
        some (gather ["[\"ananas\", \"\", \"\", \"\", \"1\", 7, \"EUR\"]"])⟩).1 =
      ⟨⟨.ok, ""⟩, some [⟨"ananas", "", "", "", "1", 7, "EUR", ""⟩]⟩ ∧
    ∃ reason, (Reply.read ⟨⟨.ok, ""⟩,
        some (gather ["[\"ananas\", \"\", \"\", \"\", \"1\", 7, \"EUR\"]", "null"])⟩).1 =
      ⟨⟨.error, "malformed sku details: " ++ reason⟩, none⟩ := by
  have record : WellFormed "[\"ananas\", \"\", \"\", \"\", \"1\", 7, \"EUR\"]" :=
    wellFormed_of_skip rfl
  have null : WellFormed "null" := wellFormed_of_skip rfl
  refine ⟨(Reply.read_gather _ _ (by simpa using record)).1 _ (.cons rfl .nil), ?_⟩
  exact (Reply.read_gather _ _ (by simpa using ⟨record, null⟩)).2.1
    ⟨"null", by simp, _, rfl⟩

end Storefront.Billing
