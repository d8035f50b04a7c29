import LogSearch.Ingestion.Bulk
import LogSearch.Proofs.Json.Written
import Mathlib.Data.List.Forall2

/-!
# The bodies of bulk requests

A batch of documents is posted as lines of JSON.  The body can be cut at its line feeds, since none
is part of a written value (`Bulk.oneLine_of_mem_lines`), into two lines for every document, and
what is read of them is the action and the document (`Bulk.Holds`).  So what is said of a batch is
said of the body in which it was posted.
-/

namespace LogSearch

/-! ## What is written in a line -/

namespace Bulk

lemma readsBack_action (index : Text) : (action index).ReadsBack := by
  have hinner : (Json.object [("_index", .text index)]).ReadsBack :=
    Json.readsBack_object (List.pairwise_singleton _ _)
      (List.forall_mem_singleton.2 (Json.readsBack_text _))
  exact Json.readsBack_object (List.pairwise_singleton _ _) (List.forall_mem_singleton.2 hinner)

lemma oneLine_action (index : Text) : Text.OneLine (Json.write (action index)) := by
  refine Json.oneLine_write_object (List.forall_mem_singleton.2 ?_)
  refine Json.oneLine_write_object (List.forall_mem_singleton.2 ?_)
  rw [Json.write]
  exact Json.oneLine_writeText index

end Bulk

namespace Document

lemma exists_text_of_mem_members {d : Document} {m : Text × Json} (h : m ∈ d.members) :
    ∃ t, m.2 = .text t := by
  simp only [members, List.mem_append, List.mem_cons, List.not_mem_nil, or_false,
    Option.mem_toList, Option.map_eq_some_iff] at h
  rcases h with (rfl | ⟨level, -, rfl⟩) | rfl | rfl | rfl <;> exact ⟨_, rfl⟩

lemma nodup_members (d : Document) : (d.members.map Prod.fst).Nodup := by
  cases h : d.level <;> simp [members, h]

lemma readsBack_toJson (d : Document) : d.toJson.ReadsBack := by
  refine Json.readsBack_object d.nodup_members fun m hm => ?_
  obtain ⟨t, ht⟩ := exists_text_of_mem_members hm
  rw [ht]
  exact Json.readsBack_text t

lemma oneLine_toJson (d : Document) : Text.OneLine (Json.write d.toJson) := by
  refine Json.oneLine_write_object fun m hm => ?_
  obtain ⟨t, ht⟩ := exists_text_of_mem_members hm
  rw [ht, Json.write]
  exact Json.oneLine_writeText t

end Document

/-! ## Lines -/

lemma splitOn_flatMap {b : UInt8} {lines : List Bytes} (h : ∀ line ∈ lines, b ∉ line) :
    (lines.flatMap (· ++ [b])).splitOn b = lines ++ [[]] := by
  induction lines with
  | nil => exact List.splitOn_nil b
  | cons line lines ih =>
    obtain ⟨hline, hlines⟩ := List.forall_mem_cons.1 h
    rw [List.flatMap_cons, List.append_assoc, List.singleton_append,
      List.splitOn_append_cons_self_of_not_mem hline, ih hlines, List.cons_append]

lemma count_flatMap {b : UInt8} {lines : List Bytes} (h : ∀ line ∈ lines, b ∉ line) :
    (lines.flatMap (· ++ [b])).count b = lines.length := by
  induction lines with
  | nil => rfl
  | cons line lines ih =>
    obtain ⟨hline, hlines⟩ := List.forall_mem_cons.1 h
    rw [List.flatMap_cons, List.count_append, List.count_append,
      List.count_eq_zero_of_not_mem hline, ih hlines, List.count_singleton_self, List.length_cons]
    omega

namespace Bulk

lemma lines_cons (index : Text) (d : Document) (ds : List Document) :
    lines index (d :: ds) =
      Json.write (action index) :: Json.write d.toJson :: lines index ds := by
  rw [lines, List.flatMap_cons]
  rfl

lemma length_lines (index : Text) (ds : List Document) :
    (lines index ds).length = 2 * ds.length := by
  induction ds with
  | nil => rfl
  | cons d ds ih =>
    rw [lines_cons, List.length_cons, List.length_cons, ih, List.length_cons]
    omega

lemma oneLine_of_mem_lines {index : Text} {ds : List Document} {line : Text}
    (h : line ∈ lines index ds) : Text.OneLine line := by
  obtain ⟨d, -, hline⟩ := List.mem_flatMap.1 h
  rcases List.mem_pair.1 hline with rfl | rfl
  · exact oneLine_action index
  · exact d.oneLine_toJson

lemma join_append {lines : List Text} (h : lines ≠ []) :
    Text.join ['\n'] lines ++ ['\n'] = lines.flatMap (· ++ ['\n']) := by
  induction lines with
  | nil => exact absurd rfl h
  | cons line lines ih =>
    cases lines with
    | nil => simp [Text.join]
    | cons next lines =>
      have hjoin : Text.join ['\n'] (line :: next :: lines) =
          line ++ ['\n'] ++ Text.join ['\n'] (next :: lines) := rfl
      rw [hjoin, List.append_assoc, ih (List.cons_ne_nil next lines)]
      rfl

/-- The body of a request is its lines, each with a line feed. -/
lemma encode_body (index : Text) {ds : List Document} (hds : ds ≠ []) :
    Utf8.encode (body index ds) = ((lines index ds).map Utf8.encode).flatMap (· ++ [10]) := by
  have hlines : lines index ds ≠ [] := by
    obtain ⟨d, ds, rfl⟩ := List.exists_cons_of_ne_nil hds
    rw [lines_cons]
    exact List.cons_ne_nil _ _
  have hfeed (line : Text) : Utf8.encode (line ++ ['\n']) = Utf8.encode line ++ [10] :=
    Utf8.encode_append line _
  rw [body, join_append hlines, Utf8.encode, List.flatMap_assoc, List.flatMap_map]
  simp only [← hfeed]
  rfl

lemma notMem_of_mem_lines {index : Text} {ds : List Document} :
    ∀ line ∈ (lines index ds).map Utf8.encode, 10 ∉ line := by
  intro line hline
  obtain ⟨text, htext, rfl⟩ := List.mem_map.1 hline
  exact (oneLine_of_mem_lines htext).notMem_encode

/-- The lines of a request, as pairs. -/
def pairs (index : Text) (ds : List Document) : List (Bytes × Bytes) :=
  ds.map fun d => (Utf8.encode (Json.write (action index)), Utf8.encode (Json.write d.toJson))

lemma splitOn_body (index : Text) {ds : List Document} (hds : ds ≠ []) :
    (Utf8.encode (body index ds)).splitOn 10 =
      ((pairs index ds).flatMap fun p => [p.1, p.2]) ++ [[]] := by
  rw [encode_body index hds, splitOn_flatMap notMem_of_mem_lines, pairs, List.flatMap_map, lines,
    List.map_flatMap]
  rfl

lemma read_pairs (index : Text) (ds : List Document) :
    List.Forall₂ (fun p d => Json.read Json.strict p.1 = .ok (action index) ∧
      Json.read Json.strict p.2 = .ok d.toJson) (pairs index ds) ds := by
  rw [pairs, List.forall₂_map_left_iff, List.forall₂_same]
  exact fun d _ => ⟨(readsBack_action index).read _, d.readsBack_toJson.read _⟩

/-- The body holds the documents and nothing else: it is a pair of lines for each of them, which are
read as the action and the document, with a line feed after every line. -/
def Holds (index body : Text) (ds : List Document) : Prop :=
  ∃ pairs : List (Bytes × Bytes),
    (Utf8.encode body).splitOn 10 = (pairs.flatMap fun p => [p.1, p.2]) ++ [[]] ∧
      List.Forall₂ (fun p d => Json.read Json.strict p.1 = .ok (action index) ∧
        Json.read Json.strict p.2 = .ok d.toJson) pairs ds

theorem holds_body (index : Text) {ds : List Document} (hds : ds ≠ []) :
    Holds index (body index ds) ds :=
  ⟨pairs index ds, splitOn_body index hds, read_pairs index ds⟩

end Bulk

end LogSearch
