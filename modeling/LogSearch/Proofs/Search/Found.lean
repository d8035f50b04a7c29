import LogSearch.Proofs.Ingestion.Bodies
import LogSearch.Proofs.Search.Replies
import LogSearch.Search.Request

/-!
# What is posted is found

A batch is posted as lines of JSON and comes back, document by document, in the hits of a search.
`body_found` says that nothing changes on the way, whatever the texts of the documents hold.  The
body of a bulk request can be cut at its line feeds (`Bulk.splitOn_body`); every second line is a
document again (`Bulk.read_pairs`); and a hit with this document for its source shows the texts of
it (`SearchHit.exists_shows`).
-/

namespace LogSearch

/-! ## Hits -/

/-- The hit shows what the document holds, with no level just when there is none. -/
structure SearchHit.Shows (h : SearchHit) (d : Document) : Prop where
  timestamp : h.timestamp = some d.timestamp.text
  level : h.level = d.level
  message : h.message = some d.message
  raw : h.raw = some d.raw
  source : h.source = some d.source

/-- A value with a document for its source is a hit that shows the document. -/
lemma SearchHit.exists_shows (fields : List Text) {hit : Json} {d : Document}
    (hsource : hit.member "_source" = d.toJson) (hscore : (hit.member "_score").IsScore) :
    ∃ h, ofJson fields hit = .ok h ∧ h.Shows d := by
  cases hit with
  | object ms =>
    obtain ⟨score, hscore⟩ := exists_scoreOf_eq_ok_iff.2 hscore
    obtain ⟨timestamp, level, message, raw, source⟩ := d
    rw [ofJson, hscore, hsource]
    cases level with
    | none => exact ⟨_, rfl, rfl, rfl, rfl, rfl, rfl⟩
    | some level => exact ⟨_, rfl, rfl, rfl, rfl, rfl, rfl⟩
  | _ => exact nomatch hsource

lemma SearchResponse.exists_hitsOf_shows (fields : List Text) {hits : List Json}
    {ds : List Document}
    (hsources : List.Forall₂ (fun hit d => hit.member "_source" = d.toJson) hits ds)
    (hscores : ∀ hit ∈ hits, (hit.member "_score").IsScore) :
    ∃ found, hitsOf fields (.list hits) = .ok found ∧ List.Forall₂ SearchHit.Shows found ds := by
  rw [hitsOf]
  induction hsources with
  | nil => exact ⟨[], rfl, .nil⟩
  | cons hsource _ ih =>
    obtain ⟨hscore, hscores⟩ := List.forall_mem_cons.1 hscores
    obtain ⟨h, hh, hshows⟩ := SearchHit.exists_shows fields hsource hscore
    obtain ⟨found, hfound, hall⟩ := ih hscores
    refine ⟨h :: found, ?_, .cons hshows hall⟩
    rw [List.mapM_cons, hh, hfound]
    rfl

/-! ## Replies -/

lemma Json.isObject_of_member {j : Json} {key : Text} (h : j.member key ≠ .null) : j.isObject := by
  cases j with
  | object ms => rfl
  | _ => exact absurd rfl h

/-- The reply holds the hits, whose sources are what is read of the lines, and whose scores are not
too large. -/
structure Json.Carries (reply : Json) (hits : List Json) (lines : List Bytes) : Prop where
  list : (reply.member "hits").member "hits" = .list hits
  sources : List.Forall₂ (fun (hit : Json) line =>
    Json.read Json.strict line = .ok (hit.member "_source")) hits lines
  scores : ∀ hit ∈ hits, (hit.member "_score").IsScore

/-- The hits of a reply are read as they are, and besides them only two counts are. -/
lemma SearchResponse.ofReply_of_hitsOf {fields : List Text} {query : Text} {reply : Json}
    {hits : List Json} {found : List SearchHit}
    (hhits : (reply.member "hits").member "hits" = .list hits)
    (hfound : hitsOf fields (.list hits) = .ok found) :
    ofReply fields query reply = (do
      let total ← countOf (((reply.member "hits").member "total").member "value")
      let took ← countOf (reply.member "took")
      return ⟨total, took, query, found⟩) := by
  have hinner : (reply.member "hits").isObject :=
    Json.isObject_of_member fun h => nomatch hhits.symm.trans h
  have hfilled : reply.member "hits" ≠ .null := by
    intro h
    rw [h] at hinner
    contradiction
  have houter : reply.isObject := Json.isObject_of_member hfilled
  rw [ofReply_eq houter fun _ => hinner, hhits, hfound]
  rfl

namespace Bulk

/-- **What is posted is found.**  The body of a request can be cut at its line feeds into a pair of
lines for every document, which are read as the action and the document.  Whatever else a reply
holds, if the documents that are read are the sources of its hits, then it is read as hits that show
the documents, in their order; the counts in it are counted or at fault as they would be without
hits. -/
theorem body_found (index : Text) {ds : List Document} (hds : ds ≠ []) :
    let bytes := Utf8.encode (body index ds)
    bytes.count 10 = 2 * ds.length ∧ bytes.getLast? = some 10 ∧
      ∃ pairs : List (Bytes × Bytes),
        bytes.splitOn 10 = (pairs.flatMap fun p => [p.1, p.2]) ++ [[]] ∧
        List.Forall₂ (fun p d => Json.read Json.strict p.1 = .ok (action index) ∧
          Json.read Json.strict p.2 = .ok d.toJson) pairs ds ∧
        ∀ reply hits query, reply.Carries hits (pairs.map Prod.snd) →
          ∃ found, List.Forall₂ SearchHit.Shows found ds ∧
            SearchResponse.ofReply highlightFields query reply = (do
              let total ← countOf (((reply.member "hits").member "total").member "value")
              let took ← countOf (reply.member "took")
              return ⟨total, took, query, found⟩) := by
  intro bytes
  have hbytes : bytes = ((lines index ds).map Utf8.encode).flatMap (· ++ [10]) :=
    encode_body index hds
  have hlast : bytes.getLast? = some 10 := by
    change (Utf8.encode (Text.join ['\n'] (lines index ds) ++ ['\n'])).getLast? = some 10
    rw [Utf8.encode_append, List.getLast?_append]
    rfl
  refine ⟨?_, hlast, pairs index ds, splitOn_body index hds, read_pairs index ds, ?_⟩
  · rw [hbytes, count_flatMap notMem_of_mem_lines, List.length_map, length_lines]
  · intro reply hits query hcarries
    have hsources : List.Forall₂ (fun hit d =>
        Json.member hit "_source" = Document.toJson d) hits ds := by
      have hlines := hcarries.sources
      rw [pairs, List.map_map, List.forall₂_map_right_iff] at hlines
      refine hlines.imp fun hit d hread => ?_
      exact Except.ok.inj (hread.symm.trans (d.readsBack_toJson.read Json.strict))
    obtain ⟨found, hfound, hshows⟩ :=
      SearchResponse.exists_hitsOf_shows highlightFields hsources hcarries.scores
    exact ⟨found, hshows, SearchResponse.ofReply_of_hitsOf hcarries.list hfound⟩

/-- Two documents whose texts hold line breaks, quotes, a control character and characters of two
and of four bytes, and the reply to a search that finds them. -/
theorem body_found_of_line_breaks :
    let ds : List Document := [
      ⟨⟨0, by decide⟩, none, "a\nb\t\"é\\", "a\r\n\x01", "/ä"⟩,
      ⟨⟨63850161600500000, by decide⟩, some "WARN", "", "😀", "/a"⟩]
    let hit (d : Document) : Json := .object [("_id", .int 7), ("_source", d.toJson)]
    let reply : Json := .object [("took", .int 3), ("hits", .object [
      ("total", .object [("value", .int 2)]), ("hits", .list (ds.map hit))])]
    ds ≠ [] ∧ ∃ found, List.Forall₂ SearchHit.Shows found ds ∧
      SearchResponse.ofReply highlightFields "q" reply = .ok ⟨2, 3, "q", found⟩ := by
  intro ds hit reply
  have hne : ds ≠ [] := List.cons_ne_nil _ _
  have hsource (d : Document) : (hit d).member "_source" = d.toJson := rfl
  obtain ⟨-, -, pairs, -, hpairs, hreply⟩ := body_found "logs" hne
  have hsources : List.Forall₂ (fun (hit : Json) line =>
      Json.read Json.strict line = .ok (hit.member "_source"))
      (ds.map hit) (pairs.map Prod.snd) := by
    rw [List.forall₂_map_left_iff, List.forall₂_map_right_iff]
    refine hpairs.flip.imp fun d p h => ?_
    rw [hsource]
    exact h.2
  have hscores : ∀ h ∈ ds.map hit, (h.member "_score").IsScore := by
    intro h hmem
    obtain ⟨d, -, rfl⟩ := List.mem_map.1 hmem
    exact nofun
  obtain ⟨found, hshows, hread⟩ := hreply reply (ds.map hit) "q" ⟨rfl, hsources, hscores⟩
  exact ⟨hne, found, hshows, hread⟩

end Bulk

end LogSearch
