import LogSearch.Proofs.Except
import LogSearch.Search.Request

/-!
# The form of a search request

Anything may be sent as a search.  `SearchRequest.IsFor` says which values are search requests, and
which request each of them is, in terms of the members of the value and not of the checks that are
made: the query is a text with something in it, and both numbers are null or can be meant as
integers, the first of them not a negative one.  `SearchRequest.checkLax_eq_ok_iff` says that the
checks come to this.
-/

namespace LogSearch

namespace Validation

variable {α β : Type}

namespace Checked

/-! ## Checks that are passed -/

lemma ap_eq_ok_iff {f : Checked (α → β)} {c : Checked α} {b : β} :
    ap f c = .ok b ↔ ∃ g a, f = .ok g ∧ c = .ok a ∧ g a = b := by
  cases f <;> cases c <;> simp [ap]

lemma under_eq_ok_iff {step : Step} {c : Checked α} {a : α} :
    under step c = .ok a ↔ c = .ok a := by
  cases c with
  | error problems => exact iff_of_false nofun nofun
  | ok b => rfl

lemma require_eq_ok_iff {test : α → Bool} {cause : Cause} {c : Checked α} {a : α} :
    require test cause c = .ok a ↔ c = .ok a ∧ test a := by
  cases c with
  | error problems => exact iff_of_false nofun fun h => nomatch h.1
  | ok b => grind [require, Except.bind, fail]

end Checked

end Validation

open Validation

namespace SearchRequest

/-! ## The values that are requests -/

/-- The value is null or is meant as an integer. -/
def Reads (j : Json) : Option Int → Prop
  | none => j = .null
  | some n => readInt j = .ok n

/-- The number of hits to pass over in a request, which has two names. -/
def skippedMember : Json → Json
  | .object ms => ((Json.find? ms "from").or (Json.find? ms "from_")).getD .null
  | _ => .null

/-- The value is a request. -/
structure IsFor (r : SearchRequest) (body : Json) : Prop where
  isObject : body.isObject
  query : body.member "query" = .text r.query
  notBlank : Text.isBlankText r.query = false
  skipped : Reads (skippedMember body) r.skipped
  notNegative : ∀ n ∈ r.skipped, 0 ≤ n
  size : Reads (body.member "size") r.size

/-! ## The checks -/

variable {r : SearchRequest} {ms : List (Text × Json)} {j : Json}

lemma checkQuery_eq_ok_iff {query : Text} :
    checkQuery ms = .ok query ↔
      (Json.object ms).member "query" = .text query ∧ Text.isBlankText query = false := by
  have hmember : (Json.object ms).member "query" = (Json.find? ms "query").getD .null := rfl
  rw [checkQuery, Checked.under_eq_ok_iff, hmember]
  cases Json.find? ms "query" with
  | none => exact iff_of_false nofun fun h => nomatch h.1
  | some j =>
    have hread : readText j = .ok query ↔ j = .text query := by
      cases j <;> simp [readText, Checked.fail]
    rw [Checked.require_eq_ok_iff, hread, Bool.not_eq_true']
    rfl

lemma orNull_eq_ok_iff {read : Json → Checked Int} (hnull : ∀ n, read .null ≠ .ok n)
    {o : Option Int} :
    orNull read j = .ok o ↔ (o = none ∧ j = .null) ∨ ∃ n, o = some n ∧ read j = .ok n := by
  have hother (hj : j ≠ .null) : orNull read j = (read j).map some := by
    cases j <;> first | contradiction | rfl
  by_cases hj : j = .null
  · subst hj
    have hread : orNull read .null = .ok none := rfl
    simp [hread, hnull, eq_comm]
  · rw [hother hj]
    cases read j <;> simp [Except.map, hj, eq_comm]

lemma readInt_null (n : Int) : readInt .null ≠ .ok n := by
  simp [readInt, Checked.fail]

lemma reads_iff {o : Option Int} :
    Reads j o ↔ (o = none ∧ j = .null) ∨ ∃ n, o = some n ∧ readInt j = .ok n := by
  cases o <;> simp [Reads]

lemma orNull_readInt_eq_ok_iff {o : Option Int} : orNull readInt j = .ok o ↔ Reads j o := by
  rw [orNull_eq_ok_iff readInt_null, reads_iff]

/-- The numbers of hits to pass over are those that are read and not negative. -/
lemma orNull_require_eq_ok_iff {cause : Cause} {o : Option Int} :
    orNull (fun j => Checked.require (0 ≤ ·) cause (readInt j)) j = .ok o ↔
      Reads j o ∧ ∀ n ∈ o, 0 ≤ n := by
  have hnull (n : Int) : Checked.require (0 ≤ ·) cause (readInt .null) ≠ .ok n := fun h =>
    readInt_null n (Checked.require_eq_ok_iff.1 h).1
  rw [orNull_eq_ok_iff hnull]
  cases o <;> simp [Reads, Checked.require_eq_ok_iff]

lemma checkSkipped_eq_ok_iff {o : Option Int} :
    checkSkipped readInt ms = .ok o ↔
      Reads (skippedMember (.object ms)) o ∧ ∀ n ∈ o, 0 ≤ n := by
  have hmember : skippedMember (.object ms) =
      ((Json.find? ms "from").or (Json.find? ms "from_")).getD .null := rfl
  rw [checkSkipped, hmember]
  cases Json.find? ms "from" with
  | some j => exact Checked.under_eq_ok_iff.trans orNull_require_eq_ok_iff
  | none =>
    rw [member]
    cases Json.find? ms "from_" with
    | some j => exact Checked.under_eq_ok_iff.trans orNull_require_eq_ok_iff
    | none => cases o <;> simp [Reads, readInt_null]

lemma checkSize_eq_ok_iff {o : Option Int} :
    member ms "size" none (orNull readInt) = .ok o ↔
      Reads ((Json.object ms).member "size") o := by
  have hmember : (Json.object ms).member "size" = (Json.find? ms "size").getD .null := rfl
  rw [member, hmember]
  cases Json.find? ms "size" with
  | some j => exact Checked.under_eq_ok_iff.trans orNull_readInt_eq_ok_iff
  | none => cases o <;> simp [Reads, readInt_null]

/-- **Which values are requests.**  The checks let through the values that are requests, and make of
each the request that it is. -/
theorem checkLax_eq_ok_iff {body : Json} : checkLax body = .ok r ↔ r.IsFor body := by
  cases body with
  | object ms =>
    unfold checkLax check
    simp only [Checked.ap_eq_ok_iff, checkQuery_eq_ok_iff, checkSkipped_eq_ok_iff,
      checkSize_eq_ok_iff]
    constructor
    · rintro ⟨_, size, ⟨_, skipped, ⟨_, query, h, hquery, rfl⟩, hskipped, rfl⟩, hsize, rfl⟩
      obtain rfl := Except.ok.inj h
      exact ⟨rfl, hquery.1, hquery.2, hskipped.1, hskipped.2, hsize⟩
    · intro h
      exact ⟨_, _, ⟨_, _, ⟨_, _, rfl, ⟨h.query, h.notBlank⟩, rfl⟩, ⟨h.skipped, h.notNegative⟩, rfl⟩,
        h.size, rfl⟩
  | _ => exact iff_of_false nofun fun h => nomatch h.isObject

lemma IsFor.resolveSkipped_nonneg {body : Json} (h : r.IsFor body) : 0 ≤ r.resolveSkipped := by
  rw [resolveSkipped]
  cases hskipped : r.skipped with
  | none => exact Int.le_refl 0
  | some n => exact h.notNegative n hskipped

end SearchRequest

end LogSearch
