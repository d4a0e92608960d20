import SqlScript.Proofs.Progress
import SqlScript.Report

/-!
# The statuses of statements

The statuses in a report of a failed run are made from its failure alone. Whether they say what
happened is up to what the failure blames.

* `Responder.IsStatus`: the status of a statement, by what was asked of the database for it.
* `Responder.TellsTruth`: a report with such statuses.
* `Responder.BlamesNobody`: the failures that no such report can be made from.
* `Responder.tellsTruth_session`: **a report tells the truth exactly when its failure is not one of
  these.**
-/

namespace SqlScript

namespace Responder

open SqlScript.Action

variable {σ : Type} (d : Responder σ)

/-- **What happened to the statement at a place** of a run that made requests: it was skipped if it
was never asked to be prepared, failed if it failed itself, and was rolled back if it ran. -/
structure IsStatus (s : σ) (items : List (StatementUnit × Batch)) (requests : List Request)
    (i : Nat) (status : StatementStatus) : Prop where
  skipped : status = .skipped ↔ prepares requests ≤ i
  failed : status = .failed ↔ d.Fails s items i
  rolledBack : status = .rolledBack ↔ d.Completes s items i

/-- **A report tells the truth** if each status says what happened. -/
def TellsTruth (s : σ) (items : List (StatementUnit × Batch)) (requests : List Request)
    (report : ScriptReport) : Prop :=
  ∀ i statement, report.statements[i]? = some statement →
    d.IsStatus s items requests i statement.status

/-- **A failed rollback that blames nobody**: it was for a failed commit or an interrupt. -/
def BlamesNobody (requests : List Request) (f : Failure) : Prop :=
  .rollback ∈ requests ∧ f.code = "rollback_failed" ∧ f.statementIndex = none

variable {d} {state s' : σ} {items : List (StatementUnit × Batch)} {f : Failure} {i : Nat}

/-! ## Places of statements -/

theorem completes_iff {cursor : Cursor} (ha : d .acquire state = (.ok cursor, s')) :
    d.Completes state items i ↔
      i < items.length ∧ (d.pursue ⟨s', {}⟩ (requestsOf (items.take (i + 1)))).stop = none := by
  constructor
  · rintro ⟨cursor', s'', ha', h⟩
    obtain ⟨-, rfl⟩ := Prod.mk.inj (ha.symm.trans ha')
    exact h
  · exact fun h => ⟨cursor, s', ha, h⟩

theorem fails_iff {cursor : Cursor} (ha : d .acquire state = (.ok cursor, s')) :
    d.Fails state items i ↔
      (d.pursue ⟨s', {}⟩ (requestsOf (items.take i))).stop = none ∧
      (d.pursue ⟨s', {}⟩ (requestsOf (items.take (i + 1)))).stop ≠ none := by
  constructor
  · rintro ⟨cursor', s'', ha', h⟩
    obtain ⟨-, rfl⟩ := Prod.mk.inj (ha.symm.trans ha')
    exact h
  · exact fun h => ⟨cursor, s', ha, h⟩

/-- Without a connection all statements are skipped. -/
theorem isStatus_of_error {e : Fault} (ha : d .acquire state = (.error e, s')) :
    d.IsStatus state items [.acquire] i .skipped := by
  have hnot : ∀ cursor s'', d .acquire state ≠ (.ok cursor, s'') := by
    intro cursor s'' h
    rw [ha] at h
    cases h
  exact {
    skipped := ⟨fun _ => Nat.zero_le i, fun _ => rfl⟩
    failed := ⟨(nomatch ·), fun ⟨cursor, s'', h, _⟩ => absurd h (hnot cursor s'')⟩
    rolledBack := ⟨(nomatch ·), fun ⟨cursor, s'', h, _⟩ => absurd h (hnot cursor s'')⟩ }

section Connected

variable {cursor : Cursor} {final requests : List Request}

/-- The statements are prepared in their course. -/
theorem prepares_connected (hrequests : requests =
      .acquire :: ((d.pursue ⟨s', {}⟩ (requestsOf items)).made ++ final))
    (hfinal : prepares final = 0) :
    prepares requests = prepares (d.pursue ⟨s', {}⟩ (requestsOf items)).made := by
  subst hrequests
  rw [prepares, List.countP_cons, List.countP_append, ← prepares, ← prepares, hfinal]
  rfl

/-- If a statement failed, those before it ran, and those after it were skipped. -/
theorem isStatus_of_stop (ha : d .acquire state = (.ok cursor, s'))
    (hprepares : prepares requests = prepares (d.pursue ⟨s', {}⟩ (requestsOf items)).made)
    {stop : Stop} (hs : (d.pursue ⟨s', {}⟩ (requestsOf items)).stop = some stop)
    (hindex : ∀ (i : Nat) item, items[i]? = some item → item.1.index = i)
    (hf : f.statementIndex = some stop.unit.index) (hi : i < items.length) :
    d.IsStatus state items requests i (f.statusOf i) := by
  -- all three are about where `i` lies from the place where the run stopped
  obtain ⟨k, item, hitem, hunit, hmade, hle⟩ := exists_stop hs
  have hblamed : f.statementIndex = some (k : Int) := by rw [hf, hunit, hindex k item hitem]
  have hfails : d.Fails state items i ↔ i = k := by
    rw [fails_iff ha, hle i, Ne, hle (i + 1)]
    omega
  have hcompletes : d.Completes state items i ↔ i < k := by
    rw [completes_iff ha, hle (i + 1)]
    omega
  have hstatus : f.statusOf i =
      if i < k then .rolledBack else if i = k then .failed else .skipped := by
    unfold Failure.statusOf
    rw [hblamed]
    simp only [Int.ofNat_lt, Int.natCast_inj]
  refine ⟨?_, ?_, ?_⟩ <;> rw [hstatus]
  · rw [hprepares, hmade]
    split
    · simp; omega
    · split <;> simp <;> omega
  · rw [hfails]
    split
    · simp; omega
    · split <;> simp <;> omega
  · rw [hcompletes]
    split
    · simp; omega
    · split <;> simp <;> omega

/-- If none failed, all ran. -/
theorem isStatus_of_stop_none (ha : d .acquire state = (.ok cursor, s'))
    (hprepares : prepares requests = prepares (d.pursue ⟨s', {}⟩ (requestsOf items)).made)
    (hs : (d.pursue ⟨s', {}⟩ (requestsOf items)).stop = none) (hi : i < items.length) :
    d.IsStatus state items requests i .rolledBack := by
  obtain ⟨hmade, hpassed⟩ := prepares_of_stop_none hs
  refine ⟨⟨(nomatch ·), fun h => ?_⟩, ⟨(nomatch ·), fun h => ?_⟩, ?_⟩
  · omega
  · exact absurd (hpassed (i + 1)) ((fails_iff ha).1 h).2
  · exact ⟨fun _ => (completes_iff ha).2 ⟨hi, hpassed (i + 1)⟩, fun _ => rfl⟩

/-- The first statement is prepared in any case. -/
theorem prepares_pos (hitems : items ≠ []) (s : Standing σ) :
    0 < prepares (d.pursue s (requestsOf items)).made := by
  have hlength := List.length_pos_iff.2 hitems
  cases hs : (d.pursue s (requestsOf items)).stop with
  | none =>
    rw [(prepares_of_stop_none hs).1]
    exact hlength
  | some stop =>
    obtain ⟨k, item, -, -, hk, -⟩ := exists_stop hs
    omega

end Connected

/-! ## Reports of failed runs -/

/-- The statuses of a failed run, for statements that are numbered by their places. -/
theorem tellsTruth_ofFailure {source : String} {units : List StatementUnit} {batches : List Batch}
    {count elapsed : Int} (hindex : ∀ (i : Nat) unit, units[i]? = some unit → unit.index = i)
    {requests : List Request} :
    d.TellsTruth state items requests (.ofFailure source units batches f count elapsed) ↔
      ∀ i < units.length, d.IsStatus state items requests i (f.statusOf i) := by
  constructor
  · intro h i hi
    have hunit := List.getElem?_eq_getElem hi
    have hstatus := h i ⟨units[i], batches.getD i [], f.statusOf units[i].index, none⟩ (by
      simp only [ScriptReport.ofFailure, List.getElem?_mapIdx, hunit, Option.map_some])
    rw [← hindex i units[i] hunit]
    exact hstatus
  · intro h i statement hi
    simp only [ScriptReport.ofFailure, List.getElem?_mapIdx] at hi
    obtain ⟨unit, hunit, rfl⟩ := Option.map_eq_some_iff.1 hi
    have hstatus := h i (List.getElem?_eq_some_iff.1 hunit).1
    rw [← hindex i unit hunit] at hstatus
    exact hstatus

/-- A failure that blames no statement, and is not one of committing, skips all. -/
theorem statusOf_skipped (hindex : f.statementIndex = none) (hcode : f.code ≠ "commit_failed")
    (i : Int) : f.statusOf i = .skipped := by
  unfold Failure.statusOf
  rw [hindex]
  exact if_neg hcode

/-- **A session that fails, and its report.** -/
theorem tellsTruth_session (hd : d.IsOrderly) {units : List StatementUnit} {batches : List Batch}
    (hlength : batches.length = units.length) (hunits : units ≠ [])
    (hindex : ∀ (i : Nat) unit, units[i]? = some unit → unit.index = i)
    (hf : (d.session state (units.zip batches)).result = .error (.failure f))
    (source : String) (count elapsed : Int) :
    d.TellsTruth state (units.zip batches) (d.session state (units.zip batches)).requests
        (.ofFailure source units batches f count elapsed) ↔
      ¬ BlamesNobody (d.session state (units.zip batches)).requests f := by
  have hitems : (units.zip batches).length = units.length := by
    rw [List.length_zip, hlength, Nat.min_self]
  have hplaces : ∀ (i : Nat) item, (units.zip batches)[i]? = some item → item.1.index = i :=
    fun i item hi => hindex i item.1 (List.getElem?_zip_eq_some.1 hi).1
  rw [tellsTruth_ofFailure hindex]
  rcases blame hd hf with ⟨hrequests, ⟨e, s', ha⟩, hnone, hcode⟩ |
    ⟨cursor, s', final, ha, hrequests, hrollback, hfinal, hblame⟩
  · -- no connection
    rw [hrequests]
    refine ⟨fun _ hb => by simp [BlamesNobody] at hb, fun _ i _ => ?_⟩
    rw [statusOf_skipped hnone hcode]
    exact isStatus_of_error ha
  · have hprepares := prepares_connected hrequests hfinal
    rcases hblame with ⟨stop, hs, hblamed⟩ | ⟨hs, hnone, hcode⟩ | ⟨hnone, hcode⟩
    · -- a statement failed
      refine ⟨fun _ hb => ?_, fun _ i hi =>
        isStatus_of_stop ha hprepares hs hplaces hblamed (hitems ▸ hi)⟩
      rw [hb.2.2] at hblamed
      cases hblamed
    · -- committing failed
      refine ⟨fun _ hb => ?_, fun _ i hi => ?_⟩
      · have hcodes := hcode.symm.trans hb.2.1
        exact absurd hcodes (by decide)
      · have hstatus : f.statusOf i = .rolledBack := by
          unfold Failure.statusOf
          rw [hnone]
          exact if_pos hcode
        rw [hstatus]
        exact isStatus_of_stop_none ha hprepares hs (hitems ▸ hi)
    · -- the rollback failed, and blames nobody
      refine ⟨fun h => ?_, fun hb => absurd ⟨?_, hcode, hnone⟩ hb⟩
      · -- the first statement counts as skipped then, but it was prepared
        exfalso
        have hpos : 0 < units.length := List.length_pos_iff.2 hunits
        have hitems' : units.zip batches ≠ [] := by
          rw [← List.length_pos_iff, hitems]
          exact hpos
        have hskipped := (h 0 hpos).skipped.1
          (statusOf_skipped hnone (by rw [hcode]; decide) 0)
        have hprepared := prepares_pos (d := d) hitems' ⟨s', {}⟩
        omega
      · rw [hrequests]
        exact List.mem_cons_of_mem _ (List.mem_append_right _ hrollback)

end Responder

end SqlScript
