import SqlScript.Proofs.Classification
import SqlScript.Proofs.Fitting

/-!
# Failed rollbacks

A rollback that fails takes over from the failure that made it necessary, and is to keep the whole
story: the fault of rolling back is its cause, the failure before is its trigger, and the fault
behind that failure is the cause of the trigger. A statement's failure has its cause when it is
rolled back; a failure of committing is rolled back before it has one.

* `KeepsBoth`: a failure of rolling back that keeps both faults.
* `Responder.result_session_of_committing`: what is raised if neither committing nor rolling back
  succeeds.
* `Responder.session_of_runScript`: a failure of a run is one of its session.
* `Responder.keepsBoth_iff`: **a failed rollback keeps both faults exactly if it did not follow a
  failed commit.**
-/

namespace SqlScript

/-- **A failed rollback that keeps both faults**: the fault of rolling back, and by its trigger the
fault at a site that made the rollback necessary. -/
structure KeepsBoth (site : Site) (fault reply : Fault) (f : Failure) : Prop where
  cause : f.cause = some reply
  trigger : ∃ g : Failure, f.trigger = some (.failure g) ∧ Tells site fault g

/-- What is left to say of a failure that tells of a rollback, unless committing made it
necessary. -/
theorem TellsOfRollback.keepsBoth {site : Site} {fault reply : Fault} {f : Failure}
    (h : TellsOfRollback site fault reply f) (hsite : site ≠ .committing) :
    KeepsBoth site fault reply f := by
  obtain ⟨g, hg, hkind, hcode, hindex, hcause⟩ := h.trigger
  exact ⟨h.cause, g, hg, hkind, hcode, hindex, hcause hsite⟩

/-- No site has the kind of a failed rollback. -/
theorem Site.kind_ne_rollback (site : Site) : site.kind ≠ .rollback := by
  cases site <;> exact nofun

namespace Responder

open SqlScript.Action

variable {σ : Type} {d : Responder σ} {state final : σ} {items : List (StatementUnit × Batch)}
  {site : Site} {fault reply : Fault} {f : Failure}

/-! ## Sessions -/

/-- **A failed rollback after a failed commit**, whose failure had no cause when it was rolled
back. -/
theorem result_session_of_committing (hd : d.IsRegular)
    (h : d.Breaks state items .committing fault final) (hr : (d .rollback final).1 = .error reply) :
    (d.session state items).result = .error (.failure
      (Failure.rollbackFailed (.failure { Failure.commitFailed fault with cause := none })
        reply)) := by
  cases h with
  | @committing cursor s' s'' _ hitems ha hs hc =>
    have hfault := hd.faults .commit _ fault (by rw [hc])
    have hreply := hd.faults .rollback final reply hr
    rw [result_session hd ha]
    cases hrollback : d .rollback final with
    | mk answer state' =>
      rw [hrollback] at hr
      obtain rfl := hr
      simp only [ending, hs, hc, hfault, if_true, undo, hrollback, Ending.result,
        Fault.reportedAs, hreply]
  | statement ha hs hsite =>
    obtain ⟨-, -, -, -, hcommitting⟩ := Stop.tells_reported hsite (site_of_stop hd hs).2
    exact absurd rfl hcommitting

/-- A failure in acquiring a connection is the answer to the request for one. -/
theorem Breaks.acquire (h : d.Breaks state items .acquiring fault final) (hd : d.IsRegular) :
    (d .acquire state).1 = .error fault := by
  cases h with
  | acquiring _ ha => rw [ha]
  | statement _ hs hsite =>
    obtain ⟨-, -, -, hne, -⟩ := Stop.tells_reported hsite (site_of_stop hd hs).2
    exact absurd rfl hne

/-- What is raised for a failure on a connection tells of it, or of the rollback that failed as
well. -/
theorem IsRaised.tells {e : Fault} (h : d.IsRaised final fault site e)
    (hsite : site ≠ .acquiring) :
    (∃ g, e = .failure g ∧ Tells site fault g) ∨
      ∃ reply g, (d .rollback final).1 = .error reply ∧ e = .failure g ∧
        TellsOfRollback site fault reply g := by
  cases site with
  | acquiring => exact absurd rfl hsite
  | preparing | executing | reading | committing =>
    all_goals
      unfold IsRaised at h
      cases hr : (d .rollback final).1 with
      | ok cursor =>
        rw [hr] at h
        exact .inl h
      | error reply =>
        rw [hr] at h
        obtain ⟨g, hg, htells⟩ := h
        exact .inr ⟨reply, g, rfl, hg, htells⟩

/-- **A session that raises a failed rollback** rolled back after its first failure, and keeps both
faults exactly if that was not one of committing. -/
theorem keepsBoth_of_session (hd : d.IsRegular) (hitems : items ≠ [])
    (h : (d.session state items).result = .error (.failure f)) (hkind : f.kind = .rollback) :
    (d .acquire state).1 = .error (.failure f) ∨
      ∃ site fault final reply, d.Breaks state items site fault final ∧
        (d .rollback final).1 = .error reply ∧ TellsOfRollback site fault reply f ∧
        (KeepsBoth site fault reply f ↔ site ≠ .committing) := by
  have hbreaks : ∃ site fault final, d.Breaks state items site fault final := by
    by_contra hnone
    obtain ⟨outcomes, hok⟩ := result_session_of_not_breaks hd hitems
      fun site fault final hb => hnone ⟨site, fault, final, hb⟩
    rw [hok] at h
    cases h
  obtain ⟨site, fault, final, hbreaks⟩ := hbreaks
  obtain ⟨e, hresult, he⟩ := isRaised_session hd hbreaks
  obtain rfl : e = .failure f := Except.error.inj (hresult.symm.trans h)
  -- a failure of another kind tells of a fault at a site
  have hother : ∀ g, Fault.failure f = .failure g → ¬ Tells site fault g := by
    intro g hg htells
    rw [← Fault.failure.inj hg] at htells
    exact site.kind_ne_rollback (htells.kind.symm.trans hkind)
  by_cases hacquiring : site = .acquiring
  · -- a failure that the database answers with is raised as it is, whatever its kind
    subst hacquiring
    cases fault with
    | failure g =>
      left
      rw [hbreaks.acquire hd]
      exact congrArg Except.error (show Fault.failure f = .failure g from he).symm
    | outside kind message cause =>
      obtain ⟨g, hg, htells⟩ := he
      exact absurd htells (hother g hg)
  · right
    obtain ⟨g, hg, htells⟩ | ⟨reply, g, hr, hg, htells⟩ := he.tells hacquiring
    · exact absurd htells (hother g hg)
    · obtain rfl := Fault.failure.inj hg
      refine ⟨site, fault, final, reply, hbreaks, hr, htells, ?_, htells.keepsBoth⟩
      rintro ⟨-, g, hg, hg'⟩ rfl
      -- the trigger after a failed commit has no cause
      have hresult' := result_session_of_committing hd hbreaks hr
      rw [hresult] at hresult'
      obtain rfl := Fault.failure.inj (Except.error.inj hresult')
      obtain rfl := Fault.failure.inj (Option.some.inj hg)
      cases hg'.cause

/-! ## Runs -/

/-- **A failure of a run is one of its session**, unless the parameters were refused. -/
theorem session_of_runScript (loader : Loader) (strict : Bool) {script : String}
    {parameters : List Value} {w : World Request σ}
    (h : ((d.runner loader strict).runScript script parameters w).1 = .error (.failure f))
    (hkind : f.kind ≠ .allocation) :
    dealt (parseScript script) parameters ≠ [] ∧
      (d.session w.outside (dealt (parseScript script) parameters)).result =
        .error (.failure f) := by
  have hdeal := yields_allocateBatches (d := d) loader strict (parseScript script) parameters w
  have hallocate := allocate_cases (parseScript script) parameters strict
  split at hallocate
  · -- a refusal is a failure of another kind
    obtain ⟨left, taken, hrefused⟩ := hallocate
    rw [hrefused] at hdeal
    have hrun : Yields ((d.runner loader strict).runScript script parameters) w _ _ _ :=
      hdeal.bind_error
    have hfailure := hrun.result.symm.trans h
    obtain rfl := Fault.failure.inj (Except.error.inj hfailure)
    exact absurd rfl hkind
  · obtain ⟨batches, hbatches, hzip⟩ := hallocate
    rw [hbatches] at hdeal
    have hrun : (d.runner loader strict).runScript script parameters w =
        (d.runner loader strict).executeUnits (parseScript script) batches
          ((d.runner loader strict).allocateBatches (parseScript script) parameters w).2 :=
      Action.bind_of_ok hdeal.eq
    rw [hrun] at h
    obtain ⟨hunits, hresult, -⟩ :=
      result_session_of_executeUnits (length_of_allocate hbatches) (Prod.ext h rfl)
    rw [hdeal.outside, hzip] at hresult
    refine ⟨fun hnil => hunits ?_, hresult⟩
    rw [← map_fst_dealt (parseScript script) parameters, hnil]
    rfl

/-- What a session raises its run raises, where parameters may be left over. -/
theorem runScript_of_session (loader : Loader) {script : String} (hscript : parseScript script ≠ [])
    {parameters : List Value} {w : World Request σ} {e : Fault}
    (h : (d.session w.outside (dealt (parseScript script) parameters)).result = .error e) :
    ((d.runner loader false).runScript script parameters w).1 = .error e := by
  have hallocate := allocate_cases (parseScript script) parameters false
  rw [if_neg fun hstrict => Bool.false_ne_true hstrict.1] at hallocate
  obtain ⟨batches, hbatches, hzip⟩ := hallocate
  rw [← hzip] at h
  exact (runScript_of_allocate loader hscript hbatches w).2 e h

/-- **A failed rollback keeps both faults exactly if it did not follow a failed commit.** Whenever a
script raises one on a regular database, and the database did not itself answer with it for a
connection, the script failed first at some site, the rollback for that failed with the cause of
what is raised, and what is raised tells of both. The fault at the site is kept with the trigger,
whichever the site, but not if it is committing. -/
theorem keepsBoth_iff (hd : d.IsRegular) (loader : Loader) (strict : Bool) {script : String}
    {parameters : List Value} {w : World Request σ}
    (h : ((d.runner loader strict).runScript script parameters w).1 = .error (.failure f))
    (hkind : f.kind = .rollback) :
    (d .acquire w.outside).1 = .error (.failure f) ∨
      ∃ site fault final reply,
        d.Breaks w.outside (dealt (parseScript script) parameters) site fault final ∧
        (d .rollback final).1 = .error reply ∧ TellsOfRollback site fault reply f ∧
        (KeepsBoth site fault reply f ↔ site ≠ .committing) := by
  have hallocation : f.kind ≠ .allocation := by
    rw [hkind]
    exact FailureKind.noConfusion
  obtain ⟨hitems, hresult⟩ := session_of_runScript loader strict h hallocation
  exact keepsBoth_of_session hd hitems hresult hkind

/-- Rows that cannot be read, in a transaction that cannot be rolled back. -/
theorem keepsBoth_unreadable :
    unreadable.IsRegular ∧ ∃ f,
      ((unreadable.runner {} false).runScript "DELETE FROM t; SELECT a" []
        { outside := () }).1 = .error (.failure f) ∧
      f.kind = .rollback ∧ ∃ site fault reply, KeepsBoth site fault reply f := by
  have hparse : parseScript "DELETE FROM t; SELECT a" = query := by decide +kernel
  have hstop : (unreadable.pursue ⟨(), {}⟩ (requestsOf (dealt query []))).stop =
      some ⟨⟨1, "SELECT a", 0⟩, .reading, .of (.database .operational) "disk"⟩ := rfl
  have hbreaks : unreadable.Breaks () (dealt query []) (.reading ⟨1, "SELECT a", 0⟩)
      (.of (.database .operational) "disk") () := .statement rfl hstop rfl
  obtain ⟨e, hresult, f, rfl, hf⟩ := isRaised_session isRegular_unreadable hbreaks
  rw [← hparse] at hresult
  have hscript : parseScript "DELETE FROM t; SELECT a" ≠ [] := by
    rw [hparse]
    exact List.cons_ne_nil _ _
  have hrun := runScript_of_session {} hscript (w := { outside := () }) hresult
  refine ⟨isRegular_unreadable, f, hrun, hf.kind, ?_⟩
  obtain hacquire | ⟨site, fault, final, reply, -, -, htells, hkeeps⟩ :=
    keepsBoth_iff isRegular_unreadable {} false hrun hf.kind
  · cases hacquire
  · refine ⟨site, fault, reply, hkeeps.2 ?_⟩
    rintro rfl
    -- committing blames no statement
    cases htells.index.symm.trans hf.index

theorem isRegular_failing (stuck : Bool) : (failing stuck).IsRegular where
  faults request s e h := by
    unfold failing at h
    split at h
    · obtain rfl := Except.error.inj h
      rfl
    · obtain rfl := Except.error.inj h
      rfl
    · simp only at h
      split at h
      · obtain rfl := Except.error.inj h
        rfl
      · cases h
    · cases h
  cursors sql parameters s cursor h := by
    have hcursor : cursor = {} := by
      unfold failing at h
      split at h
      · cases h
      · cases h
      · simp only at h
        split at h
        · cases h
        · exact (Except.ok.inj h).symm
      · exact (Except.ok.inj h).symm
    rw [hcursor]
    exact ⟨rfl, fun hcolumns => nomatch hcolumns⟩
  releases s e h := by cases h

/-- A failed rollback after a failed commit keeps the fault of committing nowhere. -/
theorem not_keepsBoth_failing :
    (failing true).IsRegular ∧ ∃ f,
      (((failing true).runner {} false).runScript "CREATE TABLE t (a)" [] { outside := () }).1 =
        .error (.failure f) ∧
      f.kind = .rollback ∧ ¬ ∃ site fault reply, KeepsBoth site fault reply f := by
  have hparse : parseScript "CREATE TABLE t (a)" = [⟨0, "CREATE TABLE t (a)", 0⟩] := by
    decide +kernel
  have hscript : parseScript "CREATE TABLE t (a)" ≠ [] := by
    rw [hparse]
    exact List.cons_ne_nil _ _
  have hbreaks : (failing true).Breaks () (dealt [⟨0, "CREATE TABLE t (a)", 0⟩] []) .committing
      (.of (.database .operational) "disk full") () :=
    .committing (List.cons_ne_nil _ _) rfl rfl rfl
  have hresult := result_session_of_committing (isRegular_failing true) hbreaks rfl
  rw [← hparse] at hresult
  refine ⟨isRegular_failing true, _,
    runScript_of_session {} hscript (w := { outside := () }) hresult, rfl, ?_⟩
  rintro ⟨site, fault, reply, -, g, hg, htells⟩
  obtain rfl := Fault.failure.inj (Option.some.inj hg)
  cases htells.cause

end Responder

end SqlScript
