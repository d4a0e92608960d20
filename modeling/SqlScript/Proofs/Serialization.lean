import SqlScript.Report

/-!
# Reports that have a JSON form

A report has a JSON form if its values have one: the parameters of its statements, and the values in
their rows. Values that arguments of the command line stand for always do; what a cursor delivers
does if its cells still do once they need their connection no more.

* `Value.HasJson`: values with a JSON form.
* `Value.hasJson_ofArgument`: the values of arguments have one.
* `Cursor.IsSerializable`: cursors that deliver such values.
* `ScriptReport.exists_toJson`: **a report of values with a JSON form has one.**
-/

namespace SqlScript

/-! ## Lists -/

section Lists

variable {α β ε : Type} {f : α → Except ε β} {xs : List α}

/-- What fails on no item does not fail on the list. -/
theorem exists_mapM_eq_ok (h : ∀ x ∈ xs, ∃ y, f x = .ok y) : ∃ ys, xs.mapM f = .ok ys := by
  induction xs with
  | nil => exact ⟨[], rfl⟩
  | cons x xs ih =>
    obtain ⟨y, hy⟩ := h x List.mem_cons_self
    obtain ⟨ys, hys⟩ := ih fun x hx => h x (List.mem_cons_of_mem _ hx)
    refine ⟨y :: ys, ?_⟩
    rw [List.mapM_cons, hy, hys]
    rfl

/-- Each result on a list is that of an item. -/
theorem exists_of_mem_mapM {ys : List β} (h : xs.mapM f = .ok ys) {y : β} (hy : y ∈ ys) :
    ∃ x ∈ xs, f x = .ok y := by
  induction xs generalizing ys with
  | nil =>
    obtain rfl := Except.ok.inj h
    cases hy
  | cons x xs ih =>
    rw [List.mapM_cons] at h
    cases hx : f x with
    | error e =>
      rw [hx] at h
      cases h
    | ok first =>
      cases hrest : xs.mapM f with
      | error e =>
        rw [hx, hrest] at h
        cases h
      | ok rest =>
        rw [hx, hrest] at h
        obtain rfl := Except.ok.inj h
        rcases List.mem_cons.1 hy with rfl | hy
        · exact ⟨x, List.mem_cons_self, hx⟩
        · obtain ⟨x', hmem, hx'⟩ := ih hrest hy
          exact ⟨x', List.mem_cons_of_mem _ hmem, hx'⟩

end Lists

/-! ## Values -/

namespace Value

/-- **A value with a JSON form.** -/
def HasJson (v : Value) : Prop := ∃ j, v.toJson = .ok j

/-- **The values of arguments have a JSON form.** -/
theorem hasJson_ofArgument {raw : String} {v : Value} (h : ofArgument raw = .ok v) : v.HasJson := by
  unfold ofArgument at h
  split at h <;> cases h <;> exact ⟨_, by unfold toJson toJsonWithin; rfl⟩

end Value

/-- A row whose values have a JSON form. -/
def Row.HasJson (row : Row) : Prop := ∀ cell ∈ row, cell.2.HasJson

theorem Row.exists_toJson {row : Row} (h : row.HasJson) : ∃ j, row.toJson = .ok j := by
  let fieldOf : String × Value → Except Value.JsonError (String × Json) := fun cell => do
    return (String.ofList (Text.replaceSurrogates cell.1.toList), ← cell.2.toJson)
  have hfields : ∃ fields, row.mapM fieldOf = .ok fields := by
    refine exists_mapM_eq_ok fun cell hcell => ?_
    obtain ⟨j, hj⟩ := h cell hcell
    refine ⟨(String.ofList (Text.replaceSurrogates cell.1.toList), j), ?_⟩
    simp only [fieldOf, hj]
    rfl
  obtain ⟨fields, hfields⟩ := hfields
  unfold toJson
  change ∃ j, (row.mapM fieldOf >>= _) = _
  rw [hfields]
  exact ⟨_, rfl⟩

theorem Row.HasJson.put {row : Row} (h : row.HasJson) (label : String) {value : Value}
    (hvalue : value.HasJson) : (row.put label value).HasJson := by
  induction row with
  | nil =>
    intro cell hcell
    rw [List.mem_singleton.1 hcell]
    exact hvalue
  | cons first rest ih =>
    obtain ⟨l, v⟩ := first
    have hrest : Row.HasJson rest := fun cell hcell => h cell (List.mem_cons_of_mem _ hcell)
    intro cell hcell
    rw [Row.put] at hcell
    split at hcell
    · rcases List.mem_cons.1 hcell with rfl | hcell
      · exact hvalue
      · exact hrest cell hcell
    · rcases List.mem_cons.1 hcell with rfl | hcell
      · exact h _ List.mem_cons_self
      · exact ih hrest cell hcell

/-! ## Cursors -/

/-- **A cursor that delivers values with a JSON form**: those that its cells become when they need
their connection no more. -/
def Cursor.IsSerializable (cursor : Cursor) : Prop :=
  ∀ cells ∈ cursor.rows, ∀ cell ∈ cells, ∀ v, cell.normalize = .ok v → v.HasJson

/-- A snapshot whose rows have a JSON form. -/
def Snapshot.HasJson (s : Snapshot) : Prop := ∀ row ∈ s.rows, row.HasJson

theorem Row.HasJson.addCells {row row' : Row} (h : row.HasJson) {labels : List String}
    {cells : List Value} (hcells : ∀ cell ∈ cells, ∀ v, cell.normalize = .ok v → v.HasJson)
    (hadd : row.addCells labels cells = .ok row') : row'.HasJson := by
  induction labels generalizing row cells with
  | nil =>
    rw [show row.addCells [] cells = .ok row by cases cells <;> rfl] at hadd
    exact Except.ok.inj hadd ▸ h
  | cons label labels ih =>
    cases cells with
    | nil => exact Except.ok.inj hadd ▸ h
    | cons cell cells =>
      rw [Row.addCells] at hadd
      cases hv : cell.normalize with
      | error e =>
        rw [hv] at hadd
        cases hadd
      | ok v =>
        rw [hv] at hadd
        exact ih (h.put label (hcells cell List.mem_cons_self v hv))
          (fun c hc => hcells c (List.mem_cons_of_mem _ hc)) hadd

/-- What is read of a cursor that delivers values with a JSON form has one. -/
theorem Snapshot.hasJson_of_read {cursor : Cursor} (h : cursor.IsSerializable) {s : Snapshot}
    (hread : Snapshot.read cursor = .ok s) : s.HasJson := by
  unfold Snapshot.read at hread
  extract_lets columns at hread
  cases hrows : cursor.rows.mapM (Row.ofCells columns) with
  | error e =>
    rw [hrows] at hread
    cases hread
  | ok rows =>
    rw [hrows] at hread
    cases hfault : cursor.readFault with
    | some e =>
      rw [hfault] at hread
      cases hread
    | none =>
      rw [hfault] at hread
      obtain rfl := Except.ok.inj hread
      intro row hrow
      obtain ⟨cells, hcells, hrow⟩ := exists_of_mem_mapM hrows hrow
      have hnone : Row.HasJson [] := nofun
      exact hnone.addCells (h cells hcells) hrow

/-! ## Reports -/

/-- **A report on a statement whose values have a JSON form.** -/
structure StatementReport.IsSerializable (s : StatementReport) : Prop where
  parameters : ∀ v ∈ s.parameters, v.HasJson
  rows : ∀ snapshot, s.outcome = some snapshot → snapshot.HasJson

theorem StatementReport.exists_toJson {s : StatementReport} (h : s.IsSerializable) :
    ∃ j, s.toJson = .ok j := by
  obtain ⟨parameters, hparameters⟩ := exists_mapM_eq_ok h.parameters
  unfold StatementReport.toJson StatementReport.rows
  rw [hparameters]
  cases houtcome : s.outcome with
  | none => exact ⟨_, rfl⟩
  | some snapshot =>
    obtain ⟨rows, hrows⟩ := exists_mapM_eq_ok fun row hrow =>
      Row.exists_toJson (h.rows snapshot houtcome row hrow)
    simp only [Option.map_some, hrows]
    exact ⟨_, rfl⟩

/-- A report whose values have a JSON form. -/
def ScriptReport.IsSerializable (r : ScriptReport) : Prop :=
  ∀ s ∈ r.statements, s.IsSerializable

/-- **A report of values with a JSON form has one.** -/
theorem ScriptReport.exists_toJson {r : ScriptReport} (h : r.IsSerializable) :
    ∃ j, r.toJson = .ok j := by
  obtain ⟨statements, hstatements⟩ := exists_mapM_eq_ok fun s hs =>
    StatementReport.exists_toJson (h s hs)
  unfold ScriptReport.toJson ScriptReport.fields
  rw [hstatements]
  exact ⟨_, rfl⟩

section Reports

variable {units : List StatementUnit} {batches : List Batch}
  (hbatches : ∀ batch ∈ batches, ∀ v ∈ batch, v.HasJson)

include hbatches

/-- The report of a committed run has a JSON form if its parameters and its outcomes have one. -/
theorem ScriptReport.isSerializable_ofOutcomes {outcomes : List Outcome}
    (houtcomes : ∀ snapshot, some snapshot ∈ outcomes → snapshot.HasJson) (source : String)
    (count elapsed : Int) :
    (ScriptReport.ofOutcomes source units batches outcomes count elapsed).IsSerializable := by
  intro s hs
  obtain ⟨⟨⟨unit, batch⟩, outcome⟩, hitem, rfl⟩ := List.mem_map.1 hs
  obtain ⟨hzip, houtcome⟩ := List.of_mem_zip hitem
  exact ⟨hbatches batch (List.of_mem_zip hzip).2,
    fun snapshot h => houtcomes snapshot (h ▸ houtcome)⟩

/-- The report of a failed run has a JSON form if its parameters have one. -/
theorem ScriptReport.isSerializable_ofFailure (source : String) (f : Failure)
    (count elapsed : Int) :
    (ScriptReport.ofFailure source units batches f count elapsed).IsSerializable := by
  intro s hs
  obtain ⟨i, hi, rfl⟩ := List.mem_mapIdx.1 hs
  refine ⟨fun v hv => ?_, nofun⟩
  simp only [List.getD_eq_getElem?_getD] at hv
  cases hbatch : batches[i]? with
  | none =>
    rw [hbatch] at hv
    cases hv
  | some batch =>
    rw [hbatch] at hv
    exact hbatches batch (List.mem_of_getElem? hbatch) v hv

end Reports

end SqlScript
