import SqlScript.Proofs.Serialization
import Mathlib.Data.List.Forall2

/-!
# Snapshots are copies

What is read of a cursor is a copy of what it delivers: every row, in order, and in it the value of
every label that has a cell, which needs its connection no more. A label that stands twice has its
first place and the value of its last cell. If a row is not delivered or a cell cannot be
normalized, there is no snapshot at all, and the first fault in reading order is reported.

* `Row.IsLast`, `Row.IsLast.concat`: the last column under a label.
* `Row.IsCopyOf`, `Row.IsCopyOf.put`, `Row.IsCopyOf.addCells`: a copy of a row, cell by cell.
* `Cursor.IsReadable`, `Cursor.FailsWith`: cursors that can be read to their end, and the fault that
  reading raises first.
* `Row.addCells_eq_error_iff`, `mapM_ofCells_eq_error_iff`: rows fail as their cells do, in order.
* `Snapshot.IsCopyOf`, `Snapshot.isCopyOf_of_read`: a copy of what a cursor delivers.
* `Snapshot.materialize_copies`: **reading is complete and faithful**, and the cursor is closed once
  whatever happens.
-/

namespace SqlScript

/-! ## Copies of rows -/

namespace Row

/-- **The last cell under a label**, among the first `n` columns, stands at place `i`. -/
structure IsLast (labels : List String) (n : Nat) (label : String) (i : Nat) : Prop where
  inside : i < n
  here : labels[i]? = some label
  last : ∀ j, i < j → j < n → labels[j]? ≠ some label

/-- **A copy of a row** with the given cells. Labels without a cell and cells without a label are
left out; the other labels stand once each, in the order in which they come first, each with the
normalized value of its last cell. -/
structure IsCopyOf (labels : List String) (cells : List Value) (row : Row) : Prop where
  keys : row.map (·.1) = (labels.take (min labels.length cells.length)).eraseDups
  distinct : (row.map (·.1)).Nodup
  values : ∀ label value, (label, value) ∈ row →
    ∃ i cell, IsLast labels (min labels.length cells.length) label i ∧ cells[i]? = some cell ∧
      cell.normalize = .ok value

/-- Where no label stands twice, a row is told by looking up its labels. -/
theorem mem_iff_get? {row : Row} (h : (row.map (·.1)).Nodup) (label : String) (value : Value) :
    (label, value) ∈ row ↔ row.get? label = some value := by
  induction row with
  | nil => simp [get?]
  | cons entry rest ih =>
    obtain ⟨l, v⟩ := entry
    rw [List.map_cons, List.nodup_cons] at h
    rw [get?_cons, List.mem_cons]
    by_cases hl : l = label
    · have hnone : (label, value) ∉ rest :=
        fun hrest => h.1 (List.mem_map.2 ⟨_, hrest, hl.symm⟩)
      simp [hl, hnone, eq_comm]
    · simp [hl, Ne.symm hl, ih h.2]

/-- Setting a value puts no label there twice. -/
theorem nodup_keys_put {row : Row} (h : (row.map (·.1)).Nodup) (label : String) (value : Value) :
    ((row.put label value).map (·.1)).Nodup := by
  rw [keys_put]
  by_cases hmem : label ∈ row.map (·.1)
  · rw [if_pos hmem]
    exact h
  · rw [if_neg hmem]
    exact List.nodup_append.2 ⟨h, List.pairwise_singleton _ label,
      fun a ha b hb hab => hmem (List.mem_singleton.1 hb ▸ hab ▸ ha)⟩

section

variable {labels : List String} {cells : List Value} {row : Row}

theorem isCopyOf_nil : IsCopyOf [] [] [] := ⟨rfl, List.nodup_nil, fun _ _ h => nomatch h⟩

/-- The last column is the last one under its label. -/
theorem isLast_concat (labels : List String) (label : String) :
    IsLast (labels ++ [label]) (labels.length + 1) label labels.length := by
  refine ⟨Nat.lt_succ_self _, List.getElem?_concat_length, ?_⟩
  intro j hj hj'
  omega

/-- Columns that are not looked at change nothing. -/
theorem IsLast.append {n i : Nat} {label : String} (h : IsLast labels n label i)
    (hn : n ≤ labels.length) (labels' : List String) : IsLast (labels ++ labels') n label i := by
  have hlabels : ∀ j, j < n → (labels ++ labels')[j]? = labels[j]? := by
    intro j hj
    exact List.getElem?_append_left (Nat.lt_of_lt_of_le hj hn)
  refine ⟨h.inside, ?_, ?_⟩
  · rw [hlabels i h.inside]
    exact h.here
  · intro j hj hj'
    rw [hlabels j hj']
    exact h.last j hj hj'

/-- One more column under another label changes nothing. -/
theorem IsLast.concat {i : Nat} {label other : String} (h : IsLast labels labels.length other i)
    (hother : label ≠ other) : IsLast (labels ++ [label]) (labels.length + 1) other i := by
  have hwide := h.append (Nat.le_refl _) [label]
  refine ⟨Nat.lt_succ_of_lt h.inside, hwide.here, ?_⟩
  intro j hj hj'
  by_cases hold : j < labels.length
  · exact hwide.last j hj hold
  · have hend : j = labels.length := by omega
    rw [hend, List.getElem?_concat_length]
    exact fun heq => hother (Option.some.inj heq)

/-- **One more cell**, under one more label. -/
theorem IsCopyOf.put (h : IsCopyOf labels cells row) (hlength : labels.length = cells.length)
    {cell value : Value} (hcell : cell.normalize = .ok value) (label : String) :
    IsCopyOf (labels ++ [label]) (cells ++ [cell]) (row.put label value) := by
  have hold : min labels.length cells.length = labels.length := by omega
  have hnew : min (labels ++ [label]).length (cells ++ [cell]).length = labels.length + 1 := by
    rw [List.length_append, List.length_append, List.length_singleton, List.length_singleton]
    omega
  have hall : (labels ++ [label]).take (labels.length + 1) = labels ++ [label] :=
    List.take_of_length_le (by simp)
  have hdistinct := nodup_keys_put h.distinct label value
  refine ⟨?_, hdistinct, ?_⟩
  · have hkeys := h.keys
    rw [hold, List.take_length] at hkeys
    rw [hnew, hall, keys_put, List.eraseDups_append, hkeys]
    by_cases hmem : label ∈ labels
    · simp [hmem, List.removeAll, List.mem_eraseDups]
    · simp [hmem, List.removeAll, List.mem_eraseDups, List.eraseDups_cons]
  · intro other found hmem
    rw [mem_iff_get? hdistinct, get?_put] at hmem
    rw [hnew]
    by_cases hother : label = other
    · -- the new cell is the last one under its label
      rw [if_pos hother] at hmem
      refine ⟨labels.length, cell, hother ▸ isLast_concat labels label, ?_,
        Option.some.inj hmem ▸ hcell⟩
      rw [hlength]
      exact List.getElem?_concat_length
    · -- every other label keeps its cell
      rw [if_neg hother, ← mem_iff_get? h.distinct] at hmem
      obtain ⟨i, old, hi, hcells, hvalue⟩ := h.values other found hmem
      rw [hold] at hi
      refine ⟨i, old, hi.concat hother, ?_, hvalue⟩
      have hinside : i < cells.length := hlength ▸ hi.inside
      rw [List.getElem?_append_left hinside]
      exact hcells

/-- What has no partner is left out. -/
theorem IsCopyOf.append (h : IsCopyOf labels cells row) (hlength : labels.length = cells.length)
    {labels' : List String} {cells' : List Value} (hend : labels' = [] ∨ cells' = []) :
    IsCopyOf (labels ++ labels') (cells ++ cells') row := by
  have hmin : min (labels ++ labels').length (cells ++ cells').length =
      min labels.length cells.length := by
    rw [List.length_append, List.length_append]
    rcases hend with rfl | rfl
    · rw [List.length_nil]
      omega
    · rw [List.length_nil]
      omega
  have hinside : min labels.length cells.length ≤ labels.length := Nat.min_le_left _ _
  refine ⟨?_, h.distinct, ?_⟩
  · rw [hmin, List.take_append_of_le_length hinside]
    exact h.keys
  · intro label value hmem
    obtain ⟨i, cell, hi, hcell, hvalue⟩ := h.values label value hmem
    rw [hmin]
    refine ⟨i, cell, hi.append hinside labels', ?_, hvalue⟩
    have hcells : i < cells.length := by
      have := hi.inside
      omega
    rw [List.getElem?_append_left hcells]
    exact hcell

/-- **Adding cells keeps a row a copy**, of the cells that were added before and of these. -/
theorem IsCopyOf.addCells (h : IsCopyOf labels cells row) (hlength : labels.length = cells.length)
    {labels' : List String} {cells' : List Value} {row' : Row}
    (hadd : row.addCells labels' cells' = .ok row') :
    IsCopyOf (labels ++ labels') (cells ++ cells') row' := by
  induction labels' generalizing labels cells cells' row with
  | nil =>
    rw [show row.addCells [] cells' = .ok row by cases cells' <;> rfl] at hadd
    exact Except.ok.inj hadd ▸ h.append hlength (.inl rfl)
  | cons label labels' ih =>
    cases cells' with
    | nil => exact Except.ok.inj hadd ▸ h.append hlength (.inr rfl)
    | cons cell cells' =>
      rw [Row.addCells] at hadd
      cases hcell : cell.normalize with
      | error e =>
        rw [hcell] at hadd
        cases hadd
      | ok value =>
        rw [hcell] at hadd
        have hmore := ih (h.put hlength hcell label)
          (by rw [List.length_append, List.length_append, hlength]; rfl) hadd
        rwa [List.append_assoc, List.append_assoc] at hmore

/-- **A row that is made of cells is a copy of them.** -/
theorem isCopyOf_ofCells (h : ofCells labels cells = .ok row) : IsCopyOf labels cells row :=
  isCopyOf_nil.addCells rfl h

/-- A copy of a row with a cell under its first label has a value for that label. -/
theorem IsCopyOf.exists_first {label : String} {cell : Value}
    (h : IsCopyOf (label :: labels) (cell :: cells) row) :
    ∃ value, (label, value) ∈ row ∧ row.get? label = some value := by
  have hmin : min (label :: labels).length (cell :: cells).length =
      min labels.length cells.length + 1 := by
    rw [List.length_cons, List.length_cons]
    omega
  have hmem : label ∈ row.map (·.1) := by
    rw [h.keys, hmin, List.take_succ_cons, List.mem_eraseDups]
    exact List.mem_cons_self
  obtain ⟨⟨_, value⟩, hentry, rfl⟩ := List.mem_map.1 hmem
  exact ⟨value, hentry, (mem_iff_get? h.distinct _ _).1 hentry⟩

/-- The values of a copy need the connection no more. -/
theorem IsCopyOf.normalized (h : IsCopyOf labels cells row) {entry : String × Value}
    (hentry : entry ∈ row) : entry.2.normalize = .ok entry.2 := by
  obtain ⟨i, cell, -, -, hcell⟩ := h.values entry.1 entry.2 hentry
  exact Value.normalize_of_normalize hcell

end

end Row

/-! ## Rows that fail -/

section Steps

variable {ε α β : Type} {x : Except ε α} {e : ε}

/-- Of two steps, one fails, and the second one only behind a first one that does not. -/
theorem bind_eq_error_iff {f : α → Except ε β} :
    x >>= f = .error e ↔ x = .error e ∨ ∃ a, x = .ok a ∧ f a = .error e := by
  cases x with
  | error e' => simp [bind, Except.bind]
  | ok a => simp [bind, Except.bind]

/-- A last step that does not fail. -/
theorem bind_pure_eq_error_iff {g : α → β} :
    (x >>= fun a => pure (g a)) = .error e ↔ x = .error e := by
  rw [bind_eq_error_iff]
  exact or_iff_left fun ⟨_, _, h⟩ => nomatch h

theorem exists_eq_ok_iff : (∃ a, x = .ok a) ↔ ∀ e, x ≠ .error e := by
  cases x with
  | error e' => simp
  | ok a => simp

/-- A list of results goes item by item with what they are the results of. -/
theorem forall₂_of_mapM_eq_ok {f : α → Except ε β} {xs : List α} {ys : List β}
    (h : xs.mapM f = .ok ys) : List.Forall₂ (fun x y => f x = .ok y) xs ys := by
  induction xs generalizing ys with
  | nil =>
    obtain rfl := Except.ok.inj h
    exact .nil
  | cons x xs ih =>
    rw [List.mapM_cons] at h
    cases hx : f x with
    | error e =>
      rw [hx] at h
      cases h
    | ok y =>
      cases hrest : xs.mapM f with
      | error e =>
        rw [hx, hrest] at h
        cases h
      | ok rest =>
        rw [hx, hrest] at h
        obtain rfl := Except.ok.inj h
        exact .cons hx (ih hrest)

end Steps

/-- **A row fails as its cells do**, one after the other: with the fault of the first one under a
label that cannot be normalized. -/
theorem Row.addCells_eq_error_iff {row : Row} {labels : List String} {cells : List Value}
    {e : Fault} : row.addCells labels cells = .error e ↔
      (cells.take labels.length).mapM Value.normalize = .error e := by
  induction labels generalizing row cells with
  | nil =>
    rw [show row.addCells [] cells = .ok row by cases cells <;> rfl]
    exact iff_of_false nofun nofun
  | cons label labels ih =>
    cases cells with
    | nil => exact iff_of_false nofun nofun
    | cons cell cells =>
      rw [addCells, List.length_cons, List.take_succ_cons, List.mapM_cons, bind_eq_error_iff,
        bind_eq_error_iff]
      simp only [ih, bind_pure_eq_error_iff]

/-- **Rows fail as their cells do**, one row after the other. -/
theorem mapM_ofCells_eq_error_iff {labels : List String} {rows : List (List Value)} {e : Fault} :
    rows.mapM (Row.ofCells labels) = .error e ↔
      (rows.flatMap (·.take labels.length)).mapM Value.normalize = .error e := by
  induction rows with
  | nil => exact iff_of_false nofun nofun
  | cons cells rows ih =>
    have hfirst : ∀ e, Row.ofCells labels cells = .error e ↔
        (cells.take labels.length).mapM Value.normalize = .error e :=
      fun _ => Row.addCells_eq_error_iff
    have hgoesOn : (∃ row, Row.ofCells labels cells = .ok row) ↔
        ∃ values, (cells.take labels.length).mapM Value.normalize = .ok values := by
      rw [exists_eq_ok_iff, exists_eq_ok_iff]
      exact forall_congr' fun e => not_congr (hfirst e)
    rw [List.mapM_cons, List.flatMap_cons, List.mapM_append, bind_eq_error_iff, bind_eq_error_iff]
    simp only [bind_pure_eq_error_iff, hfirst, ih, exists_and_right, hgoesOn]

/-! ## Cursors -/

/-- A cell that can be normalized. -/
def Value.IsNormalizable (v : Value) : Prop := ∃ w, v.normalize = .ok w

namespace Cursor

/-- The labels of the columns as texts, in order and with repetitions. -/
def labels (cursor : Cursor) : List String := (cursor.columns.getD []).map Value.display

/-- **The cells that are looked at**, in reading order: in each delivered row, those under a
label. -/
def inspected (cursor : Cursor) : List Value :=
  cursor.rows.flatMap (·.take cursor.labels.length)

/-- **A cursor that can be read to its end**: all rows are delivered, and every cell that is looked
at can be normalized. -/
structure IsReadable (cursor : Cursor) : Prop where
  delivered : cursor.readFault = none
  normalizable : ∀ cell ∈ cursor.inspected, cell.IsNormalizable

/-- **The fault that reading a cursor meets first.** -/
inductive FailsWith (cursor : Cursor) : Fault → Prop
  /-- A cell cannot be normalized, and all before it can. -/
  | normalizing {before behind : List Value} {cell : Value} {e : Fault} :
      cursor.inspected = before ++ cell :: behind → (∀ c ∈ before, c.IsNormalizable) →
      cell.normalize = .error e → FailsWith cursor e
  /-- Behind the delivered rows, whose cells can be normalized, delivery fails. -/
  | delivering {e : Fault} : (∀ c ∈ cursor.inspected, c.IsNormalizable) →
      cursor.readFault = some e → FailsWith cursor e

/-- Reading the rows fails as normalizing the cells that are looked at does. -/
theorem mapM_rows_eq_error_iff {cursor : Cursor} {e : Fault} :
    cursor.rows.mapM (Row.ofCells cursor.labels) = .error e ↔
      cursor.inspected.mapM Value.normalize = .error e := mapM_ofCells_eq_error_iff

end Cursor

/-- Cells that are normalized one after the other fail at the first one that cannot be. -/
theorem mapM_normalize_eq_error {cells : List Value} {e : Fault}
    (h : cells.mapM Value.normalize = .error e) :
    ∃ before cell behind, cells = before ++ cell :: behind ∧ (∀ c ∈ before, c.IsNormalizable) ∧
      cell.normalize = .error e := by
  induction cells with
  | nil => cases h
  | cons cell cells ih =>
    rw [List.mapM_cons, bind_eq_error_iff] at h
    rcases h with h | ⟨value, hvalue, h⟩
    · exact ⟨[], cell, cells, rfl, fun _ hc => absurd hc List.not_mem_nil, h⟩
    · obtain ⟨before, failing, behind, hcells, hbefore, hfails⟩ := ih (bind_pure_eq_error_iff.1 h)
      refine ⟨cell :: before, failing, behind, by rw [hcells]; rfl, ?_, hfails⟩
      intro c hc
      rcases List.mem_cons.1 hc with rfl | hc
      · exact ⟨value, hvalue⟩
      · exact hbefore c hc

theorem normalizable_of_mapM {cells : List Value}
    (h : ∀ e, cells.mapM Value.normalize ≠ .error e) : ∀ c ∈ cells, c.IsNormalizable := by
  obtain ⟨values, hvalues⟩ := exists_eq_ok_iff.2 h
  obtain ⟨hlength, hitems⟩ := List.forall₂_iff_get.1 (forall₂_of_mapM_eq_ok hvalues)
  intro c hc
  obtain ⟨i, hi, rfl⟩ := List.mem_iff_getElem.1 hc
  exact ⟨_, hitems i hi (hlength ▸ hi)⟩

theorem mapM_normalize_of_first {before behind : List Value} {cell : Value} {e : Fault}
    (hbefore : ∀ c ∈ before, c.IsNormalizable) (hcell : cell.normalize = .error e) :
    (before ++ cell :: behind).mapM Value.normalize = .error e := by
  obtain ⟨values, hvalues⟩ := exists_mapM_eq_ok hbefore
  rw [List.mapM_append, List.mapM_cons, hvalues, hcell]
  rfl

namespace Snapshot

/-! ## Snapshots -/

/-- **A copy of what a cursor delivers**: its labels, and of each of its rows a copy, in order. No
value needs the connection any more, and what is handed out of the snapshot are these rows. -/
structure IsCopyOf (cursor : Cursor) (s : Snapshot) : Prop where
  columns : s.columns = cursor.labels
  rows : List.Forall₂ (Row.IsCopyOf cursor.labels) cursor.rows s.rows
  normalized : ∀ row ∈ s.rows, ∀ entry ∈ row, entry.2.normalize = .ok entry.2
  toList : s.toList = s.rows
  first : s.first? = s.rows.head?
  /-- The scalar of a first row with a cell is the value of its last cell under the first label. -/
  scalar : ∀ label cells, cursor.labels.head? = some label → cursor.rows.head? = some cells →
    cells ≠ [] → ∃ i cell value,
      Row.IsLast cursor.labels (min cursor.labels.length cells.length) label i ∧
      cells[i]? = some cell ∧ cell.normalize = .ok value ∧ s.scalar = .ok value

section

variable {cursor : Cursor} {s : Snapshot} {e : Fault}

/-- The rows are read first; then reading fails if there is something left that is not
delivered. -/
theorem read_eq (cursor : Cursor) :
    read cursor = cursor.rows.mapM (Row.ofCells cursor.labels) >>= fun rows =>
      cursor.readFault.elim (.ok ⟨cursor.labels, rows⟩) .error := by
  unfold read
  cases cursor.readFault with
  | none => rfl
  | some e => rfl

/-- **A fault of reading is the first one that is met.** -/
theorem read_eq_error_iff : read cursor = .error e ↔ cursor.FailsWith e := by
  rw [read_eq, bind_eq_error_iff, Cursor.mapM_rows_eq_error_iff]
  constructor
  · rintro (hcells | ⟨rows, hrows, hfault⟩)
    · obtain ⟨before, cell, behind, hcells, hbefore, hfails⟩ := mapM_normalize_eq_error hcells
      exact .normalizing hcells hbefore hfails
    · have hcells : ∀ e, cursor.inspected.mapM Value.normalize ≠ .error e := by
        intro e he
        rw [Cursor.mapM_rows_eq_error_iff.2 he] at hrows
        cases hrows
      cases hreadFault : cursor.readFault with
      | none =>
        rw [hreadFault] at hfault
        cases hfault
      | some e' =>
        rw [hreadFault] at hfault
        obtain rfl := Except.error.inj hfault
        exact .delivering (normalizable_of_mapM hcells) hreadFault
  · rintro (⟨hcells, hbefore, hfails⟩ | ⟨hcells, hfault⟩)
    · rw [hcells]
      exact .inl (mapM_normalize_of_first hbefore hfails)
    · have hrows : ∃ rows, cursor.rows.mapM (Row.ofCells cursor.labels) = .ok rows := by
        obtain ⟨values, hvalues⟩ := exists_mapM_eq_ok hcells
        rw [exists_eq_ok_iff]
        intro e he
        rw [Cursor.mapM_rows_eq_error_iff, hvalues] at he
        cases he
      obtain ⟨rows, hrows⟩ := hrows
      exact .inr ⟨rows, hrows, by rw [hfault]; rfl⟩

/-- **A cursor can be read to its end or fails.** -/
theorem isReadable_iff : cursor.IsReadable ↔ ∀ e, ¬ cursor.FailsWith e := by
  constructor
  · intro h e he
    cases he with
    | @normalizing before behind cell e hcells hbefore hfails =>
      have hmem : cell ∈ cursor.inspected := hcells ▸ List.mem_append_right _ List.mem_cons_self
      obtain ⟨value, hvalue⟩ := h.normalizable cell hmem
      rw [hvalue] at hfails
      cases hfails
    | delivering hcells hfault =>
      rw [h.delivered] at hfault
      cases hfault
  · intro h
    have hcells : ∀ cell ∈ cursor.inspected, cell.IsNormalizable := by
      refine normalizable_of_mapM fun e he => ?_
      obtain ⟨before, cell, behind, hcells, hbefore, hfails⟩ := mapM_normalize_eq_error he
      exact h e (.normalizing hcells hbefore hfails)
    refine ⟨?_, hcells⟩
    cases hfault : cursor.readFault with
    | none => rfl
    | some e => exact absurd (.delivering hcells hfault) (h e)

/-- What is read of a cursor are its labels, and the rows that its cells make. -/
theorem of_read_ok (h : read cursor = .ok s) :
    s.columns = cursor.labels ∧
      List.Forall₂ (fun cells row => Row.ofCells cursor.labels cells = .ok row) cursor.rows
        s.rows := by
  rw [read_eq] at h
  cases hrows : cursor.rows.mapM (Row.ofCells cursor.labels) with
  | error e =>
    rw [hrows] at h
    cases h
  | ok rows =>
    cases hfault : cursor.readFault with
    | some e =>
      rw [hrows, hfault] at h
      cases h
    | none =>
      rw [hrows, hfault] at h
      obtain rfl := Except.ok.inj h
      exact ⟨rfl, forall₂_of_mapM_eq_ok hrows⟩

/-- **What is read of a cursor is a copy of what it delivers.** -/
theorem isCopyOf_of_read (h : read cursor = .ok s) : s.IsCopyOf cursor := by
  obtain ⟨hcolumns, hrows⟩ := of_read_ok h
  have hcopies : List.Forall₂ (Row.IsCopyOf cursor.labels) cursor.rows s.rows :=
    hrows.imp fun _ _ hrow => Row.isCopyOf_ofCells hrow
  refine ⟨hcolumns, hcopies, ?_, rfl, rfl, ?_⟩
  · intro row hrow entry hentry
    obtain ⟨hlength, hitems⟩ := List.forall₂_iff_get.1 hcopies
    obtain ⟨i, hi, rfl⟩ := List.mem_iff_getElem.1 hrow
    exact (hitems i (hlength.symm ▸ hi) hi).normalized hentry
  · intro label cells hlabel hcells hsome
    obtain ⟨labels, hlabels⟩ := List.head?_eq_some_iff.1 hlabel
    obtain ⟨rest, hrest⟩ := List.head?_eq_some_iff.1 hcells
    obtain ⟨cell, more, rfl⟩ := List.exists_cons_of_ne_nil hsome
    rw [hrest] at hcopies
    obtain ⟨row, rows, hrow, -, hs⟩ := List.forall₂_cons_left_iff.1 hcopies
    obtain ⟨value, hentry, hget⟩ := (hlabels ▸ hrow).exists_first
    obtain ⟨i, last, hi, hlast, hvalue⟩ := hrow.values label value hentry
    refine ⟨i, last, value, hi, hlast, hvalue, ?_⟩
    rw [scalar, hs, hcolumns, hlabels]
    simp only [hget]

/-- **A cursor that can be read to its end gives a snapshot.** -/
theorem exists_read (h : cursor.IsReadable) : ∃ s, read cursor = .ok s := by
  rw [exists_eq_ok_iff]
  intro e he
  exact isReadable_iff.1 h e (read_eq_error_iff.1 he)

theorem isReadable_or_failsWith (cursor : Cursor) :
    cursor.IsReadable ∨ ∃ e, cursor.FailsWith e := by
  by_cases h : ∃ e, cursor.FailsWith e
  · exact .inr h
  · exact .inl (isReadable_iff.2 fun e he => h ⟨e, he⟩)

/-! ## Reading and closing -/

variable {κ τ : Type} {close : Cursor → Action (World κ τ) Unit} {w w' : World κ τ}
  {index : Option Int}

/-- A fault of closing is raised, whatever was read. -/
theorem materialize_of_close_error (hclose : close cursor w = (.error e, w')) :
    materialize close cursor index w = (.error e, w') := by
  unfold materialize
  refine Action.bind_of_error ?_
  unfold Action.ensure Action.reporting Action.ofExcept
  cases read cursor with
  | ok s => simp only [hclose]
  | error e => simp only [hclose]

/-- A fault of reading is reported once the cursor is closed. -/
theorem materialize_of_failsWith (hclose : close cursor w = (.ok (), w'))
    (h : cursor.FailsWith e) :
    materialize close cursor index w =
      (.error (if e.isOrdinary then .failure (Failure.materializationFailed index e) else e),
        w') := by
  unfold materialize
  refine Action.bind_of_error ?_
  unfold Action.ensure Action.reporting Action.ofExcept
  simp only [read_eq_error_iff.2 h, hclose]

/-- What is read is handed out once the cursor is closed. -/
theorem materialize_of_read (hclose : close cursor w = (.ok (), w')) (h : read cursor = .ok s) :
    ∃ message, materialize close cursor index w =
      (.ok s, { w' with log := w'.log ++ [⟨.debug, message⟩] }) := by
  have hensure : Action.ensure (Action.reporting (Failure.materializationFailed index)
      (Action.ofExcept (read cursor))) (close cursor) w = (.ok s, w') := by
    unfold Action.ensure Action.reporting Action.ofExcept
    simp only [h, hclose]
  unfold materialize
  exact ⟨_, (Action.bind_of_ok hensure).trans rfl⟩

end

/-- **Reading is complete and faithful.** Every cursor can be read to its end or fails, whatever its
labels and rows are. If it can be read and closed, there is a snapshot, and that is a copy of what
the cursor delivers. If it fails, there is none, whatever closing does: an ordinary fault is
reported for the statement, with the fault as its cause, and any other one goes on as it is, if
closing raises nothing. What closing raises is raised in any case. The world is left as closing the
cursor once leaves it, but for the log. -/
theorem materialize_copies {κ τ : Type} (close : Cursor → Action (World κ τ) Unit)
    (cursor : Cursor) (index : Option Int) (w : World κ τ) :
    let closed := close cursor w
    let made := materialize close cursor index w
    (cursor.IsReadable ∨ ∃ e, cursor.FailsWith e) ∧
      (cursor.IsReadable → closed.1 = .ok () → ∃ s, made.1 = .ok s ∧ s.IsCopyOf cursor) ∧
      (∀ e, cursor.FailsWith e → (∀ s, made.1 ≠ .ok s) ∧ (closed.1 = .ok () → made.1 = .error
        (if e.isOrdinary then .failure (Failure.materializationFailed index e) else e))) ∧
      (∀ e, closed.1 = .error e → made.1 = .error e) ∧
      ∃ entries, made.2 = { closed.2 with log := closed.2.log ++ entries } ∧
        ∀ entry ∈ entries, entry.level = .debug := by
  intro closed made
  refine ⟨isReadable_or_failsWith cursor, ?_⟩
  obtain ⟨result, w', hclose⟩ : ∃ result w', close cursor w = (result, w') := ⟨_, _, rfl⟩
  have hclosed : closed = (result, w') := hclose
  rw [hclosed]
  cases result with
  | error e =>
    have hmade : made = (.error e, w') := materialize_of_close_error hclose
    rw [hmade]
    refine ⟨fun _ h => (nomatch h), fun _ _ => ⟨fun _ h => (nomatch h), fun h => (nomatch h)⟩,
      fun _ h => congrArg Except.error (Except.error.inj h), [], ?_,
      fun _ h => absurd h List.not_mem_nil⟩
    rw [List.append_nil]
  | ok done =>
    have hdelivered : ∀ s, read cursor = .ok s → ∃ message,
        made = (.ok s, { w' with log := w'.log ++ [⟨.debug, message⟩] }) :=
      fun _ => materialize_of_read hclose
    -- closing raised nothing, so it is up to reading
    refine ⟨fun h _ => ?_, fun e he => ?_, fun _ h => (nomatch h), ?_⟩
    · obtain ⟨s, hs⟩ := exists_read h
      obtain ⟨message, hmade⟩ := hdelivered s hs
      exact ⟨s, congrArg Prod.fst hmade, isCopyOf_of_read hs⟩
    · have hmade : made.1 = _ := congrArg Prod.fst (materialize_of_failsWith hclose he)
      rw [hmade]
      exact ⟨fun _ h => (nomatch h), fun _ => rfl⟩
    · rcases isReadable_or_failsWith cursor with h | ⟨e, he⟩
      · obtain ⟨s, hs⟩ := exists_read h
        obtain ⟨message, hmade⟩ := hdelivered s hs
        refine ⟨[⟨.debug, message⟩], congrArg Prod.snd hmade, ?_⟩
        intro entry hentry
        rw [List.mem_singleton.1 hentry]
      · refine ⟨[], ?_, fun _ h => absurd h List.not_mem_nil⟩
        rw [List.append_nil]
        exact congrArg Prod.snd (materialize_of_failsWith hclose he)

/-- Rows shorter and longer than labels of which one stands twice; and a handle that cannot be read,
behind another one that stands under no label and is left alone. -/
theorem materialize_copies_repeated :
    let labels : Option (List Value) := some [.text "a", .text "b", .text "a"]
    let delivered : Cursor := { columns := labels, rows :=
      [[.int 1, .bytes .view [7], .handle (.ok [8])], [.int 2], [.int 3, .null, .int 4, .int 5]] }
    let failing : Cursor := { columns := labels, rows :=
      [[.int 1, .null, .int 2, .handle (.error (.of .interrupt ""))],
        [.int 3, .handle (.error (.of .value "unread"))]] }
    let close : Cursor → Action (World Unit Unit) Unit := fun _ => pure ()
    let w : World Unit Unit := { outside := () }
    delivered.IsReadable ∧
      (∃ s, (materialize close delivered (some 4) w).1 = .ok s ∧ s.IsCopyOf delivered ∧ s.rows =
        [[("a", .bytes .plain [8]), ("b", .bytes .plain [7])], [("a", .int 2)],
          [("a", .int 4), ("b", .null)]]) ∧
      failing.FailsWith (.of .value "unread") ∧
      (materialize close failing (some 4) w).1 =
        .error (.failure (Failure.materializationFailed (some 4) (.of .value "unread"))) := by
  intro labels delivered failing close w
  have hdelivered : delivered.IsReadable := by
    refine ⟨rfl, ?_⟩
    change ∀ cell ∈ [Value.int 1, .bytes .view [7], .handle (.ok [8]), .int 2, .int 3, .null,
      .int 4], cell.IsNormalizable
    simp only [List.forall_mem_cons, Value.IsNormalizable, Value.normalize, Except.map]
    simp
  have hfailing : failing.FailsWith (.of .value "unread") := by
    refine @Cursor.FailsWith.normalizing _ [.int 1, .null, .int 2, .int 3] [] _ _ rfl ?_ rfl
    simp only [List.forall_mem_cons, Value.IsNormalizable, Value.normalize]
    simp
  obtain ⟨-, hok, -⟩ := materialize_copies close delivered (some 4) w
  obtain ⟨-, -, herror, -⟩ := materialize_copies close failing (some 4) w
  obtain ⟨s, hs, hcopy⟩ := hok hdelivered rfl
  refine ⟨hdelivered, ⟨s, hs, hcopy, ?_⟩, hfailing, (herror _ hfailing).2 rfl⟩
  have hmade : (materialize close delivered (some 4) w).1 = .ok ⟨["a", "b", "a"],
      [[("a", .bytes .plain [8]), ("b", .bytes .plain [7])], [("a", .int 2)],
        [("a", .int 4), ("b", .null)]]⟩ := rfl
  rw [Except.ok.inj (hs.symm.trans hmade)]

end Snapshot

end SqlScript
