import Mathlib.Data.Finset.Card
import Mathlib.Data.List.Sort
import SqlScript.Proofs.Placeholders
import SqlScript.Sqlite.Prepared

/-!
# Values at their positions

The values of a prepared statement are bound to positions, in any order, and sent as a list, in the
order of the positions that were bound. The list says nothing about the positions that were not: a
value stands at the position it was bound to only if all positions before it were bound as well.

* `Bindings.bindAll`, `Bindings.lastBound?`: values bound one after the other, and what stays.
* `Bindings.values_bindAll`: what is sent, by the positions that were bound.
* `Bindings.missing`, `Bindings.surplus`: positions without a value, and values without a position.
* `Bindings.length_values_bindAll_iff`: the list fits as soon as there are as many of the one as of
  the other.
* `Bindings.values_bindAll_getElem?_iff`: the values are at their positions exactly if there are
  none of either.
* `Sqlite.Prepared.execute_bindAll`: **what a driver gets** that goes by the length of the list.
-/

namespace SqlScript

namespace Bindings

/-! ## Bindings in order -/

/-- The positions are in increasing order. -/
def IsOrdered (b : Bindings) : Prop := b.positions.Pairwise (· < ·)

@[simp] theorem positions_cons (p : Int) (v : Value) (b : Bindings) :
    positions ((p, v) :: b) = p :: positions b := rfl

theorem mem_positions_bind {b : Bindings} {position : Int} {value : Value} {p : Int} :
    p ∈ (b.bind position value).positions ↔ p = position ∨ p ∈ b.positions := by
  induction b with
  | nil => simp [bind, positions]
  | cons e b ih =>
    obtain ⟨q, v⟩ := e
    rw [bind]
    split
    · simp
    · split
      · rename_i h
        subst h
        simp
      · simp only [positions_cons, List.mem_cons, ih]
        exact or_left_comm

theorem IsOrdered.bind {b : Bindings} (h : b.IsOrdered) (position : Int) (value : Value) :
    (b.bind position value).IsOrdered := by
  induction b with
  | nil => exact List.pairwise_singleton _ _
  | cons e b ih =>
    obtain ⟨q, v⟩ := e
    obtain ⟨hq, hb⟩ := List.pairwise_cons.1 h
    rw [Bindings.bind]
    split
    · rename_i hlt
      refine List.pairwise_cons.2 ⟨fun p hp => ?_, h⟩
      rcases List.mem_cons.1 hp with rfl | hp
      · exact hlt
      · exact hlt.trans (hq p hp)
    · rename_i hle
      split
      · rename_i heq
        subst heq
        exact List.pairwise_cons.2 ⟨hq, hb⟩
      · rename_i hne
        refine List.pairwise_cons.2 ⟨fun p hp => ?_, ih hb⟩
        rcases mem_positions_bind.1 hp with rfl | hp
        · exact lt_of_le_of_ne (not_lt.1 hle) (Ne.symm hne)
        · exact hq p hp

/-- **The values in order are those of the positions in order**, if no position comes twice. -/
theorem map_some_values {b : Bindings} (h : b.IsOrdered) :
    b.values.map some = b.positions.map b.get? := by
  induction b with
  | nil => rfl
  | cons e b ih =>
    obtain ⟨q, v⟩ := e
    obtain ⟨hq, hb⟩ := List.pairwise_cons.1 h
    have htail : (positions b).map (get? b) = (positions b).map (get? ((q, v) :: b)) :=
      List.map_congr_left fun p hp => by rw [get?_cons, if_neg (hq p hp).ne]
    rw [positions_cons, List.map_cons, get?_cons, if_pos rfl, ← htail, ← ih hb]
    rfl

/-! ## Values bound one after the other -/

/-- Binds values to positions, one after the other. -/
def bindAll (b : Bindings) (entries : List (Int × Value)) : Bindings :=
  entries.foldl (fun b e => b.bind e.1 e.2) b

/-- **The value that was bound last** to a position. -/
def lastBound? (entries : List (Int × Value)) (position : Int) : Option Value :=
  get? entries.reverse position

/-- The positions that were bound. -/
def boundPositions (entries : List (Int × Value)) : Finset Int := (entries.map (·.1)).toFinset

theorem bindAll_concat (b : Bindings) (entries : List (Int × Value)) (e : Int × Value) :
    b.bindAll (entries ++ [e]) = (b.bindAll entries).bind e.1 e.2 := by
  simp [bindAll]

theorem isOrdered_bindAll (entries : List (Int × Value)) : (bindAll [] entries).IsOrdered := by
  induction entries using List.reverseRecOn with
  | nil => exact List.Pairwise.nil
  | append_singleton entries e ih => rw [bindAll_concat]; exact ih.bind e.1 e.2

theorem mem_positions_bindAll {entries : List (Int × Value)} {p : Int} :
    p ∈ (bindAll [] entries).positions ↔ p ∈ boundPositions entries := by
  induction entries using List.reverseRecOn with
  | nil => simp [bindAll, positions, boundPositions]
  | append_singleton entries e ih =>
    rw [bindAll_concat, mem_positions_bind, ih]
    simp [boundPositions]

theorem get?_bindAll (entries : List (Int × Value)) :
    (bindAll [] entries).get? = lastBound? entries := by
  funext position
  induction entries using List.reverseRecOn with
  | nil => rfl
  | append_singleton entries e ih =>
    obtain ⟨p, v⟩ := e
    rw [bindAll_concat, get?_bind, ih, lastBound?, lastBound?, List.reverse_concat, get?_cons]

/-- **What is sent**: the value that was bound last to each position that was bound at all, in the
order of the positions. -/
theorem values_bindAll (entries : List (Int × Value)) :
    (bindAll [] entries).values.map some =
      (bindAll [] entries).positions.map (lastBound? entries) := by
  rw [map_some_values (isOrdered_bindAll entries), get?_bindAll]

theorem length_values_bindAll (entries : List (Int × Value)) :
    (bindAll [] entries).values.length = (boundPositions entries).card := by
  have hset : (bindAll [] entries).positions.toFinset = boundPositions entries := by
    ext p
    rw [List.mem_toFinset, mem_positions_bindAll]
  rw [← hset, List.toFinset_card_of_nodup (isOrdered_bindAll entries).nodup, values, positions,
    List.length_map, List.length_map]

theorem lastBound?_isSome_iff {entries : List (Int × Value)} {position : Int} :
    (lastBound? entries position).isSome = true ↔ position ∈ boundPositions entries := by
  rw [lastBound?, get?, Option.isSome_map, List.find?_isSome]
  simp [boundPositions]

/-! ## Missing and surplus positions -/

/-- The positions of `n` placeholders in order, counted from one. -/
def placesUpTo (n : Nat) : List Int := (List.range n).map fun i : Nat => (i : Int) + 1

theorem mem_placesUpTo {n : Nat} {p : Int} : p ∈ placesUpTo n ↔ 1 ≤ p ∧ p ≤ n := by
  simp only [placesUpTo, List.mem_map, List.mem_range]
  constructor
  · rintro ⟨i, hi, rfl⟩
    omega
  · rintro ⟨h1, hn⟩
    exact ⟨(p - 1).toNat, by omega, by omega⟩

theorem pairwise_placesUpTo (n : Nat) : (placesUpTo n).Pairwise (· < ·) := by
  rw [placesUpTo, List.pairwise_map]
  exact List.pairwise_lt_range.imp fun h => by omega

theorem card_placesUpTo (n : Nat) : (placesUpTo n).toFinset.card = n := by
  rw [List.toFinset_card_of_nodup (pairwise_placesUpTo n).nodup, placesUpTo, List.length_map,
    List.length_range]

/-- **The positions without a value**, of a statement with `n` placeholders. -/
def missing (entries : List (Int × Value)) (n : Nat) : Finset Int :=
  (placesUpTo n).toFinset \ boundPositions entries

/-- **The positions with a value that the statement does not have.** -/
def surplus (entries : List (Int × Value)) (n : Nat) : Finset Int :=
  boundPositions entries \ (placesUpTo n).toFinset

variable (entries : List (Int × Value)) (n : Nat)

/-- **The list fits** a statement exactly if as many positions have a value too many as have none:
its length does not tell which they are. -/
theorem length_values_bindAll_iff :
    (bindAll [] entries).values.length = n ↔
      (missing entries n).card = (surplus entries n).card := by
  have hmissing := Finset.card_sdiff_add_card_inter (placesUpTo n).toFinset
    (boundPositions entries)
  have hsurplus := Finset.card_sdiff_add_card_inter (boundPositions entries)
    (placesUpTo n).toFinset
  rw [Finset.inter_comm, card_placesUpTo] at hmissing
  rw [length_values_bindAll, missing, surplus]
  omega

theorem surplus_eq_empty_iff (h : (missing entries n).card = (surplus entries n).card) :
    surplus entries n = ∅ ↔ boundPositions entries = (placesUpTo n).toFinset := by
  rw [← length_values_bindAll_iff, length_values_bindAll] at h
  constructor
  · intro hnone
    refine Finset.eq_of_subset_of_card_le (Finset.sdiff_eq_empty_iff_subset.1 hnone) ?_
    rw [card_placesUpTo, h]
  · intro heq
    exact Finset.sdiff_eq_empty_iff_subset.2 (Finset.subset_of_eq heq)

/-- If the positions of a statement were bound and no others, its values stand in their order. -/
theorem positions_bindAll_of_eq (h : boundPositions entries = (placesUpTo n).toFinset) :
    (bindAll [] entries).positions = placesUpTo n := by
  refine List.Pairwise.eq_of_mem_iff (isOrdered_bindAll entries) (pairwise_placesUpTo n) fun p => ?_
  rw [mem_positions_bindAll, h, List.mem_toFinset]

/-- **The values are at their positions** exactly if none is a value too many, in a list that
fits. -/
theorem values_bindAll_getElem?_iff (h : (missing entries n).card = (surplus entries n).card) :
    (∀ i < n, (bindAll [] entries).values[i]? = lastBound? entries (i + 1)) ↔
      surplus entries n = ∅ := by
  have hlength := (length_values_bindAll_iff entries n).2 h
  rw [surplus_eq_empty_iff entries n h]
  constructor
  · -- a position at which a value arrives is one to which a value was bound
    intro hat
    refine (Finset.eq_of_subset_of_card_le (fun p hp => ?_) ?_).symm
    · obtain ⟨h1, hn⟩ := mem_placesUpTo.1 (List.mem_toFinset.1 hp)
      have hi : (p - 1).toNat < n := by omega
      have hsome : (lastBound? entries ((p - 1).toNat + 1)).isSome = true := by
        rw [← hat _ hi, List.getElem?_eq_getElem (hlength.symm ▸ hi)]
        rfl
      rw [show ((p - 1).toNat : Int) + 1 = p by omega] at hsome
      exact lastBound?_isSome_iff.1 hsome
    · rw [← length_values_bindAll, hlength, card_placesUpTo]
  · intro heq i hi
    have hvalues := congrArg (·[i]?) (values_bindAll entries)
    rw [positions_bindAll_of_eq entries n heq, placesUpTo] at hvalues
    simp only [List.getElem?_map, List.getElem?_range hi, Option.map_some] at hvalues
    rw [List.getElem?_eq_getElem (hlength.symm ▸ hi)] at hvalues ⊢
    exact Option.some.inj hvalues

end Bindings

/-! ## What a driver gets -/

namespace Sqlite

variable {σ : Type}

/-- **A driver that counts** executes a statement with as many values as it has placeholders, and
with no other list. -/
def Driver.Counts (d : Driver σ) (connection : Nat) (sql : String) : Prop :=
  ∀ (values : List Value) (s : σ),
    (∃ cursor, (d.answer (.execute connection sql values) s).1 = .ok cursor) ↔
      values.length = countPlaceholders sql

/-- The driver that counts, and does nothing else. -/
def Driver.counting : Driver Unit where
  answer call s := match call with
    | .execute _ sql values =>
      (if values.length = countPlaceholders sql then .ok {}
        else .error (.of (.database .programming) "Incorrect number of bindings supplied"), s)
    | _ => (.ok {}, s)
  makeDirectories _ s := (.ok (), s)
  inTransaction _ _ := false

theorem Driver.counts_counting (connection : Nat) (sql : String) :
    counting.Counts connection sql := by
  intro values s
  simp only [counting]
  split <;> simp_all

theorem Driver.ask_counting {connection : Nat} {sql : String} {values : List Value}
    (h : values.length = countPlaceholders sql) (w : World Call (Session Unit)) :
    counting.ask (.execute connection sql values) w =
      (.ok {}, { w with trace := w.trace ++ [.execute connection sql values] }) := by
  simp only [ask, counting, if_pos h]

namespace Prepared

/-- Binds values to positions, one after the other, up to the first position there cannot be. -/
def bindAll (s : Prepared) (entries : List (Int × Value)) : Except Fault Prepared :=
  entries.foldlM (fun s e => s.bind e.1 e.2) s

theorem bindAll_of_one_le (s : Prepared) {entries : List (Int × Value)}
    (h : ∀ e ∈ entries, 1 ≤ e.1) :
    s.bindAll entries = .ok { s with bindings := s.bindings.bindAll entries } := by
  induction entries generalizing s with
  | nil => rfl
  | cons e entries ih =>
    have hbind : s.bind e.1 e.2 = .ok { s with bindings := s.bindings.bind e.1 e.2 } :=
      if_neg (by have := h e List.mem_cons_self; omega)
    have htail := ih { s with bindings := s.bindings.bind e.1 e.2 } fun e' he' =>
      h e' (List.mem_cons_of_mem e he')
    rw [bindAll, List.foldlM_cons, hbind]
    exact htail

/-- A statement that was prepared knows its text and its placeholders, and has no values yet. -/
theorem eq_of_prepare {d : Driver σ} {connection : Nat} {sql : String} {s : Prepared}
    {w w' : World Call (Session σ)} (h : prepare d connection sql w = (.ok s, w')) :
    s = { connection, sql, parameterCount := countPlaceholders sql } := by
  unfold prepare at h
  rw [Action.bind_apply] at h
  split at h
  · exact (Except.ok.inj (congrArg Prod.fst h)).symm
  · exact nomatch congrArg Prod.fst h

/-- A statement is explained with as many nulls as its explanation has placeholders. -/
theorem countPlaceholders_explanation (sql : String) :
    countPlaceholders (explanation sql) = countPlaceholders sql := by
  have hword : countPlaceholdersFrom {} "EXPLAIN ".toList = 0 := by decide
  have hfresh : (({} : Lexer).scan "EXPLAIN ".toList).IsFresh :=
    Lexer.isFresh_after (c := ' ') (by decide) (by decide)
  rw [countPlaceholders, explanation, String.toList_append, countPlaceholdersFrom_append, hword,
    Nat.zero_add, countPlaceholdersFrom_of_isFresh hfresh, countPlaceholders]

/-- The driver that only counts lets every statement be prepared. -/
theorem prepare_counting (connection : Nat) (sql : String) (w : World Call (Session Unit)) :
    ∃ w', prepare Driver.counting connection sql w =
      (.ok { connection, sql, parameterCount := countPlaceholders sql }, w') := by
  have hcompile :
      (compile Driver.counting connection sql (countPlaceholders sql) w).1 = .ok () := by
    unfold compile
    split
    · rfl
    · have hask : Driver.counting.ask (.execute connection (explanation sql)
          (List.replicate (countPlaceholders sql) .null)) w = (.ok {}, _) :=
        Driver.ask_counting (by rw [List.length_replicate, countPlaceholders_explanation]) w
      rw [Action.bind_of_ok hask]
      rfl
  exact ⟨_, Action.bind_of_ok (Prod.ext hcompile rfl)⟩

/-- **What a driver gets that counts.** Values were bound to the positions of a statement in any
order, some twice and some not at all. The driver is asked once, for the value bound last to each
position that was bound, in the order of the positions. It executes the statement exactly if as many
values are missing as there are too many, and then the values are at their positions exactly if
there are none of either. -/
theorem execute_bindAll {d : Driver σ} {connection : Nat} {sql : String} {s : Prepared}
    {w w' : World Call (Session σ)} (hprepare : prepare d connection sql w = (.ok s, w'))
    (hcounts : d.Counts connection sql) {entries : List (Int × Value)}
    (hentries : ∀ e ∈ entries, 1 ≤ e.1) :
    ∃ (bound : Prepared) (values : List Value) (positions : List Int),
      s.bindAll entries = .ok bound ∧
      (positions.Pairwise (· < ·) ∧ ∀ p, p ∈ positions ↔ p ∈ Bindings.boundPositions entries) ∧
      values.map some = positions.map (Bindings.lastBound? entries) ∧
      ∀ u : World Call (Session σ),
        (execute d bound u).2.trace = u.trace ++ [.execute connection sql values] ∧
        ((∃ cursor, (execute d bound u).1 = .ok cursor) ↔
          (Bindings.missing entries s.parameterCount).card =
            (Bindings.surplus entries s.parameterCount).card) ∧
        ((∃ cursor, (execute d bound u).1 = .ok cursor) →
          ((∀ i < s.parameterCount, values[i]? = Bindings.lastBound? entries (i + 1)) ↔
            Bindings.surplus entries s.parameterCount = ∅)) := by
  obtain rfl := eq_of_prepare hprepare
  refine ⟨_, (Bindings.bindAll [] entries).values, (Bindings.bindAll [] entries).positions,
    bindAll_of_one_le _ hentries,
    ⟨Bindings.isOrdered_bindAll entries, fun _ => Bindings.mem_positions_bindAll⟩,
    Bindings.values_bindAll entries, fun u => ?_⟩
  have hok := (hcounts (Bindings.bindAll [] entries).values u.outside.driver).trans
    (Bindings.length_values_bindAll_iff entries (countPlaceholders sql))
  exact ⟨rfl, hok, fun hsuccess =>
    Bindings.values_bindAll_getElem?_iff entries (countPlaceholders sql) (hok.1 hsuccess)⟩

/-- A value arrives at a position to which another was bound before, and out of order. -/
theorem execute_bindAll_twice :
    ∃ s w' bound values,
      prepare Driver.counting 1 "INSERT INTO t VALUES (?, ?)"
        { outside := { driver := () } } = (.ok s, w') ∧
      s.bindAll [(2, .text "a"), (1, .text "b"), (2, .text "c")] = .ok bound ∧
      values[0]? = some (.text "b") ∧ values[1]? = some (.text "c") ∧
      ∀ u : World Call (Session Unit),
        (execute Driver.counting bound u).2.trace =
          u.trace ++ [.execute 1 "INSERT INTO t VALUES (?, ?)" values] ∧
        ∃ cursor, (execute Driver.counting bound u).1 = .ok cursor := by
  have hcount : countPlaceholders "INSERT INTO t VALUES (?, ?)" = 2 := by decide +kernel
  obtain ⟨w', hprepare⟩ := prepare_counting 1 "INSERT INTO t VALUES (?, ?)"
    { outside := { driver := () } }
  have hentries : ∀ e ∈ [((2 : Int), Value.text "a"), (1, .text "b"), (2, .text "c")], 1 ≤ e.1 := by
    decide
  obtain ⟨bound, values, -, hbound, -, -, hexecute⟩ := execute_bindAll hprepare
    (Driver.counts_counting 1 "INSERT INTO t VALUES (?, ?)") hentries
  rw [hcount] at hexecute
  have hfits := fun u => (hexecute u).2.1.2 (by decide)
  have hat := ((hexecute { outside := { driver := () } }).2.2 (hfits _)).2 (by decide)
  exact ⟨_, w', bound, values, hprepare, hbound, hat 0 (by decide), hat 1 (by decide),
    fun u => ⟨(hexecute u).1, hfits u⟩⟩

/-- A statement without a value for its second placeholder is executed with the value for a third
that it does not have, at the second. -/
theorem not_fails_unbound :
    ∃ s w' bound,
      prepare Driver.counting 1 "INSERT INTO t VALUES (?, ?)"
        { outside := { driver := () } } = (.ok s, w') ∧
      Driver.counting.Counts 1 "INSERT INTO t VALUES (?, ?)" ∧ s.parameterCount = 2 ∧
      s.bindAll [(1, .text "a"), (3, .text "b")] = .ok bound ∧
      Bindings.lastBound? [(1, .text "a"), (3, .text "b")] 2 = none ∧
      ∀ u : World Call (Session Unit),
        (execute Driver.counting bound u).2.trace =
          u.trace ++ [.execute 1 "INSERT INTO t VALUES (?, ?)" [.text "a", .text "b"]] ∧
        ∃ cursor, (execute Driver.counting bound u).1 = .ok cursor := by
  have hcount : countPlaceholders "INSERT INTO t VALUES (?, ?)" = 2 := by decide +kernel
  obtain ⟨w', hprepare⟩ := prepare_counting 1 "INSERT INTO t VALUES (?, ?)"
    { outside := { driver := () } }
  have hcounts := Driver.counts_counting 1 "INSERT INTO t VALUES (?, ?)"
  refine ⟨_, w', _, hprepare, hcounts, hcount, rfl, rfl, fun u => ⟨rfl, ?_⟩⟩
  exact (hcounts [.text "a", .text "b"] u.outside.driver).2 hcount.symm

end Prepared

end Sqlite

end SqlScript
