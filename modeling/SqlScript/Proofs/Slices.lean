import SqlScript.Proofs.Leftovers

/-!
# Batches are consecutive slices

The batch of a statement begins where the placeholders before it end: no parameter is skipped, none
is dealt out twice, and none is moved to a neighbour. So the batches are told by the numbers of
placeholders and by how many parameters there are, and they are the same whether the runner is
strict or not.

* `offset`, `offset_succ`, `offset_mono`: how many placeholders there are before a statement.
* `getElem?_deal`: **each batch is the slice from its offset on.**
* `AreSlices`, `areSlices_deal`: the batches in closed form, and what a short one means for those
  behind it.
* `Runner.allocateBatches_slices`: **the allocation law**: what every runner deals out, what it logs
  and when it refuses.
-/

namespace SqlScript

/-! ## Offsets -/

/-- **The offset of a statement**: the number of placeholders before it. -/
def offset (counts : List Nat) (i : Nat) : Nat := (counts.take i).sum

theorem offset_succ {counts : List Nat} {i n : Nat} (h : counts[i]? = some n) :
    offset counts (i + 1) = offset counts i + n := by
  have htake : counts.take (i + 1) = counts.take i ++ [n] := by
    rw [List.take_add_one, h]
    rfl
  rw [offset, htake, List.sum_append, List.sum_singleton]
  rfl

theorem offset_mono (counts : List Nat) {i j : Nat} (h : i ≤ j) :
    offset counts i ≤ offset counts j := by
  have hparts : counts.take j = counts.take i ++ (counts.drop i).take (j - i) := by
    rw [← List.take_add, Nat.add_sub_cancel' h]
  rw [offset, offset, hparts, List.sum_append]
  exact Nat.le_add_right _ _

/-! ## Slices -/

/-- **Each batch is the slice of the parameters from its offset on.** -/
theorem getElem?_deal {α : Type} (counts : List Nat) (parameters : List α) (i : Nat) :
    (deal counts parameters).1[i]? =
      counts[i]?.map fun n => (parameters.drop (offset counts i)).take n := by
  -- behind the first statement the offsets are counted from the rest of the parameters
  induction counts generalizing parameters i with
  | nil => simp [deal]
  | cons n counts ih =>
    cases i with
    | zero => simp [deal, offset]
    | succ i =>
      have hoffset : offset (n :: counts) (i + 1) = n + offset counts i := by
        rw [offset, List.take_succ_cons, List.sum_cons]
        rfl
      rw [deal, List.getElem?_cons_succ, List.getElem?_cons_succ, ih, hoffset]
      simp only [List.drop_drop]

/-- Together the batches are the parameters that are taken. -/
theorem flatten_deal_eq_take {α : Type} (counts : List Nat) (parameters : List α) :
    (deal counts parameters).1.flatten = parameters.take counts.sum := by
  have hall := flatten_deal counts (parameters.take counts.sum)
  rw [deal_take_sum, List.append_nil] at hall
  exact hall

/-- **The batches in closed form**, for statements with the given numbers of placeholders: there is
one for each; together they are the first parameters, as many as there are placeholders for; and
each has the size that the parameters before it leave room for. -/
structure AreSlices (counts : List Nat) (parameters : List Value) (batches : List Batch) :
    Prop where
  length : batches.length = counts.length
  order : batches.flatten = parameters.take (min parameters.length counts.sum)
  sizes : ∀ (i n : Nat) (batch : Batch), counts[i]? = some n → batches[i]? = some batch →
    batch.length = min n (parameters.length - offset counts i)
  /-- Behind a batch that is too short for its statement all batches are empty. -/
  exhausted : ∀ (i j n : Nat) (batch later : Batch), counts[i]? = some n →
    batches[i]? = some batch → batch.length < n → i < j → batches[j]? = some later → later = []

/-- **What is dealt out are slices.** -/
theorem areSlices_deal (counts : List Nat) (parameters : List Value) :
    AreSlices counts parameters (deal counts parameters).1 := by
  have hsizes : ∀ (i n : Nat) (batch : Batch), counts[i]? = some n →
      (deal counts parameters).1[i]? = some batch →
      batch.length = min n (parameters.length - offset counts i) := by
    intro i n batch hn hbatch
    rw [getElem?_deal, hn, Option.map_some] at hbatch
    rw [← Option.some.inj hbatch, List.length_take, List.length_drop]
  refine ⟨length_deal counts parameters, ?_, hsizes, ?_⟩
  · rw [flatten_deal_eq_take, List.take_eq_take_min, Nat.min_comm]
  · intro i j n batch later hn hbatch hshort hij hlater
    have hbatch := hsizes i n batch hn hbatch
    -- a short batch ends where the parameters do, and later ones begin no earlier
    have hends : parameters.length ≤ offset counts j := by
      have hnext := offset_succ hn
      have hmono := offset_mono counts (show i + 1 ≤ j from hij)
      omega
    obtain ⟨m, hm⟩ : ∃ m, counts[j]? = some m := by
      rw [getElem?_deal] at hlater
      obtain ⟨m, hm, -⟩ := Option.map_eq_some_iff.1 hlater
      exact ⟨m, hm⟩
    have hlater := hsizes j m later hm hlater
    exact List.eq_nil_of_length_eq_zero (by omega)

/-! ## The law -/

theorem length_leftOver (units : List StatementUnit) (parameters : List Value) :
    (leftOver units parameters).length =
      parameters.length - (placeholderCounts units).sum := by
  rw [leftOver_eq_drop, List.length_drop]

/-- **The allocation law.** For every list of statements and of parameters there are batches, the
slices of the parameters, such that every runner does the following, whatever the world is: if there
are more parameters than placeholders, a strict one refuses them, and any other one deals out the
batches and logs one warning; if there are not, every one deals out the batches and logs nothing.
Failure and warning begin with the number of the parameters that are left over. -/
theorem Runner.allocateBatches_slices (units : List StatementUnit) (parameters : List Value) :
    let counts := placeholderCounts units
    let left := parameters.length - counts.sum
    let failure := Failure.excessParameters left counts.sum units.length
    let warning := Failure.excessDescription left counts.sum units.length ++ "; discarding them."
    ∃ batches, AreSlices counts parameters batches ∧
      Announces left failure.message ∧ Announces left warning ∧
      ∀ {κ τ Conn Stmt : Type} (r : Runner κ τ Conn Stmt) (w : World κ τ),
        r.allocateBatches units parameters w =
          if counts.sum < parameters.length then
            if r.strictParameters then (.error (.failure failure), w)
            else (.ok batches, w.warned warning)
          else (.ok batches, w) := by
  intro counts left failure warning
  have hfailure : Announces left failure.message := announces_excessParameters _ _ _
  refine ⟨(deal counts parameters).1, areSlices_deal counts parameters, hfailure,
    hfailure.append "; discarding them.", ?_⟩
  intro κ τ Conn Stmt r w
  by_cases hexcess : counts.sum < parameters.length
  · rw [if_pos hexcess]
    have hleft : leftOver units parameters ≠ [] := by
      intro hnil
      have hlength : (leftOver units parameters).length = parameters.length - counts.sum :=
        length_leftOver units parameters
      rw [hnil, List.length_nil] at hlength
      omega
    have htaken : (takenOf units parameters).length = counts.sum := by
      rw [takenOf, List.length_take]
      exact Nat.min_eq_left (Nat.le_of_lt hexcess)
    have hfailure : excessOf units parameters = failure := by
      rw [excessOf, length_leftOver, htaken]
    cases hstrict : r.strictParameters with
    | true => rw [allocateBatches_of_strict hstrict hleft, hfailure, if_pos rfl]
    | false =>
      rw [allocateBatches_of_lenient hstrict hleft, allocateBatches_takenOf, excessWarning,
        hfailure, if_neg Bool.false_ne_true]
      rfl
  · rw [if_neg hexcess]
    have htaken : takenOf units parameters = parameters :=
      List.take_of_length_le (Nat.le_of_not_lt hexcess)
    have hdealt : r.allocateBatches units (takenOf units parameters) w =
        (.ok (deal counts parameters).1, w) := allocateBatches_takenOf w
    rwa [htaken] at hdealt

/-- A statement that gets too few parameters, one without placeholders behind it, and one that gets
none. -/
example : (deal [1, 0, 3, 0, 2] ['a', 'b', 'c']).1 = [['a'], [], ['b', 'c'], [], []] := rfl

end SqlScript
