import Mathlib.Data.List.Destutter
import WalletTopUp.Payment.Watch

/-!
# The updates of a transaction

Which of the results of fetches make updates, as a function of the list of all results
(`StatusFilter.updates`), and how the updates grow with one more result.
-/

namespace WalletTopUp

/-! ## Repetitions -/

section Destutter

variable {α : Type} {R : α → α → Prop} [DecidableRel R]

/-- Removing the repeats of a longer list compares its last element with the last one kept. -/
theorem destutter'_concat (first last : α) (list : List α) :
    (list ++ [last]).destutter' R first
      = list.destutter' R first
        ++ if ∀ kept ∈ (list.destutter' R first).getLast?, R kept last then [last] else [] := by
  induction list generalizing first with
  | nil => by_cases changed : R first last <;> simp [changed]
  | cons next list ih =>
      by_cases changed : R first next
      · have kept : (first :: list.destutter' R next).getLast?
            = (list.destutter' R next).getLast? :=
          List.getLast?_cons_of_ne_nil (list.destutter'_ne_nil R)
        rw [List.cons_append, List.destutter'_cons_pos _ changed,
          List.destutter'_cons_pos _ changed, ih, kept, List.cons_append]
      · rw [List.cons_append, List.destutter'_cons_neg _ changed,
          List.destutter'_cons_neg _ changed, ih]

/-- One more element stays if it differs from the last one that has stayed. -/
theorem destutter_concat (list : List α) (last : α) :
    (list ++ [last]).destutter R
      = list.destutter R
        ++ if ∀ kept ∈ (list.destutter R).getLast?, R kept last then [last] else [] := by
  cases list with
  | nil => simp
  | cons first list => exact destutter'_concat first last list

end Destutter

namespace StatusFilter

/-! ## All updates -/

/-- The results of fetches that succeeded with a status that is wanted. -/
def wanted (filter : StatusFilter) (results : List FetchResult) : List TransactionUpdate :=
  (results.filterMap Except.toOption).filter fun update => filter.delivers update.status

/-- The updates that are wanted, each only if its status differs from that of the one before. -/
def changes (filter : StatusFilter) (results : List FetchResult) : List TransactionUpdate :=
  (filter.wanted results).destutter fun earlier later => earlier.status ≠ later.status

/-- Updates up to the first one whose status is final. -/
def upToFinal (updates : List TransactionUpdate) : List TransactionUpdate :=
  updates.take (updates.findIdx (fun update => update.status.isFinal) + 1)

/-- The updates that results of fetches make, in order. -/
def updates (filter : StatusFilter) (results : List FetchResult) : List TransactionUpdate :=
  upToFinal (filter.changes results)

variable {filter : StatusFilter} {results : List FetchResult} {list : List TransactionUpdate}

/-- With no final status nothing is cut off. -/
theorem upToFinal_eq_self (unsettled : ∀ update ∈ list, update.status.isFinal = false) :
    upToFinal list = list := by
  rw [upToFinal, List.findIdx_eq_length.mpr unsettled]
  exact List.take_of_length_le (Nat.le_succ _)

/-- What comes after a final status does not count. -/
theorem upToFinal_append (later : List TransactionUpdate)
    (settled : ∃ update ∈ list, update.status.isFinal = true) :
    upToFinal (list ++ later) = upToFinal list := by
  have inside : list.findIdx (fun update => update.status.isFinal) < list.length :=
    List.findIdx_lt_length.mpr settled
  rw [upToFinal, List.findIdx_append, if_pos inside, List.take_append_of_le_length inside]
  rfl

/-- Cutting off after the first final status keeps a final status if there is one. -/
theorem exists_final_upToFinal :
    (∃ update ∈ upToFinal list, update.status.isFinal = true)
      ↔ ∃ update ∈ list, update.status.isFinal = true := by
  refine ⟨fun ⟨update, member, final⟩ => ⟨update, List.mem_of_mem_take member, final⟩,
    fun settled => ?_⟩
  have inside := List.findIdx_lt_length.mpr settled
  refine ⟨_, ?_, List.findIdx_getElem (w := inside)⟩
  exact List.mem_take_iff_getElem.mpr ⟨_, by omega, rfl⟩

/-- A list with no final status up to the first one has none at all. -/
theorem unsettled_upToFinal
    (unsettled : ∀ update ∈ upToFinal list, update.status.isFinal = false) :
    ∀ update ∈ list, update.status.isFinal = false := by
  by_contra settled
  simp only [not_forall, Bool.not_eq_false] at settled
  obtain ⟨update, member, final⟩ := settled
  obtain ⟨first, member, final⟩ := exists_final_upToFinal.mpr ⟨update, member, final⟩
  exact absurd final (Bool.eq_false_iff.mp (unsettled first member))

/-- The update after unsettled ones counts, whatever its status. -/
theorem upToFinal_concat (unsettled : ∀ update ∈ list, update.status.isFinal = false)
    (last : TransactionUpdate) : upToFinal (list ++ [last]) = list ++ [last] := by
  have inside : ¬ list.findIdx (fun update => update.status.isFinal) < list.length := by
    rw [List.findIdx_eq_length.mpr unsettled]
    exact lt_irrefl _
  rw [upToFinal, List.findIdx_append, if_neg inside]
  exact List.take_of_length_le (by simp)

/-! ## One more result -/

/-- A further result adds its update if the filter delivers that. -/
theorem wanted_concat (result : FetchResult) :
    filter.wanted (results ++ [result])
      = filter.wanted results
        ++ (result.toOption.filter fun update => filter.delivers update.status).toList := by
  rw [wanted, List.filterMap_append, List.filter_append, ← wanted]
  cases result with
  | error _ => rfl
  | ok update =>
      have one : [(Except.ok update : FetchResult)].filterMap Except.toOption = [update] := rfl
      by_cases delivers : filter.delivers update.status = true <;>
        simp [one, Except.toOption, Option.filter_some, delivers]

/-- A further update is a change if its status is not that of the last change. -/
theorem changes_concat {update : TransactionUpdate}
    (delivers : filter.delivers update.status = true) :
    filter.changes (results ++ [.ok update])
      = filter.changes results
        ++ if ∀ kept ∈ (filter.changes results).getLast?, kept.status ≠ update.status
          then [update] else [] := by
  have one : (Option.filter (fun update => filter.delivers update.status) (some update)).toList
      = [update] := by simp [Option.filter_some, delivers]
  rw [changes, wanted_concat, Except.toOption, one, destutter_concat]
  rfl

/-- A result that is not wanted, or that repeats the last update's status, makes no update. -/
theorem updates_concat_of_passes {result : FetchResult}
    (passes : ∀ update, result = .ok update → filter.delivers update.status = true →
      (filter.updates results).getLast?.map TransactionUpdate.status = some update.status) :
    filter.updates (results ++ [result]) = filter.updates results := by
  rcases same : result.toOption.filter fun update => filter.delivers update.status with _ | update
  · rw [updates, changes, wanted_concat, same, Option.toList_none, List.append_nil]
    rfl
  · obtain ⟨succeeded, delivers⟩ := Option.filter_eq_some_iff.mp same
    obtain rfl : result = .ok update := by
      cases result with
      | error _ => cases succeeded
      | ok _ => exact congrArg Except.ok (Option.some.inj succeeded)
    -- After a final status the result does not count; before it all changes are updates, so it
    -- repeats the change before it.
    by_cases settled : ∃ update ∈ filter.changes results, update.status.isFinal = true
    · rw [updates, changes_concat delivers, upToFinal_append _ settled, updates]
    · have unsettled : filter.updates results = filter.changes results :=
        upToFinal_eq_self fun update member =>
          Bool.eq_false_iff.mpr fun final => settled ⟨update, member, final⟩
      obtain ⟨kept, last, repeats⟩ := Option.map_eq_some_iff.mp (passes update rfl delivers)
      rw [unsettled] at last
      rw [updates, changes_concat delivers, if_neg fun changed => changed kept last repeats,
        List.append_nil, updates]

/-- A result that is wanted and changes the status makes one more update, unless a final one has
been before. -/
theorem updates_concat_of_delivers {update : TransactionUpdate}
    (unsettled : ∀ earlier ∈ filter.updates results, earlier.status.isFinal = false)
    (wanted : filter.delivers update.status = true)
    (changed : (filter.updates results).getLast?.map TransactionUpdate.status
      ≠ some update.status) :
    filter.updates (results ++ [.ok update]) = filter.updates results ++ [update] := by
  have never := unsettled_upToFinal unsettled
  have same : filter.updates results = filter.changes results := upToFinal_eq_self never
  rw [same] at changed ⊢
  have differs : ∀ kept ∈ (filter.changes results).getLast?, kept.status ≠ update.status :=
    fun kept last repeats => changed (by rw [Option.mem_def.mp last, Option.map_some, repeats])
  rw [updates, changes_concat wanted, if_pos differs, upToFinal_concat never]

/-! ## The updates of each filter -/

/-- Only what the filter delivers is a change. -/
theorem wanted_of_mem_changes {update : TransactionUpdate}
    (member : update ∈ filter.changes results) :
    filter.delivers update.status = true :=
  (List.mem_filter.mp ((List.destutter_sublist _ _).subset member)).2

/-- Whoever wants final statuses only gets one update at most. -/
theorem updates_provider (results : List FetchResult) :
    ∃ final : Option TransactionUpdate, provider.updates results = final.toList
      ∧ ∀ update ∈ final, update.status.isFinal = true := by
  have wanted : ∀ update ∈ provider.changes results, update.status.isFinal = true :=
    fun _ => wanted_of_mem_changes
  rw [updates]
  cases same : provider.changes results with
  | nil => exact ⟨none, rfl, nofun⟩
  | cons first rest =>
      rw [same] at wanted
      have final := wanted first List.mem_cons_self
      refine ⟨some first, ?_, fun update given => Option.mem_some.mp given ▸ final⟩
      rw [upToFinal, List.findIdx_cons, final]
      rfl

/-- Whoever also wants to hear that the user has to pay hears so once at most, and of one final
status at most after that. -/
theorem updates_localPayment (results : List FetchResult) :
    ∃ pending final : Option TransactionUpdate,
      localPayment.updates results = pending.toList ++ final.toList
        ∧ (∀ update ∈ pending, update.status = .pendingUserPayment)
        ∧ ∀ update ∈ final, update.status.isFinal = true := by
  have wanted : ∀ update ∈ localPayment.changes results,
      update.status.isFinal = false → update.status = .pendingUserPayment := by
    intro update member unsettled
    have wanted := wanted_of_mem_changes member
    rw [delivers, unsettled, Bool.false_or, beq_iff_eq] at wanted
    exact wanted
  have chain : (localPayment.changes results).IsChain
      fun earlier later => earlier.status ≠ later.status := List.isChain_destutter _ _
  rw [updates]
  cases same : localPayment.changes results with
  | nil => exact ⟨none, none, rfl, nofun, nofun⟩
  | cons first rest =>
      rw [same] at wanted chain
      cases settles : first.status.isFinal with
      | true =>
          refine ⟨none, some first, ?_, nofun, fun update given => ?_⟩
          · rw [upToFinal, List.findIdx_cons, settles]
            rfl
          · rw [← Option.mem_some.mp given, settles]
      | false =>
          have pending := wanted first List.mem_cons_self settles
          have given : ∀ update ∈ some first, update.status = .pendingUserPayment :=
            fun update given => Option.mem_some.mp given ▸ pending
          cases rest with
          | nil =>
              refine ⟨some first, none, ?_, given, nofun⟩
              rw [upToFinal, List.findIdx_cons, settles]
              rfl
          | cons second rest =>
              have changed := (List.isChain_cons_cons.mp chain).1
              cases settlesNext : second.status.isFinal with
              | true =>
                  refine ⟨some first, some second, ?_, given, fun update given => ?_⟩
                  · rw [upToFinal, List.findIdx_cons, settles, List.findIdx_cons, settlesNext]
                    rfl
                  · rw [← Option.mem_some.mp given, settlesNext]
              | false =>
                  have pendingNext := wanted second (by simp) settlesNext
                  exact absurd (pending.trans pendingNext.symm) changed

end StatusFilter

end WalletTopUp
