import WalletTopUp.Proofs.History
import WalletTopUp.Proofs.Rates.Flush
import WalletTopUp.Proofs.Rates.Table

/-!
# What a move of a file of rates does

All that a move can do is listed once (`CacheRun.Moves`).  What is saved is stored in memory at once
(`CacheRun.memory_of_move`).  Writings that keep apart (`CacheRun.Apart`) do not disturb each other
(`CacheRun.Separate.clear`).
-/

namespace WalletTopUp

open Disk FileCache

namespace CacheRun

variable {run next : CacheRun} {path : String} {disk later : Disk} {flush : Flush}
  {writing : Writing} {others : List Writing}

/-! ## Moves -/

/-- What a move does. -/
inductive Moves (run : CacheRun) : Move → CacheRun → Prop
  | save (key : RateKey) (rate : CachedRate) : Moves run (.save key rate) (run.store key rate)
  | lock {number : Nat} {rest : List Nat} : run.holder = none → run.waiting = number :: rest →
      Moves run .lock { run with
        waiting := rest
        holder := some ⟨number, run.saves.length, .begin run.cache.path run.cache.table⟩ }
  | work {writing : Writing} (stroke : Stroke) : run.holder = some writing →
      Moves run (.work stroke) (run.proceed writing stroke)
  | finish {writing : Writing} : run.holder = some writing → writing.flush.hasEnded = true →
      Moves run .finish { run with holder := none }
  | abort {writing : Writing} : run.holder = some writing →
      Moves run .abort { run with holder := none, left := leaving writing run.left }
  | leave (number : Nat) :
      Moves run (.leave number) { run with waiting := run.waiting.erase number }
  | workLeft {index : Nat} {writing : Writing} (stroke : Stroke) :
      run.left[index]? = some writing →
      Moves run (.workLeft index stroke) (run.proceedLeft index writing stroke)
  | reopen {cache : FileCache} : openAt run.disk run.cache.path = .ok cache →
      Moves run .reopen { disk := run.disk, cache }

/-- **Every move is one of these.** -/
theorem moves_of_move {move : Move} (moved : run.move move = some next) : Moves run move next := by
  cases move with
  | save key rate =>
      obtain rfl := Option.some.inj moved
      exact .save key rate
  | lock =>
      simp only [CacheRun.move] at moved
      split at moved
      · next free line =>
          obtain rfl := Option.some.inj moved
          exact .lock free line
      · cases moved
  | work stroke =>
      obtain ⟨writing, held, rfl⟩ := Option.map_eq_some_iff.mp moved
      exact .work stroke held
  | finish =>
      obtain ⟨writing, held, moved⟩ := Option.bind_eq_some_iff.mp moved
      split at moved
      · next ended =>
          obtain rfl := Option.some.inj moved
          exact .finish held ended
      · cases moved
  | abort =>
      obtain ⟨writing, held, rfl⟩ := Option.map_eq_some_iff.mp moved
      exact .abort held
  | leave number =>
      obtain rfl := Option.some.inj moved
      exact .leave number
  | workLeft index stroke =>
      obtain ⟨writing, found, rfl⟩ := Option.map_eq_some_iff.mp moved
      exact .workLeft stroke found
  | reopen =>
      simp only [CacheRun.move] at moved
      split at moved
      · cases moved
      · next opened =>
          obtain rfl := Option.some.inj moved
          exact .reopen opened

/-! ## What is in memory -/

/-- What a move saves. -/
def Move.saved : Move → List RateRecord
  | .save key rate => [⟨key, rate⟩]
  | _ => []

/-- **What is saved is stored at once, whatever becomes of the file.** -/
theorem memory_of_move {move : Move} (moved : run.move move = some next)
    (stillOpen : move ≠ .reopen) :
    next.saves = run.saves ++ move.saved
      ∧ next.cache = { run.cache with table := run.cache.table.storing move.saved } := by
  have unsaved : run.saves = run.saves ++ [] := (List.append_nil _).symm
  cases moves_of_move moved with
  | save key rate => exact ⟨rfl, rfl⟩
  | lock => exact ⟨unsaved, rfl⟩
  | work => exact ⟨unsaved, rfl⟩
  | finish => exact ⟨unsaved, rfl⟩
  | abort => exact ⟨unsaved, rfl⟩
  | leave => exact ⟨unsaved, rfl⟩
  | workLeft => exact ⟨unsaved, rfl⟩
  | reopen => exact absurd rfl stillOpen

/-! ## Writings side by side -/

/-- All writings that go on. -/
def writings (run : CacheRun) : List Writing := run.holder.toList ++ run.left

/-- At most one of the writings relies on the file beside the real one. -/
def Separate (writings : List Writing) : Prop :=
  writings.Pairwise fun first second =>
    ¬ (first.flush.usesTemp = true ∧ second.flush.usesTemp = true)

/-- At most one writing of the run relies on the file beside the real one. -/
def Apart (run : CacheRun) : Prop := Separate run.writings

instance (run : CacheRun) : Decidable run.Apart :=
  inferInstanceAs (Decidable (run.writings.Pairwise fun first second =>
    ¬ (first.flush.usesTemp = true ∧ second.flush.usesTemp = true)))

theorem separate_cons :
    Separate (writing :: others)
      ↔ (∀ other ∈ others, other.flush.usesTemp = true → writing.flush.usesTemp = false)
        ∧ Separate others := by
  refine List.pairwise_cons.trans (and_congr_left' (forall₂_congr fun other _ => ?_))
  cases writing.flush.usesTemp <;> simp

theorem Separate.perm {second : List Writing} (separate : Separate others)
    (same : others.Perm second) : Separate second :=
  (same.pairwise_iff fun unlike both => unlike both.symm).mp separate

theorem mem_leaving {other : Writing} (member : other ∈ leaving writing others) :
    other ∈ others ∨ (other = writing ∧ writing.flush.isPooled = true) := by
  unfold leaving at member
  split at member
  · next pooled => exact (List.mem_cons.mp member).symm.imp_right fun same => ⟨same, pooled⟩
  · exact .inl member

/-- The others do not rely on the file beside the real one while a writing relies on it or opens
it. -/
theorem Separate.clear (separate : Separate (writing :: others))
    (after : flush.isPooled = true → Separate ({ writing with flush } :: others))
    (stepped : Flush.Stepped path disk writing.flush later flush) :
    ∀ other ∈ others, other.flush.usesTemp = true →
      writing.flush.usesTemp = false ∧ flush.usesTemp = false := by
  intro other member uses
  have unused := (separate_cons.mp separate).1 other member uses
  refine ⟨unused, Bool.eq_false_iff.mpr fun opens => ?_⟩
  rcases stepped.usesTemp_or_isPooled opens with earlier | pooled
  · cases earlier.symm.trans unused
  · cases opens.symm.trans ((separate_cons.mp (after pooled)).1 other member uses)

/-- Replacing the file moves no other writing if none relies on the file beside it. -/
theorem passBy_eq {before after : Flush}
    (apart : ∀ other ∈ others, other.flush.usesTemp = true → before.usesTemp = false) :
    passBy path disk before after others = others := by
  unfold passBy
  split
  · next replaced =>
      obtain ⟨rfl, rfl⟩ := replaced
      have unmoved : ∀ other ∈ others, afterRename path disk other = other := by
        intro other member
        unfold afterRename
        split
        · next filling _ _ =>
            have uses : other.flush.usesTemp = true := by rw [filling]; rfl
            cases apart other member uses
        · rfl
      exact (List.map_congr_left unmoved).trans (List.map_id' others)
  · rfl

end CacheRun

end WalletTopUp
