import WalletTopUp.Proofs.Rates.Paths
import WalletTopUp.Rates.Run

/-!
# What one step of writing the file does

All that a step of a writing can do is listed once (`FileCache.Flush.Stepped`).  What a writing has
put into the file beside the real one is a part of its text, and in the end all of it, as long as
nobody else uses that file (`FileCache.Flush.Writes`).  The real file stays as it is until the whole
text takes its place (`FileCache.Flush.Writes.keepsFile_or_replaces`).
-/

namespace WalletTopUp

open Disk

namespace FileCache.Flush

variable {path text : String} {stroke : Stroke} {disk later : Disk} {flush next : Flush}

/-! ## Steps -/

/-- What a step of a writing does to the disk, and how far the writing has got then. -/
inductive Stepped (path : String) (disk : Disk) : Flush → Disk → Flush → Prop
  | creates {text : String} {later : Disk} {next : Flush} :
    Grows disk later → next = .makeDirectory text ∨ next = .made text →
      Stepped path disk (.makeDirectory text) later next
  | fails {flush : Flush} {later : Disk} : Grows disk later → Stepped path disk flush later .failed
  | handsOpen {text : String} : Stepped path disk (.made text) disk (.openTemp text)
  | opens {text : String} :
    disk.Leads (tempPath path) → disk.node? (landingOf (tempPath path)) ≠ some .directory →
      Stepped path disk (.openTemp text) (disk.put (landingOf (tempPath path)) (.file ""))
        (.fill (some (landingOf (tempPath path))) [] text.toList)
  | fills {place : Option (List String)} {written added rest : List Char} {next : Flush} :
    next = .fill place (written ++ added) rest ∨ (next = .complete ∧ rest = []) →
      Stepped path disk (.fill place written (added ++ rest))
        (afterFilling place written added disk) next
  | handsRename : Stepped path disk .complete disk .replace
  | replaces {later : Disk} :
    disk.rename (tempPath path) path = .ok later → Stepped path disk .replace later .finished
  | rests : Stepped path disk .finished disk .finished

/-- What making the directory can come to. -/
theorem stepped_afterDirectory (path text : String) (disk : Disk) :
    Stepped path disk (.makeDirectory text) (afterDirectory path text disk).1
      (afterDirectory path text disk).2 := by
  have grows := grows_createFrom disk [] (names (directory path))
  unfold afterDirectory
  generalize disk.createFrom [] (names (directory path)) = made at grows ⊢
  rcases made with ⟨later, _ | _⟩
  · exact .fails grows
  · exact .creates grows (.inr rfl)

/-- What opening the temporary file can come to. -/
theorem stepped_afterOpening (path text : String) (disk : Disk) :
    Stepped path disk (.openTemp text) (afterOpening path text disk).1
      (afterOpening path text disk).2 := by
  unfold afterOpening
  split
  · exact .fails (.refl disk)
  · next later place truncated =>
      obtain ⟨leads, rfl, unlike, rfl⟩ := truncate_eq_ok_iff.mp truncated
      exact .opens leads unlike

/-- What replacing the real file can come to. -/
theorem stepped_afterReplacing (path : String) (disk : Disk) :
    Stepped path disk .replace (afterReplacing path disk).1 (afterReplacing path disk).2 := by
  unfold afterReplacing
  split
  · exact .fails (.refl disk)
  · next later renamed => exact .replaces renamed

/-- **Every step of a writing is one of these.** -/
theorem stepped (path : String) (stroke : Stroke) (disk : Disk) (flush : Flush) :
    Stepped path disk flush (flush.step path stroke disk).1 (flush.step path stroke disk).2 := by
  cases flush with
  | makeDirectory text =>
      cases stroke with
      | fails => exact .fails (.refl disk)
      | part count => exact .creates (grows_createFrom disk _ _) (.inl rfl)
      | whole => exact stepped_afterDirectory path text disk
  | made text => exact .handsOpen
  | openTemp text =>
      cases stroke with
      | fails => exact .fails (.refl disk)
      | part count => exact stepped_afterOpening path text disk
      | whole => exact stepped_afterOpening path text disk
  | fill place written rest =>
      cases stroke with
      | fails => exact .fails (.refl disk)
      | part count =>
          have filled : Stepped path disk (.fill place written (rest.take count ++ rest.drop count))
              (afterFilling place written (rest.take count) disk)
              (.fill place (written ++ rest.take count) (rest.drop count)) := .fills (.inl rfl)
          rwa [List.take_append_drop] at filled
      | whole =>
          have filled : Stepped path disk (.fill place written (rest ++ []))
              (afterFilling place written rest disk) .complete := .fills (.inr ⟨rfl, rfl⟩)
          rwa [List.append_nil] at filled
  | complete => exact .handsRename
  | replace =>
      cases stroke with
      | fails => exact .fails (.refl disk)
      | part count => exact stepped_afterReplacing path disk
      | whole => exact stepped_afterReplacing path disk
  | finished => exact .rests
  | failed => exact .fails (.refl disk)

/-! ## The end of a writing -/

/-- How many steps are left at most when nothing is done by halves. -/
def stepsLeft : Flush → Nat
  | .makeDirectory _ => 6
  | .made _ => 5
  | .openTemp _ => 4
  | .fill _ _ _ => 3
  | .complete => 2
  | .replace => 1
  | .finished | .failed => 0

/-- A writing with no steps left has ended. -/
theorem hasEnded_of_stepsLeft (none : flush.stepsLeft = 0) : flush.hasEnded = true := by
  cases flush with
  | finished => rfl
  | failed => rfl
  | _ => cases none

/-- A whole step leaves a step less. -/
theorem stepsLeft_step (path : String) (disk : Disk) (flush : Flush) :
    (flush.step path .whole disk).2.stepsLeft ≤ flush.stepsLeft - 1 := by
  cases flush with
  | makeDirectory text =>
      change (afterDirectory path text disk).2.stepsLeft ≤ 5
      rcases made : disk.createFrom [] (names (directory path)) with ⟨later, _ | _⟩
      · rw [afterDirectory, made]
        exact Nat.zero_le 5
      · rw [afterDirectory, made]
        exact Nat.le_refl 5
  | openTemp text =>
      change (afterOpening path text disk).2.stepsLeft ≤ 3
      unfold afterOpening
      split
      · exact Nat.zero_le 3
      · exact Nat.le_refl 3
  | replace =>
      change (afterReplacing path disk).2.stepsLeft ≤ 0
      unfold afterReplacing
      split <;> exact Nat.le_refl 0
  | _ => exact Nat.le_refl _

/-- A run of one step more begins with that step. -/
theorem run_succ (path : String) (disk : Disk) (flush : Flush) (steps : Nat) :
    flush.run path disk (steps + 1)
      = (flush.step path .whole disk).2.run path (flush.step path .whole disk).1 steps := rfl

/-- So many whole steps leave as many steps less. -/
theorem stepsLeft_run (path : String) (disk : Disk) (flush : Flush) (steps : Nat) :
    (flush.run path disk steps).2.stepsLeft ≤ flush.stepsLeft - steps := by
  induction steps generalizing disk flush with
  | zero => exact Nat.le_refl _
  | succ steps ih =>
      have first := stepsLeft_step path disk flush
      have rest := ih (flush.step path .whole disk).1 (flush.step path .whole disk).2
      rw [run_succ]
      omega

/-- **A writing is over after all its steps.** -/
theorem hasEnded_run (path : String) (disk : Disk) (table : RateTable) :
    ((begin path table).run path disk stepCount).2.hasEnded = true := by
  have most : (begin path table).stepsLeft ≤ stepCount := by
    unfold begin
    split
    · exact (by decide : 4 ≤ stepCount)
    · exact (by decide : 6 ≤ stepCount)
  refine hasEnded_of_stepsLeft (Nat.le_zero.mp ?_)
  exact Nat.le_trans (stepsLeft_run path disk (begin path table) stepCount)
    (Nat.le_of_eq (Nat.sub_eq_zero_of_le most))

/-! ## The file beside the real one -/

/-- Whether the writing relies on the file beside the real one. -/
def usesTemp : Flush → Bool
  | .fill _ _ _ | .complete | .replace => true
  | _ => false

/-- The writing is on its way to bring a text into the file. -/
def Writes (path : String) (disk : Disk) (text : String) : Flush → Prop
  | .makeDirectory later | .made later | .openTemp later => later = text
  | .fill place written rest =>
    place = some (landingOf (tempPath path))
      ∧ disk.node? (landingOf (tempPath path)) = some (.file (String.ofList written))
      ∧ landingOf (tempPath path) ≠ landingOf path ∧ written ++ rest = text.toList
  | .complete | .replace => disk.node? (landingOf (tempPath path)) = some (.file text)
  | .finished | .failed => True

/-- A writing that begins is on its way to bring its table into the file. -/
theorem writes_begin (path : String) (disk : Disk) (table : RateTable) :
    (begin path table).Writes path disk (render table) := by
  unfold begin
  split <;> exact rfl

/-- A file that is there stays when directories are created. -/
theorem Writes.grows (writes : flush.Writes path disk text) (grows : Grows disk later) :
    flush.Writes path later text := by
  cases flush with
  | fill place written rest =>
      obtain ⟨there, holds, apart, whole⟩ := writes
      exact ⟨there, grows.node? holds, apart, whole⟩
  | complete => exact grows.node? writes
  | replace => exact grows.node? writes
  | _ => exact writes

/-- Before the file beside the real one is opened nothing on the disk matters. -/
theorem Writes.of_not_usesTemp (writes : flush.Writes path disk text)
    (unused : flush.usesTemp = false) (later : Disk) : flush.Writes path later text := by
  cases flush with
  | fill => cases unused
  | complete => cases unused
  | replace => cases unused
  | _ => exact writes

/-- **A step brings the text of a writing further.** -/
theorem Writes.step (writes : flush.Writes path disk text)
    (stepped : Stepped path disk flush later next) : next.Writes path later text := by
  cases stepped with
  | creates _ becomes => rcases becomes with rfl | rfl <;> exact writes
  | fails => trivial
  | handsOpen => exact writes
  | opens leads unlike =>
      obtain rfl : _ = text := writes
      refine ⟨rfl, ?_, landingOf_tempPath_ne leads unlike, rfl⟩
      rw [node?_put (ne_nil_of_node? unlike), if_pos rfl]
  | @fills place written added rest next becomes =>
      obtain ⟨there, holds, apart, whole⟩ := writes
      have proper : landingOf (tempPath path) ≠ [] := @ne_nil_of_node? disk _ (by simp [holds])
      rw [there, afterFilling, Option.elim_some, writeAt_of_file holds]
      have full : (disk.put (landingOf (tempPath path))
          (.file (String.ofList (written ++ added)))).node? (landingOf (tempPath path))
            = some (.file (String.ofList (written ++ added))) := by
        rw [node?_put proper, if_pos rfl]
      rw [← List.append_assoc] at whole
      rcases becomes with rfl | ⟨rfl, rfl⟩
      · exact ⟨there, full, apart, whole⟩
      · have all : String.ofList (written ++ added) = text := by
          rw [← List.append_nil (written ++ added), whole, String.ofList_toList]
        rw [all] at full ⊢
        exact full
  | handsRename => exact writes
  | replaces => trivial
  | rests => trivial

/-- A step that neither relies on the file beside the real one nor opens it creates directories at
most. -/
theorem Stepped.grows (stepped : Stepped path disk flush later next)
    (unused : flush.usesTemp = false) (unopened : next.usesTemp = false) : Grows disk later := by
  cases stepped with
  | creates grows => exact grows
  | fails grows => exact grows
  | handsOpen => exact .refl disk
  | opens => cases unopened
  | fills => cases unused
  | handsRename => cases unused
  | replaces => cases unused
  | rests => exact .refl disk

/-- **A step does not disturb another writing** unless both rely on the file beside the real one. -/
theorem Writes.beside {other : Flush} (writes : other.Writes path disk text)
    (stepped : Stepped path disk flush later next)
    (apart : other.usesTemp = true → flush.usesTemp = false ∧ next.usesTemp = false) :
    other.Writes path later text := by
  cases uses : other.usesTemp with
  | false => exact writes.of_not_usesTemp uses later
  | true =>
      obtain ⟨unused, unopened⟩ := apart uses
      exact writes.grows (stepped.grows unused unopened)

/-! ## The real file -/

/-- The file of a path is there afterwards if it was there before, with the same content. -/
structure KeepsFile (path : String) (disk later : Disk) : Prop where
  file : ∀ content, later.node? (landingOf path) = some (.file content)
    ↔ disk.node? (landingOf path) = some (.file content)
  leads : disk.Leads path → later.Leads path

/-- More directories leave the file. -/
theorem KeepsFile.of_grows (grows : Grows disk later) : KeepsFile path disk later where
  file _ := ⟨grows.node?_file, grows.node?⟩
  leads := grows.leads

/-- Another file leaves the file, if it is no directory on the way. -/
theorem KeepsFile.of_put {place : List String} {content : String}
    (unlike : disk.node? place ≠ some .directory) (apart : place ≠ landingOf path) :
    KeepsFile path disk (disk.put place (.file content)) where
  file _ := by rw [node?_put (ne_nil_of_node? unlike), if_neg (Ne.symm apart)]
  leads := (sameDirectories_put unlike content).leads_iff.mpr

/-- The text has taken the place of the real file. -/
structure Replaces (path text : String) (flush : Flush) (later : Disk) (next : Flush) : Prop where
  before : flush = .replace
  after : next = .finished
  leads : later.Leads path
  file : later.node? (landingOf path) = some (.file text)

/-- **A step leaves the real file as it is, or it puts the whole text in its place**, and only then
does the writing come to a good end. -/
theorem Writes.keepsFile_or_replaces (writes : flush.Writes path disk text)
    (stepped : Stepped path disk flush later next) :
    (KeepsFile path disk later ∧ (next = .finished → flush = .finished))
      ∨ Replaces path text flush later next := by
  cases stepped with
  | creates grows becomes =>
      refine .inl ⟨.of_grows grows, ?_⟩
      rcases becomes with rfl | rfl <;> exact nofun
  | fails grows => exact .inl ⟨.of_grows grows, nofun⟩
  | handsOpen => exact .inl ⟨.of_grows (.refl disk), nofun⟩
  | opens leads unlike => exact .inl ⟨.of_put unlike (landingOf_tempPath_ne leads unlike), nofun⟩
  | fills becomes =>
      obtain ⟨there, holds, apart, _⟩ := writes
      rw [there, afterFilling, Option.elim_some, writeAt_of_file holds]
      refine .inl ⟨.of_put (by simp [holds]) apart, ?_⟩
      rcases becomes with rfl | ⟨rfl, _⟩ <;> exact nofun
  | handsRename => exact .inl ⟨.of_grows (.refl disk), nofun⟩
  | replaces renamed =>
      obtain ⟨content, _, holds, leads, unlike, rfl⟩ := rename_eq_ok_iff.mp renamed
      obtain rfl : content = text := by cases holds.symm.trans writes; rfl
      have file : disk.node? (landingOf (tempPath path)) ≠ some .directory := by simp [holds]
      have removed := sameDirectories_remove file
      have proper : landingOf path ≠ [] := ne_nil_of_node? unlike
      have unlikeLater : (disk.remove (landingOf (tempPath path))).node? (landingOf path)
          ≠ some .directory := fun directory => unlike ((removed _).mp directory)
      refine .inr ⟨rfl, rfl, ?_, by rw [node?_put proper, if_pos rfl]⟩
      exact (removed.trans (sameDirectories_put unlikeLater content)).leads_iff.mpr leads
  | rests => exact .inl ⟨.of_grows (.refl disk), fun _ => rfl⟩

/-- A writing that has ended stays at its end. -/
theorem Stepped.hasEnded (stepped : Stepped path disk flush later next)
    (ended : flush.hasEnded = true) : next.hasEnded = true := by
  cases stepped with
  | fails => rfl
  | rests => rfl
  | _ => cases ended

/-- The operation that replaces the real file is handed over when the text is complete. -/
theorem Stepped.eq_complete (stepped : Stepped path disk flush later .replace) :
    flush = .complete := by
  cases stepped with
  | handsRename => rfl
  | creates _ becomes => rcases becomes with becomes | becomes <;> cases becomes
  | fills becomes => rcases becomes with becomes | ⟨becomes, _⟩ <;> cases becomes

/-- An operation that creates the directory does nothing else before it is done. -/
theorem Stepped.makeDirectory_of_isPooled (stepped : Stepped path disk flush later next)
    (creates : ∃ text, flush = .makeDirectory text) (pooled : next.isPooled = true) :
    ∃ text, next = .makeDirectory text := by
  obtain ⟨text, rfl⟩ := creates
  cases stepped with
  | creates _ becomes =>
      rcases becomes with rfl | rfl
      · exact ⟨text, rfl⟩
      · cases pooled
  | fails => cases pooled

/-- The file beside the real one is opened by an operation that goes on. -/
theorem Stepped.usesTemp_or_isPooled (stepped : Stepped path disk flush later next)
    (uses : next.usesTemp = true) : flush.usesTemp = true ∨ next.isPooled = true := by
  cases stepped with
  | creates _ becomes => rcases becomes with rfl | rfl <;> cases uses
  | fails => cases uses
  | handsOpen => cases uses
  | opens => exact .inr rfl
  | fills => exact .inl rfl
  | handsRename => exact .inl rfl
  | replaces => cases uses
  | rests => cases uses

end FileCache.Flush

end WalletTopUp
