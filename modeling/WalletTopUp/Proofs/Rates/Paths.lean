import WalletTopUp.Proofs.Rates.Places
import WalletTopUp.Rates.File

/-!
# The place of the file beside the real one

A path whose last name is not `..` leads to a place of this name, and the file beside the real one
has another name in the same directory.  Any other path leads to a directory if it can be followed,
and a directory is never written.  Either way a file that can be written beside the real one is not
the real one (`FileCache.landingOf_tempPath_ne`).
-/

namespace WalletTopUp

open Disk

/-! ## Texts in parts -/

/-- No part of a split text holds the separator. -/
theorem not_mem_of_mem_splitOn {separator : Char} {text part : List Char}
    (member : part ∈ text.splitOn separator) : separator ∉ part := by
  induction text generalizing part with
  | nil => simp_all
  | cons c text ih =>
      rw [List.splitOn_cons_eq_if_modifyHead] at member
      split at member
      · rcases List.mem_cons.mp member with rfl | member
        · simp
        · exact ih member
      · next other =>
          cases parts : text.splitOn separator with
          | nil => simp [parts] at member
          | cons first others =>
              simp only [parts, List.modifyHead_cons, List.mem_cons] at member ih
              rcases member with rfl | member
              · have apart : separator ≠ c := fun same => other (beq_iff_eq.mpr same.symm)
                exact List.not_mem_cons_of_ne_of_not_mem apart (ih (.inl rfl))
              · exact ih (.inr member)

/-- A last part is joined on with one more separator. -/
theorem intercalate_concat (separator last : List Char) {parts : List (List Char)}
    (some : parts ≠ []) :
    separator.intercalate (parts ++ [last])
      = separator.intercalate parts ++ separator ++ last := by
  induction parts with
  | nil => exact absurd rfl some
  | cons first parts ih =>
      cases parts with
      | nil => simp [List.intercalate_cons_cons]
      | cons second parts =>
          simp only [List.cons_append, List.intercalate_cons_cons] at ih ⊢
          rw [ih (by simp)]
          simp

/-- The names of a path hold no slash. -/
theorem slash_notMem_of_mem_names {path name : String} (member : name ∈ names path) :
    '/' ∉ name.toList := by
  obtain ⟨part, inside, rfl⟩ := List.mem_map.mp member
  rw [String.toList_ofList]
  exact not_mem_of_mem_splitOn inside

/-- Names without a slash that are joined by slashes are the names of the path. -/
theorem names_intercalate {parts : List String} (some : parts ≠ [])
    (plain : ∀ name ∈ parts, '/' ∉ name.toList) :
    names (String.intercalate "/" parts) = parts := by
  have slash : "/".toList = ['/'] := rfl
  rw [names, String.toList_intercalate, slash, List.splitOn_intercalate, List.map_map]
  · simp
  · intro part member
    obtain ⟨name, inside, rfl⟩ := List.mem_map.mp member
    exact plain name inside
  · simpa using some

namespace FileCache

variable {disk : Disk} {path name : String}

/-! ## The names of the files -/

/-- What follows the last point of a name has no point in it. -/
theorem stem_spec (name : String) :
    stem name = name ∨ ∃ last, '.' ∉ last ∧ name.toList = (stem name).toList ++ '.' :: last := by
  unfold stem
  simp only
  split
  · exact .inl rfl
  · next full =>
      right
      have parts : name.toList.splitOn '.' ≠ [] := List.splitOn_ne_nil '.' _
      refine ⟨(name.toList.splitOn '.').getLast parts,
        not_mem_of_mem_splitOn (List.getLast_mem parts), ?_⟩
      have before : (name.toList.splitOn '.').dropLast ≠ [] := by
        intro empty
        rw [empty] at full
        exact full rfl
      rw [String.toList_ofList]
      calc name.toList
          = ['.'].intercalate (name.toList.splitOn '.') := (List.intercalate_splitOn '.').symm
        _ = ['.'].intercalate ((name.toList.splitOn '.').dropLast
              ++ [(name.toList.splitOn '.').getLast parts]) := by
            rw [List.dropLast_concat_getLast]
        _ = _ := by rw [intercalate_concat _ _ before]; simp

/-- A temporary name is the stem with its own ending. -/
theorem tempName_toList (name : String) :
    (tempName name).toList = (stem name).toList ++ ".json.tmp".toList := String.toList_append

/-- The file beside the real one has another name. -/
theorem tempName_ne (name : String) : tempName name ≠ name := by
  intro same
  have texts := tempName_toList name
  rw [same] at texts
  rcases stem_spec name with whole | ⟨last, plain, split⟩
  · rw [whole] at texts
    simpa using congrArg List.length texts
  · have rest := List.append_cancel_left (split.symm.trans texts)
    have tail : last = ['j', 's', 'o', 'n', '.', 't', 'm', 'p'] := List.tail_eq_of_cons_eq rest
    exact plain (tail ▸ by decide)

/-- The stem of a name with no slash holds none. -/
theorem slash_notMem_stem (plain : '/' ∉ name.toList) : '/' ∉ (stem name).toList := by
  rcases stem_spec name with whole | ⟨last, _, split⟩
  · rwa [whole]
  · rw [split] at plain
    exact fun member => plain (List.mem_append_left _ member)

/-- The temporary name of a name with no slash holds none. -/
theorem slash_notMem_tempName (plain : '/' ∉ name.toList) : '/' ∉ (tempName name).toList := by
  rw [tempName_toList, List.mem_append]
  rintro (member | member)
  · exact slash_notMem_stem plain member
  · exact absurd member (by decide)

/-- The name of the file beside the real one is a proper name. -/
theorem enter_tempName (place : List String) (name : String) :
    enter place (tempName name) = place ++ [tempName name] := by
  have long : 9 ≤ (tempName name).toList.length := by
    rw [tempName_toList, List.length_append]
    exact Nat.le_add_left ..
  have shorter {other : String} (short : other.toList.length < 9) : tempName name ≠ other := by
    rintro rfl
    omega
  have empty : tempName name ≠ "" := shorter (by decide)
  have point : tempName name ≠ "." := shorter (by decide)
  have points : tempName name ≠ ".." := shorter (by decide)
  rw [enter, if_neg (not_or.mpr ⟨empty, point⟩), if_neg points]

/-! ## Where a path leads -/

/-- How a path is taken apart. -/
inductive Parted (path : String) : List String × Option String → Prop
  /-- There is a last name, and after it nothing leads anywhere. -/
  | named {before trail : List String} {name : String} :
    names path = before ++ name :: trail → (isIdle name = false ∧ name ≠ "..") →
      (∀ other ∈ trail, isIdle other = true) → Parted path (before, some name)
  | leaving {before trail : List String} :
    names path = before ++ ".." :: trail → (∀ other ∈ trail, isIdle other = true) →
      Parted path (before, none)
  | idle : (∀ other ∈ names path, isIdle other = true) → Parted path ([], none)

/-- A path is split into a directory and a name that make it up. -/
theorem parted_splitPath (path : String) : Parted path (splitPath path) := by
  have whole := congrArg List.reverse
    (List.takeWhile_append_dropWhile (p := isIdle) (l := (names path).reverse))
  rw [List.reverse_reverse, List.reverse_append] at whole
  have trail : ∀ other ∈ ((names path).reverse.takeWhile isIdle).reverse, isIdle other = true :=
    fun other member =>
      List.all_eq_true.mp List.all_takeWhile other (List.mem_reverse.mp member)
  unfold splitPath
  split
  · next rest =>
      have rest : (names path).reverse.dropWhile isIdle = [] := rest
      rw [rest] at whole
      exact .idle (whole ▸ by simpa using trail)
  · next last before rest =>
      have rest : (names path).reverse.dropWhile isIdle = last :: before := rest
      rw [rest, List.reverse_cons, List.append_assoc] at whole
      have proper : isIdle last = false := by
        have head := List.head?_dropWhile_not isIdle (names path).reverse
        rw [rest] at head
        simpa using head
      by_cases leaves : last = ".."
      · subst leaves
        exact .leaving whole.symm trail
      · rw [if_neg leaves]
        exact .named whole.symm ⟨proper, leaves⟩ trail

/-- Names that lead nowhere land where they start. -/
theorem landing_of_idle {place trail : List String} (idle : ∀ name ∈ trail, isIdle name = true) :
    landing place trail = place := by
  induction trail generalizing place with
  | nil => rfl
  | cons name trail ih =>
      obtain ⟨first, others⟩ := List.forall_mem_cons.mp idle
      have stays : enter place name = place := if_pos (isIdle_iff.mp first)
      calc landing place (name :: trail)
          = landing (enter place name) trail := rfl
        _ = place := by rw [stays, ih others]

/-- A path without a last name leads to a directory. -/
theorem node?_of_nameless (nameless : (splitPath path).2 = none) (leads : disk.Leads path) :
    disk.node? (landingOf path) = some .directory := by
  have parted := parted_splitPath path
  generalize splitPath path = parts at parted nameless
  cases parted with
  | named => cases nameless
  | @leaving before trail whole idle =>
      have steps := leads.2
      rw [whole, through_append] at steps
      obtain ⟨first, rest⟩ := List.forall_mem_append.mp steps
      have directory : disk.node? (landing [] before) = some .directory :=
        rest _ List.mem_cons_self
      have place : landingOf path = (landing [] before).dropLast := by
        rw [landingOf, whole, landing_append]
        exact landing_of_idle idle
      rw [place]
      exact (rooted_nil.landing first).node?_dropLast directory
  | idle idle =>
      rw [landingOf, landing_of_idle idle]
      rfl

/-- A path with a last name leads to another place than the path of the file beside it. -/
theorem landingOf_tempPath_of_named (named : (splitPath path).2 ≠ none) :
    landingOf (tempPath path) ≠ landingOf path := by
  have parted := parted_splitPath path
  unfold tempPath
  generalize splitPath path = parts at parted named ⊢
  cases parted with
  | leaving => exact absurd rfl named
  | idle => exact absurd rfl named
  | @named before trail name whole proper idle =>
      have plain : ∀ other ∈ before ++ [tempName name], '/' ∉ other.toList := by
        have inside : ∀ other ∈ names path, '/' ∉ other.toList :=
          fun other => slash_notMem_of_mem_names
        rw [whole] at inside
        obtain ⟨first, rest⟩ := List.forall_mem_append.mp inside
        refine List.forall_mem_append.mpr ⟨first, ?_⟩
        exact List.forall_mem_singleton.mpr
          (slash_notMem_tempName (rest name List.mem_cons_self))
      have real : landingOf path = landing [] before ++ [name] := by
        have further : enter (landing [] before) name = landing [] before ++ [name] := by
          rcases enter_cases (landing [] before) name with ⟨stays, _⟩ | ⟨leaves, _⟩ | ⟨_, further⟩
          · cases stays.symm.trans proper.1
          · exact absurd leaves proper.2
          · exact further
        rw [landingOf, whole, landing_append, ← further]
        exact landing_of_idle idle
      change landingOf (String.intercalate "/" (before ++ [tempName name])) ≠ landingOf path
      rw [landingOf, names_intercalate (by simp) plain, landing_append, real]
      change enter (landing [] before) (tempName name) ≠ _
      rw [enter_tempName]
      intro same
      exact tempName_ne name (List.singleton_inj.mp (List.append_cancel_left same))

/-- **A file that can be written beside the real one is not the real one.** -/
theorem landingOf_tempPath_ne (leads : disk.Leads (tempPath path))
    (unlike : disk.node? (landingOf (tempPath path)) ≠ some .directory) :
    landingOf (tempPath path) ≠ landingOf path := by
  cases name : (splitPath path).2 with
  | some _ => exact landingOf_tempPath_of_named (by simp [name])
  | none =>
      have itself : tempPath path = path := by
        unfold tempPath
        split
        · rfl
        · next found => simp [found] at name
      rw [itself] at leads unlike
      exact absurd (node?_of_nameless name leads) unlike

end FileCache

end WalletTopUp
