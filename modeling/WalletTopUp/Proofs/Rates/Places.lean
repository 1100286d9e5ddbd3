import WalletTopUp.Rates.Disk

/-!
# Places on a disk

A path can be followed if all the places that its names are entered from are directories, and then
it leads where its names lead, whatever else is on the disk (`Disk.place_eq_ok_iff`).  So it matters
only where the directories are.  A file is written without changing that, and creating directories
touches nothing that is there (`Disk.grows_createFrom`).
-/

namespace WalletTopUp

namespace Disk

variable {disk later : Disk} {place other target : List String} {names : List String}
  {path content : String}

/-! ## Nodes -/

/-- Once all entries of a place have been removed, the others are found as before. -/
theorem lookup_filter_ne (nodes : List (List String × DiskNode)) (place other : List String) :
    List.lookup other (nodes.filter fun entry => entry.1 != place)
      = if other = place then none else List.lookup other nodes := by
  induction nodes with
  | nil => simp
  | cons entry nodes ih =>
      obtain ⟨name, node⟩ := entry
      by_cases found : other = name
      · subst found
        by_cases removed : other = place
        · rw [List.filter_cons_of_neg (by simpa using removed), ih, if_pos removed, if_pos removed]
        · rw [List.filter_cons_of_pos (by simpa using removed), List.lookup_cons_self,
            List.lookup_cons_self, if_neg removed]
      · have unlike : (other == name) = false := beq_eq_false_iff_ne.mpr found
        rw [List.lookup_cons, unlike, List.filter_cons]
        split
        · rw [List.lookup_cons, unlike]
          exact ih
        · exact ih

/-- What is put at a place stands there, and everything else stands where it stood. -/
theorem node?_put (proper : place ≠ []) (node : DiskNode) (other : List String) :
    (disk.put place node).node? other = if other = place then some node else disk.node? other := by
  cases other with
  | nil => rw [if_neg fun same => proper same.symm]; rfl
  | cons name rest =>
      simp only [node?, put, List.lookup_cons, lookup_filter_ne]
      by_cases same : name :: rest = place
      · simp [same]
      · have unlike : (name :: rest == place) = false := beq_eq_false_iff_ne.mpr same
        simp [same, unlike]

/-- After a removal nothing is left at the place, and everything else is as it was. -/
theorem node?_remove (proper : place ≠ []) (other : List String) :
    (disk.remove place).node? other = if other = place then none else disk.node? other := by
  cases other with
  | nil => rw [if_neg fun same => proper same.symm]; rfl
  | cons name rest => simp only [node?, remove, lookup_filter_ne]

/-- There is always a directory at the root. -/
theorem ne_nil_of_node? (unlike : disk.node? place ≠ some .directory) : place ≠ [] := by
  rintro rfl
  exact unlike rfl

/-! ## Following names -/

/-- Whether a name leads nowhere. -/
def isIdle (name : String) : Bool := name == "" || name == "."

/-- A name that leads nowhere is empty or a single point. -/
theorem isIdle_iff {name : String} : isIdle name = true ↔ name = "" ∨ name = "." := by
  simp [isIdle]

/-- A name stays where it is, leads out, or leads further. -/
theorem enter_cases (place : List String) (name : String) :
    (isIdle name = true ∧ enter place name = place)
      ∨ (name = ".." ∧ enter place name = place.dropLast)
      ∨ ((isIdle name = false ∧ name ≠ "..") ∧ enter place name = place ++ [name]) := by
  unfold enter
  split
  · next idle => exact .inl ⟨isIdle_iff.mpr idle, rfl⟩
  · next proper =>
      split
      · next leaves => exact .inr (.inl ⟨leaves, rfl⟩)
      · next descends =>
          have busy : isIdle name = false :=
            Bool.eq_false_iff.mpr fun idle => proper (isIdle_iff.mp idle)
          exact .inr (.inr ⟨⟨busy, descends⟩, rfl⟩)

/-- The places that names are entered from, one after the other. -/
def through (place : List String) : List String → List (List String)
  | [] => []
  | name :: rest => place :: through (enter place name) rest

/-- The place that names lead to, if they can be followed. -/
def landing (place names : List String) : List String := names.foldl enter place

/-- The place of a path, if it can be followed. -/
@[irreducible]
def landingOf (path : String) : List String := landing [] (Disk.names path)

/-- A path can be followed. -/
def Leads (disk : Disk) (path : String) : Prop :=
  path ≠ "" ∧ ∀ place ∈ through [] (Disk.names path), disk.node? place = some .directory

/-- Names are passed one after another, the second part from where the first has led. -/
theorem through_append (place first second : List String) :
    through place (first ++ second)
      = through place first ++ through (landing place first) second := by
  induction first generalizing place with
  | nil => rfl
  | cons name first ih => exact congrArg (place :: ·) (ih _)

/-- Names lead on from where the names before have led. -/
theorem landing_append (place first second : List String) :
    landing place (first ++ second) = landing (landing place first) second := List.foldl_append

/-- Names can be followed exactly if every place they are entered from is a directory. -/
theorem follow_eq_ok_iff :
    disk.follow place names = .ok target
      ↔ (∀ passed ∈ through place names, disk.node? passed = some .directory)
        ∧ target = landing place names := by
  induction names generalizing place with
  | nil =>
      simp only [follow, through, landing, List.not_mem_nil, false_implies, implies_true, true_and,
        Except.ok.injEq, List.foldl_nil]
      exact eq_comm
  | cons name names ih =>
      simp only [follow, through, List.forall_mem_cons]
      split
      · next missing => simp [missing]
      · next blocked => simp [blocked]
      · next directory => simp only [ih, directory, true_and]; rfl

/-- **A path leads to its place if it goes through directories only.** -/
theorem place_eq_ok_iff :
    disk.place path = .ok place ↔ disk.Leads path ∧ place = landingOf path := by
  unfold Disk.place Leads
  split
  · next empty => simp [String.isEmpty_iff.mp empty]
  · next full =>
      have proper : path ≠ "" := fun empty => full (String.isEmpty_iff.mpr empty)
      simp only [follow_eq_ok_iff, proper, ne_eq, not_false_eq_true, true_and, landingOf]

/-- A path that can be followed has its place. -/
theorem place_of_leads (leads : disk.Leads path) : disk.place path = .ok (landingOf path) :=
  place_eq_ok_iff.mpr ⟨leads, rfl⟩

/-- A file is read exactly if its path can be followed and it is there. -/
theorem read_eq_ok_iff :
    disk.read path = .ok content
      ↔ disk.Leads path ∧ disk.node? (landingOf path) = some (.file content) := by
  unfold read
  split
  · next error refused =>
      refine iff_of_false (by simp) fun found => ?_
      cases refused.symm.trans (place_of_leads found.1)
  · next place found =>
      obtain ⟨leads, rfl⟩ := place_eq_ok_iff.mp found
      split
      · next missing => simp [missing]
      · next directory => simp [directory]
      · next there => simp [leads, there]

/-- A file that is opened to be written is emptied, and its place is known. -/
theorem truncate_eq_ok_iff :
    disk.truncate path = .ok (later, place)
      ↔ disk.Leads path ∧ place = landingOf path ∧ disk.node? place ≠ some .directory
        ∧ later = disk.put place (.file "") := by
  unfold truncate
  split
  · next error refused =>
      refine iff_of_false (by simp) fun found => ?_
      cases refused.symm.trans (place_of_leads found.1)
  · next place found =>
      obtain ⟨leads, rfl⟩ := place_eq_ok_iff.mp found
      split
      · next directory =>
          refine iff_of_false (by simp) ?_
          rintro ⟨_, rfl, unlike, _⟩
          exact unlike directory
      · next unlike =>
          simp only [Except.ok.injEq, Prod.mk.injEq]
          constructor
          · rintro ⟨rfl, rfl⟩
            exact ⟨leads, rfl, unlike, rfl⟩
          · rintro ⟨_, rfl, _, rfl⟩
            exact ⟨rfl, rfl⟩

/-- A file is given another path if there is no directory in its way. -/
theorem rename_eq_ok_iff {source target : String} :
    disk.rename source target = .ok later
      ↔ ∃ content, disk.Leads source ∧ disk.node? (landingOf source) = some (.file content)
        ∧ disk.Leads target ∧ disk.node? (landingOf target) ≠ some .directory
        ∧ later = (disk.remove (landingOf source)).put (landingOf target) (.file content) := by
  unfold rename
  split
  · next content sourcePlace targetPlace found foundSource foundTarget =>
      obtain ⟨leadsSource, there⟩ := read_eq_ok_iff.mp found
      obtain ⟨_, rfl⟩ := place_eq_ok_iff.mp foundSource
      obtain ⟨leadsTarget, rfl⟩ := place_eq_ok_iff.mp foundTarget
      split
      · next directory =>
          refine iff_of_false (by simp) ?_
          rintro ⟨_, _, _, _, unlike, _⟩
          exact unlike directory
      · next unlike =>
          simp only [Except.ok.injEq]
          constructor
          · rintro rfl
            exact ⟨content, leadsSource, there, leadsTarget, unlike, rfl⟩
          · rintro ⟨other, _, same, _, _, rfl⟩
            cases there.symm.trans same
            rfl
  · next error refused =>
      refine iff_of_false (by simp) ?_
      rintro ⟨content, leads, there, _⟩
      cases refused.symm.trans (read_eq_ok_iff.mpr ⟨leads, there⟩)
  · next error refused _ =>
      refine iff_of_false (by simp) ?_
      rintro ⟨_, leads, _⟩
      cases refused.symm.trans (place_of_leads leads)
  · next error refused _ _ =>
      refine iff_of_false (by simp) ?_
      rintro ⟨_, _, _, leads, _⟩
      cases refused.symm.trans (place_of_leads leads)

/-! ## What stays as it is -/

/-- Both disks have the same directories. -/
def SameDirectories (disk later : Disk) : Prop :=
  ∀ place, later.node? place = some .directory ↔ disk.node? place = some .directory

/-- Which paths can be followed depends on the directories only. -/
theorem SameDirectories.leads_iff (same : SameDirectories disk later) :
    later.Leads path ↔ disk.Leads path := by
  simp only [Leads, same _]

/-- Writing a file leaves all directories as they are. -/
theorem sameDirectories_put (unlike : disk.node? place ≠ some .directory) (content : String) :
    SameDirectories disk (disk.put place (.file content)) := by
  intro other
  rw [node?_put (ne_nil_of_node? unlike)]
  split
  · next same =>
      subst same
      exact iff_of_false (by simp) unlike
  · exact Iff.rfl

/-- Removing a file leaves all directories. -/
theorem sameDirectories_remove (unlike : disk.node? place ≠ some .directory) :
    SameDirectories disk (disk.remove place) := by
  intro other
  rw [node?_remove (ne_nil_of_node? unlike)]
  split
  · next same =>
      subst same
      exact iff_of_false (by simp) unlike
  · exact Iff.rfl

/-- Changes that leave all directories do so one after another. -/
theorem SameDirectories.trans {last : Disk} (first : SameDirectories disk later)
    (second : SameDirectories later last) : SameDirectories disk last :=
  fun place => (second place).trans (first place)

/-- The second disk has directories more, and everything else is as it was. -/
def Grows (disk later : Disk) : Prop :=
  ∀ place, later.node? place = disk.node? place
    ∨ (disk.node? place = none ∧ later.node? place = some .directory)

/-- A disk that stays as it is has grown by nothing. -/
theorem Grows.refl (disk : Disk) : Grows disk disk := fun _ => .inl rfl

/-- Whatever there was is still there on a disk that has grown. -/
theorem Grows.node? {node : DiskNode} (grows : Grows disk later)
    (there : disk.node? place = some node) : later.node? place = some node := by
  rcases grows place with same | ⟨missing, _⟩
  · exact same.trans there
  · cases missing.symm.trans there

/-- A file that is there afterwards was there before. -/
theorem Grows.node?_file (grows : Grows disk later)
    (there : later.node? place = some (.file content)) :
    disk.node? place = some (.file content) := by
  rcases grows place with same | ⟨_, directory⟩
  · exact same.symm.trans there
  · cases directory.symm.trans there

/-- A path can still be followed on a disk that has grown. -/
theorem Grows.leads (grows : Grows disk later) (leads : disk.Leads path) : later.Leads path :=
  ⟨leads.1, fun place member => grows.node? (leads.2 place member)⟩

/-- **Creating directories touches nothing that is there.** -/
theorem grows_createFrom (disk : Disk) (place names : List String) :
    Grows disk (disk.createFrom place names).1 := by
  induction names generalizing disk place with
  | nil => exact fun _ => .inl rfl
  | cons name names ih =>
      simp only [createFrom]
      split
      · exact ih _ _
      · exact fun _ => .inl rfl
      · next missing =>
          intro other
          have proper : enter place name ≠ [] :=
            @ne_nil_of_node? disk _ (by rw [missing]; simp)
          have after := ih (disk.put (enter place name) .directory) (enter place name) other
          rw [node?_put proper] at after
          by_cases same : other = enter place name
          · subst same
            rw [if_pos rfl] at after
            refine .inr ⟨missing, ?_⟩
            rcases after with same | ⟨_, there⟩
            · exact same
            · exact there
          · rwa [if_neg same] at after

/-! ## Writing to the end of a file -/

/-- Characters that are written at the end of a text are added to it. -/
theorem splice_length (text added : List Char) :
    splice text text.length added = text ++ added := by
  simp [splice]

/-- Writing at the end of a file puts more after what is there. -/
theorem writeAt_of_file {written added : List Char}
    (there : disk.node? place = some (.file (String.ofList written))) :
    disk.writeAt place written.length added
      = disk.put place (.file (String.ofList (written ++ added))) := by
  simp only [writeAt, there, String.toList_ofList, splice_length]

/-! ## Where a path without a name leads -/

/-- Whatever a place is in is a directory. -/
def Rooted (disk : Disk) (place : List String) : Prop :=
  ∀ outer, outer <+: place → outer ≠ place → disk.node? outer = some .directory

/-- A place entered from a directory lies in directories only. -/
theorem Rooted.enter {name : String} (rooted : Rooted disk place)
    (directory : disk.node? place = some .directory) : Rooted disk (enter place name) := by
  rcases enter_cases place name with ⟨_, same⟩ | ⟨_, same⟩ | ⟨_, same⟩
  · rw [same]
    exact rooted
  · rw [same]
    intro outer inside unlike
    refine rooted outer (inside.trans (List.dropLast_prefix place)) ?_
    rintro rfl
    exact unlike (inside.eq_of_length_le (List.dropLast_prefix outer).length_le)
  · rw [same]
    intro outer inside unlike
    have before := (List.prefix_concat_iff.mp inside).resolve_left unlike
    by_cases same : outer = place
    · exact same ▸ directory
    · exact rooted outer before same

/-- Names that are followed through directories lead to a place that lies in directories only. -/
theorem Rooted.landing (rooted : Rooted disk place)
    (directories : ∀ passed ∈ through place names, disk.node? passed = some .directory) :
    Rooted disk (landing place names) := by
  induction names generalizing place with
  | nil => exact rooted
  | cons name names ih =>
      obtain ⟨first, others⟩ := List.forall_mem_cons.mp directories
      exact ih (rooted.enter first) others

/-- The root lies in nothing. -/
theorem rooted_nil : Rooted disk [] := fun _ inside unlike =>
  (unlike (List.prefix_nil.mp inside)).elim

/-- Where `..` leads from a directory there is a directory. -/
theorem Rooted.node?_dropLast (rooted : Rooted disk place)
    (directory : disk.node? place = some .directory) :
    disk.node? place.dropLast = some .directory := by
  by_cases same : place.dropLast = place
  · rw [same]
    exact directory
  · exact rooted _ (List.dropLast_prefix place) same

end Disk

end WalletTopUp
