import Mathlib.Data.List.Sections
import Mathlib.Data.List.TakeWhile
import WalletTopUp.Proofs.Text.Percent
import WalletTopUp.Url.Parser

/-!
# References to places

A path that is written from names of encoded characters refers to the place of these names, at the
scheme and the authority of the address where it is resolved (`Url.resolve?_pathChars`).  The names
made of points are the only ones that do not stand for themselves (`Url.follow_of_plain`,
`Url.follow_of_dots`), and they are what `.` and `..` are encoded to.
-/

namespace WalletTopUp

open Text (IsPart)

/-! ## Cutting at a character -/

namespace Host

variable {mark : Char} {name : List Char}

/-- A mark starts a new piece, any other character belongs to the first one. -/
theorem splitAt_cons (mark c : Char) (text : List Char) :
    splitAt mark (c :: text)
      = if c = mark then [] :: splitAt mark text
        else match splitAt mark text with
          | [] => [[c]]
          | part :: rest => (c :: part) :: rest := rfl

/-- A name ends at the first mark behind it. -/
theorem splitAt_append (apart : mark ∉ name) (rest : List Char) :
    splitAt mark (name ++ mark :: rest) = name :: splitAt mark rest := by
  induction name with
  | nil => rw [List.nil_append, splitAt_cons, if_pos rfl]
  | cons c name ih =>
      have other : c ≠ mark := Ne.symm (List.ne_of_not_mem_cons apart)
      rw [List.cons_append, splitAt_cons, if_neg other, ih (List.not_mem_of_not_mem_cons apart)]

/-- A text without the mark is one piece. -/
theorem splitAt_of_not_mem (apart : mark ∉ name) : splitAt mark name = [name] := by
  induction name with
  | nil => rfl
  | cons c name ih =>
      have other : c ≠ mark := Ne.symm (List.ne_of_not_mem_cons apart)
      rw [splitAt_cons, if_neg other, ih (List.not_mem_of_not_mem_cons apart)]

end Host

namespace Url

variable {c : Char} {name text : List Char} {names place : List (List Char)}

/-! ## Characters of a path -/

/-- What keeps a character of an encoded part from being anything but itself. -/
theorem solid_of_isPart (part : IsPart c) :
    0x20 < c.toNat ∧ isPathSafe c = true ∧ c ≠ '#' ∧ c ≠ '?' ∧ c ≠ '/' ∧ c ≠ '\\' := by
  have all : ∀ n < 0x80, Text.isUnreserved (Char.ofNat n) = true ∨ Char.ofNat n = '%' →
      0x20 < (Char.ofNat n).toNat ∧ isPathSafe (Char.ofNat n) = true
        ∧ Char.ofNat n ≠ '#' ∧ Char.ofNat n ≠ '?' ∧ Char.ofNat n ≠ '/'
        ∧ Char.ofNat n ≠ '\\' := by decide +kernel
  have found := all c.toNat part.ascii
  rw [Char.ofNat_toNat] at found
  exact found part

/-- Names of encoded characters. -/
def ArePlain (names : List (List Char)) : Prop := ∀ name ∈ names, ∀ c ∈ name, IsPart c

/-- The characters of a path are its slashes and those of its names. -/
theorem mem_pathChars (plain : ArePlain names) (member : c ∈ pathChars (.segments names)) :
    c = '/' ∨ IsPart c := by
  obtain ⟨name, inside, written⟩ := List.mem_flatMap.mp member
  rcases List.mem_cons.mp written with slash | within
  · exact .inl slash
  · exact .inr (plain name inside c within)

/-- Cleaning takes nothing from a text of visible characters. -/
theorem clean_eq_self (visible : ∀ c ∈ text, 0x20 < c.toNat) : clean text = text := by
  have kept : ∀ text : List Char, (∀ c ∈ text, 0x20 < c.toNat) →
      text.dropWhile (fun c => decide (c.toNat ≤ 0x20)) = text := by
    intro text visible
    cases text with
    | nil => rfl
    | cons c rest =>
        apply List.dropWhile_cons_of_neg
        have := visible c List.mem_cons_self
        simp only [decide_eq_true_eq]
        omega
  have inside : ∀ c ∈ text, (!(c == '\t' || c == '\n' || c == '\r')) = true := by
    intro c member
    have seen := visible c member
    simp only [Bool.not_eq_true', Bool.or_eq_false_iff, beq_eq_false_iff_ne]
    refine ⟨⟨?_, ?_⟩, ?_⟩
    all_goals
      rintro rfl
      exact absurd seen (by decide)
  simp only [clean]
  rw [kept text visible, kept text.reverse fun c member => visible c (List.mem_reverse.mp member),
    List.reverse_reverse, List.filter_eq_self.mpr inside]

/-- A text with no character to cut at is not cut. -/
theorem cut_of_none {p : Char → Bool} (apart : ∀ c ∈ text, p c = false) :
    cut p text = (text, none) := by
  have all : text.dropWhile (fun c => !p c) = [] := by
    rw [List.dropWhile_eq_nil_iff]
    intro c member
    rw [apart c member]
    rfl
  rw [cut, all]

/-- Plain names written as a path are split into the same names. -/
theorem splitAt_pathChars (plain : ArePlain (name :: names)) :
    Host.splitAt '/' (name ++ pathChars (.segments names)) = name :: names := by
  have whole : ∀ name : List Char, (∀ c ∈ name, IsPart c) → '/' ∉ name := by
    intro name part member
    obtain ⟨_, _, _, _, slash, _⟩ := solid_of_isPart (part _ member)
    exact slash rfl
  induction names generalizing name with
  | nil =>
      rw [pathChars, List.flatMap_nil, List.append_nil]
      exact Host.splitAt_of_not_mem (whole name (plain name List.mem_cons_self))
  | cons next names ih =>
      have others : ArePlain (next :: names) :=
        fun other member => plain other (List.mem_cons_of_mem _ member)
      have first := whole name (plain name List.mem_cons_self)
      rw [pathChars, List.flatMap_cons, List.cons_append, Host.splitAt_append first]
      exact congrArg (name :: ·) (ih others)

/-- **The names of a path are read as they were written.** -/
theorem names_pathChars (isSpecial : Bool) (plain : ArePlain (name :: names)) :
    Url.names isSpecial (pathChars (.segments (name :: names))) = name :: names := by
  have whole : pathChars (.segments (name :: names))
      = '/' :: (name ++ pathChars (.segments names)) := by
    rw [pathChars, List.flatMap_cons, List.cons_append]
    rfl
  have kept : (name ++ pathChars (.segments names)).map
      (fun c => if isSlash isSpecial c then '/' else c) = name ++ pathChars (.segments names) := by
    have same : ∀ c ∈ name ++ pathChars (.segments names),
        (if isSlash isSpecial c then '/' else c) = c := by
      intro c member
      have written : c ∈ pathChars (.segments (name :: names)) := by
        rw [whole]
        exact List.mem_cons_of_mem _ member
      rcases mem_pathChars plain written with rfl | part
      · simp
      · obtain ⟨_, _, _, _, slash, backslash⟩ := solid_of_isPart part
        have apart : isSlash isSpecial c = false := by
          rw [isSlash, beq_false_of_ne slash, beq_false_of_ne backslash, Bool.and_false,
            Bool.or_false]
        rw [apart, if_neg Bool.false_ne_true]
    rw [List.map_congr_left same, List.map_id']
  have encoded : (name :: names).map (Text.percentEncode isPathSafe) = name :: names := by
    have same : ∀ other ∈ name :: names, Text.percentEncode isPathSafe other = other := by
      intro other member
      apply Text.percentEncode_eq_self
      intro c inside
      have part := plain other member c inside
      exact ⟨part.ascii, (solid_of_isPart part).2.1⟩
    rw [List.map_congr_left same, List.map_id']
  rw [whole, Url.names, kept, splitAt_pathChars plain, encoded]

/-! ## Names made of points -/

/-- Whether a name is not followed as a name of its own. -/
def isDots (name : List Char) : Bool := isDoubleDot name || isSingleDot name

/-- Of the names made of points that are not a double dot, each is a single one. -/
theorem isSingleDot_of_isDots (dots : isDots name = true) (other : ¬ isDoubleDot name = true) :
    isSingleDot name = true := by
  rwa [isDots, Bool.eq_false_iff.mpr other, Bool.false_or] at dots

/-- Names that stand for themselves are followed one after the other. -/
theorem follow_of_plain (up : List (List Char) → List (List Char))
    (plain : ∀ name ∈ names, isDots name = false) : follow up place names = place ++ names := by
  induction names generalizing place with
  | nil => rw [follow, List.append_nil]
  | cons name names ih =>
      obtain ⟨first, others⟩ := List.forall_mem_cons.mp plain
      obtain ⟨double, single⟩ := Bool.or_eq_false_iff.mp first
      rw [follow, double, single]
      simp only [Bool.false_eq_true, if_false]
      rw [ih others, List.append_assoc, List.singleton_append]

/-- Following names leads at most as deep as there are names. -/
theorem length_follow_le (place names : List (List Char)) :
    (follow List.dropLast place names).length ≤ place.length + names.length := by
  induction names generalizing place with
  | nil => exact Nat.le_refl _
  | cons name names ih =>
      rw [follow]
      refine Nat.le_trans (ih _) ?_
      have shorter := (List.dropLast_sublist place).length_le
      split
      · split <;> simp only [List.length_append, List.length_cons, List.length_nil] <;> omega
      · split
        · split <;> simp only [List.length_append, List.length_cons, List.length_nil] <;> omega
        · simp only [List.length_append, List.length_cons, List.length_nil]
          omega

/-- A name made of points adds nothing to a place, unless it is the last one. -/
theorem follow_dots_cons (place : List (List Char)) (dots : isDots name = true) (next : List Char)
    (rest : List (List Char)) :
    (follow List.dropLast place (name :: next :: rest)).length
      ≤ place.length + (next :: rest).length := by
  rw [follow]
  refine Nat.le_trans (length_follow_le _ _) (Nat.add_le_add_right ?_ _)
  have shorter := (List.dropLast_sublist place).length_le
  simp only [List.isEmpty_cons, Bool.false_eq_true, if_false]
  split
  · exact shorter
  · next other =>
      rw [if_pos (isSingleDot_of_isDots dots other)]

/-- An empty name stands for a last name made of points. -/
theorem getLast?_follow_dots (dots : isDots name = true) :
    (follow List.dropLast place [name]).getLast? = some [] := by
  rw [follow, follow]
  simp only [List.isEmpty_nil, if_true]
  split
  · exact List.getLast?_concat
  · next other =>
      rw [if_pos (isSingleDot_of_isDots dots other)]
      exact List.getLast?_concat

/-- A name made of points makes a path shorter, unless it is the last one: then an empty name
stands for it. -/
theorem follow_of_dots (place : List (List Char)) (dots : ∃ name ∈ names, isDots name = true) :
    (follow List.dropLast place names).length < place.length + names.length
      ∨ (∃ last ∈ names.getLast?, isDots last = true)
        ∧ (follow List.dropLast place names).getLast? = some [] := by
  induction names generalizing place with
  | nil =>
      obtain ⟨name, member, _⟩ := dots
      cases member
  | cons name names ih =>
      by_cases first : isDots name = true
      · cases names with
        | nil => exact .inr ⟨⟨name, rfl, first⟩, getLast?_follow_dots first⟩
        | cons next rest =>
            have shorter := follow_dots_cons place first next rest
            rw [List.length_cons]
            exact .inl (by omega)
      · obtain ⟨double, single⟩ := Bool.or_eq_false_iff.mp (Bool.eq_false_iff.mpr first)
        have later : ∃ other ∈ names, isDots other = true := by
          obtain ⟨other, member, points⟩ := dots
          rcases List.mem_cons.mp member with rfl | member
          · exact absurd points first
          · exact ⟨other, member, points⟩
        have found := ih (place ++ [name]) later
        have further : follow List.dropLast place (name :: names)
            = follow List.dropLast (place ++ [name]) names := by
          rw [follow, double, single]
          simp only [Bool.false_eq_true, if_false]
        have nonempty : names ≠ [] := by
          obtain ⟨other, member, _⟩ := later
          exact List.ne_nil_of_mem member
        rw [further, List.getLast?_cons_of_ne_nil nonempty, List.length_cons]
        rw [List.length_append, List.length_singleton] at found
        rcases found with shorter | ended
        · exact .inl (by omega)
        · exact .inr ended

/-- The names made of points, in small letters. -/
def dotNames : List (List Char) :=
  [['.'], ['%', '2', 'e'], ['.', '.'], ['.', '%', '2', 'e'], ['%', '2', 'e', '.'],
    ['%', '2', 'e', '%', '2', 'e']]

/-- A dot segment is one of the listed spellings once it is in lower case. -/
theorem lower_mem_dotNames (dots : isDots name = true) : name.map Char.toLower ∈ dotNames := by
  rcases Bool.or_eq_true_iff.mp dots with double | single
  · unfold isDoubleDot at double
    split at double
    case h_5 => cases double
    all_goals
      next lower =>
        rw [lower]
        decide
  · rcases Bool.or_eq_true_iff.mp single with same | lower
    · rw [beq_iff_eq.mp same]
      decide
    · rw [beq_iff_eq.mp lower]
      decide

/-- The characters that a small letter of a name made of points may stand for. -/
def spellings (lower : Char) : List Char := if lower = 'e' then ['e', 'E'] else [lower]

/-- **Names made of points are decoded to points.** -/
theorem percentDecode_of_isDots (ascii : ∀ c ∈ name, c.toNat < 0x80) (dots : isDots name = true) :
    Text.percentDecode name = [0x2e] ∨ Text.percentDecode name = [0x2e, 0x2e] := by
  have letters : ∀ n < 0x80, (Char.ofNat n).toLower ∈ dotNames.flatten →
      Char.ofNat n ∈ spellings (Char.ofNat n).toLower := by decide +kernel
  have all : ∀ lower ∈ dotNames, ∀ name ∈ (lower.map spellings).sections,
      Text.percentDecode name = [0x2e] ∨ Text.percentDecode name = [0x2e, 0x2e] := by
    decide +kernel
  have lower := lower_mem_dotNames dots
  apply all _ lower
  rw [List.mem_sections, List.map_map, List.forall₂_map_right_iff, List.forall₂_same]
  intro c member
  have found := letters c.toNat (ascii c member)
  rw [Char.ofNat_toNat] at found
  exact found (List.mem_flatten.mpr ⟨_, lower, List.mem_map_of_mem member⟩)

/-! ## Resolving -/

/-- **A path of encoded names refers to the place that the names lead to.** -/
theorem resolve?_pathChars {base : Url} {old : List (List Char)}
    (places : base.path = .segments old)
    (noFile : base.scheme ≠ ['f', 'i', 'l', 'e'])
    (plain : ArePlain (name :: names)) :
    base.resolve? (pathChars (.segments (name :: names)))
      = some { base with
          path := .segments (follow List.dropLast [] (name :: names))
          query := none
          fragment := none } := by
  have cleaned : clean (pathChars (.segments (name :: names)))
      = pathChars (.segments (name :: names)) := by
    apply clean_eq_self
    intro c member
    rcases mem_pathChars plain member with rfl | part
    · decide
    · exact (solid_of_isPart part).1
  have whole : ∀ mark : Char, mark = '#' ∨ mark = '?' →
      cut (· == mark) (pathChars (.segments (name :: names)))
        = (pathChars (.segments (name :: names)), none) := by
    intro mark which
    apply cut_of_none
    intro c member
    rcases mem_pathChars plain member with rfl | part
    · rcases which with rfl | rfl <;> rfl
    · obtain ⟨_, _, hash, question, _, _⟩ := solid_of_isPart part
      rcases which with rfl | rfl
      · exact beq_false_of_ne hash
      · exact beq_false_of_ne question
  have scheme : (base.scheme == ['f', 'i', 'l', 'e']) = false := beq_false_of_ne noFile
  simp only [resolve?, places, cleaned, whole '#' (.inl rfl), whole '?' (.inr rfl), root, scheme,
    names_pathChars _ plain, Option.map_none, Bool.false_eq_true, if_false]

/-- Named values change nothing but the query. -/
theorem withPairs_eq (url : Url) (pairs : List (String × String)) :
    (url.withPairs pairs).scheme = url.scheme ∧ (url.withPairs pairs).authority = url.authority
      ∧ (url.withPairs pairs).path = url.path := by
  rw [withPairs]
  split
  · exact ⟨rfl, rfl, rfl⟩
  · exact ⟨rfl, rfl, rfl⟩

end Url

end WalletTopUp
