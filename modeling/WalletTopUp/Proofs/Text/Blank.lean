import Mathlib.Data.List.DropRight
import WalletTopUp.Text.Blank

/-!
# Trimming

Trimming takes off what it has to take off and nothing else.  Blanks around a text do not change
what is left of it (`Text.trim_append_left`, `Text.trim_append_right`), and a text that neither
starts nor ends with a blank stays as it is (`Text.IsTrimmed.trim_eq`).
-/

namespace WalletTopUp

namespace Text

variable {text before behind : List Char} {p : Char → Bool}

/-- A digit is not blank. -/
theorem isBlank_of_isDigit {c : Char} (digit : c.isDigit = true) : isBlank c = false := by
  have bounds : 48 ≤ c.toNat ∧ c.toNat ≤ 57 := Char.isDigit_iff_toNat.mp digit
  simp only [isBlank, Bool.or_eq_false_iff, Bool.and_eq_false_iff, decide_eq_false_iff_not,
    beq_eq_false_iff_ne]
  omega

/-! ## One end of a text -/

/-- Blanks before a text are trimmed. -/
theorem trimStart_append (blanks : ∀ c ∈ before, isBlank c = true) (text : List Char) :
    trimStart (before ++ text) = trimStart text :=
  List.dropWhile_append_of_pos blanks

/-- Nothing is trimmed before a solid character. -/
theorem trimStart_eq_self (solid : ∀ c ∈ text.head?, isBlank c = false) :
    trimStart text = text := by
  cases text with
  | nil => rfl
  | cons c rest => rw [trimStart, List.dropWhile_cons_of_neg (by simp [solid c rfl])]

/-- What is to be trimmed after a text is trimmed. -/
theorem trimEndBy_append (taken : ∀ c ∈ behind, p c = true) (text : List Char) :
    trimEndBy p (text ++ behind) = trimEndBy p text := by
  rw [trimEndBy, List.reverse_append, List.dropWhile_append_of_pos fun c member =>
    taken c (List.mem_reverse.mp member), trimEndBy]

/-- Nothing is trimmed after a character that is to be kept. -/
theorem trimEndBy_eq_self (kept : ∀ c ∈ text.getLast?, p c = false) : trimEndBy p text = text := by
  refine List.rdropWhile_eq_self_iff.mpr fun nonempty => ?_
  rw [kept _ (List.getLast?_eq_some_getLast nonempty)]
  exact Bool.false_ne_true

/-- Nothing is left if everything is to be trimmed. -/
theorem trimEndBy_eq_nil_iff : trimEndBy p text = [] ↔ ∀ c ∈ text, p c = true :=
  List.rdropWhile_eq_nil_iff

/-- What is taken off the end of a text stood there. -/
theorem exists_trimEndBy (p : Char → Bool) (text : List Char) :
    ∃ behind, (∀ c ∈ behind, p c = true) ∧ text = trimEndBy p text ++ behind := by
  refine ⟨text.rtakeWhile p, fun c member => List.mem_rtakeWhile_imp member, ?_⟩
  exact List.rdropWhile_append_rtakeWhile.symm

/-! ## Both ends -/

/-- Nothing is left of blanks only. -/
theorem trim_eq_nil_iff : trim text = [] ↔ ∀ c ∈ text, isBlank c = true := by
  refine trimEndBy_eq_nil_iff.trans ⟨fun blanks c member => ?_, fun blanks c member => ?_⟩
  · rw [← List.takeWhile_append_dropWhile (p := isBlank) (l := text)] at member
    rcases List.mem_append.mp member with front | rest
    · exact List.mem_takeWhile_imp front
    · exact blanks c rest
  · exact blanks c ((List.dropWhile_sublist isBlank).subset member)

/-- What stands behind a text with some other character than blanks stays behind it. -/
theorem trimStart_append_of_solid (solid : ¬ ∀ c ∈ text, isBlank c = true) (behind : List Char) :
    trimStart (text ++ behind) = trimStart text ++ behind := by
  rw [trimStart, List.dropWhile_append, if_neg, trimStart]
  rwa [List.isEmpty_iff, List.dropWhile_eq_nil_iff]

/-- Blanks in front of a text are taken off. -/
theorem trim_append_left (blanks : ∀ c ∈ before, isBlank c = true) (text : List Char) :
    trim (before ++ text) = trim text := by
  rw [trim, trimStart_append blanks, trim]

/-- Blanks behind a text are taken off. -/
theorem trim_append_right (blanks : ∀ c ∈ behind, isBlank c = true) (text : List Char) :
    trim (text ++ behind) = trim text := by
  by_cases solid : ∀ c ∈ text, isBlank c = true
  · rw [trim_eq_nil_iff.mpr solid, trim_eq_nil_iff]
    exact List.forall_mem_append.mpr ⟨solid, blanks⟩
  · rw [trim, trimStart_append_of_solid solid, trimEndBy_append blanks, trim]

/-- The text neither starts nor ends with a blank. -/
structure IsTrimmed (text : List Char) : Prop where
  head : ∀ c ∈ text.head?, isBlank c = false
  last : ∀ c ∈ text.getLast?, isBlank c = false

/-- A trimmed text is left as it is. -/
theorem IsTrimmed.trim_eq (trimmed : IsTrimmed text) : trim text = text := by
  rw [trim, trimStart_eq_self trimmed.head, trimEndBy_eq_self trimmed.last]

/-- A text without blanks is trimmed. -/
theorem IsTrimmed.of_solid (solid : ∀ c ∈ text, isBlank c = false) : IsTrimmed text where
  head c first := solid c (List.mem_of_mem_head? first)
  last c last := solid c (List.mem_of_mem_getLast? last)

/-- A text is trimmed if its first and its last character are solid. -/
theorem IsTrimmed.of_ends {first last : Char} (head : text.head? = some first)
    (final : text.getLast? = some last)
    (solid : isBlank first = false ∧ isBlank last = false) : IsTrimmed text where
  head _ same := Option.some.inj (head.symm.trans same) ▸ solid.1
  last _ same := Option.some.inj (final.symm.trans same) ▸ solid.2

/-- What stands between two trimmed texts cannot be at an end. -/
theorem IsTrimmed.append {first last : List Char} (head : IsTrimmed first) (final : IsTrimmed last)
    (opened : first ≠ []) (closed : last ≠ []) (middle : List Char) :
    IsTrimmed (first ++ (middle ++ last)) where
  head c same := head.head c (List.head?_append_of_ne_nil _ opened ▸ same)
  last c same := by
    refine final.last c ?_
    rwa [← List.append_assoc, List.getLast?_append_of_ne_nil _ closed] at same

end Text

end WalletTopUp
