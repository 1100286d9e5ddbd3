import WalletTopUp.Proofs.Json.RoundTrip
import WalletTopUp.Proofs.Text.Blank

/-!
# The compact text of a value

What is written for a value neither starts nor ends with a blank (`Json.Value.isTrimmed_chars`), so
it can stand among blanks and be found again.  A value whose numbers are integers of 64 bits, whose
objects have their keys in order and that does not nest too deep is read back from its compact text
(`Json.parseValue?_render`).
-/

namespace WalletTopUp

namespace Json

/-! ## The ends of a text -/

/-- Parts end with the closing bracket. -/
theorem getLast?_partsChars (layout : Layout) (inner : Nat) (close : Char)
    (parts : List (List Char)) :
    (partsChars layout inner close parts).getLast? = some close := by
  induction parts with
  | nil => rw [partsChars, List.getLast?_concat]
  | cons part rest ih => rw [partsChars, List.getLast?_append, ih, Option.some_or]

/-- The digits of a number neither start nor end with a blank. -/
theorem isTrimmed_integerChars (value : Int) : Text.IsTrimmed (integerChars value) := by
  refine .of_solid fun c member => ?_
  unfold integerChars at member
  split at member
  · rcases List.mem_cons.mp member with rfl | digit
    · rfl
    · exact Text.isBlank_of_isDigit (isDigit_of_mem_toDigits c digit)
  · exact Text.isBlank_of_isDigit (isDigit_of_mem_toDigits c member)

/-- **What is written for a value neither starts nor ends with a blank.** -/
theorem Value.isTrimmed_chars (layout : Layout) (inner : Nat) {value : Value}
    (words : value.everywhere isWord = true) : Text.IsTrimmed (value.chars layout inner) := by
  cases value with
  | null => exact .of_ends rfl rfl ⟨rfl, rfl⟩
  | bool value => cases value <;> exact .of_ends rfl rfl ⟨rfl, rfl⟩
  | number value =>
      cases value with
      | integer value => exact isTrimmed_integerChars value
      | double _ => cases words
  | string text => exact .of_ends rfl List.getLast?_concat ⟨rfl, rfl⟩
  | array items =>
      cases items with
      | nil => exact .of_ends rfl rfl ⟨rfl, rfl⟩
      | cons item items =>
          have closed : (Value.chars layout inner (.array (item :: items))).getLast?
              = some ']' := by
            rw [Value.chars, itemsChars_eq, List.getLast?_append, getLast?_partsChars,
              Option.some_or]
          exact .of_ends rfl closed ⟨rfl, rfl⟩
  | object fields =>
      cases fields with
      | nil => exact .of_ends rfl rfl ⟨rfl, rfl⟩
      | cons field fields =>
          have closed : (Value.chars layout inner (.object (field :: fields))).getLast?
              = some '\x7d' := by
            rw [Value.chars, fieldsChars_eq, List.getLast?_append, getLast?_partsChars,
              Option.some_or]
          exact .of_ends rfl closed ⟨rfl, rfl⟩

/-- The compact text of a value is not empty, and nothing of it is taken for a blank around it. -/
theorem Value.isTrimmed_render {value : Value} (words : value.everywhere isWord = true) :
    value.render.toList ≠ [] ∧ Text.IsTrimmed value.render.toList := by
  rw [render, String.toList_ofList]
  obtain ⟨c, rest, written, _⟩ := startsPart_chars .compact 0 words
  exact ⟨written ▸ List.cons_ne_nil c rest, isTrimmed_chars .compact 0 words⟩

/-! ## Reading it back -/

/-- A value that stands alone in its text: its numbers are integers of 64 bits, its objects have
their keys in order, and it does not nest deeper than what is read. -/
structure Value.IsWhole (value : Value) : Prop where
  words : value.everywhere isWord = true
  ordered : value.everywhere isOrdered = true
  shallow : value.tree.depth ≤ maxDepth

/-- **A value is read back from its compact text.** -/
theorem parseValue?_render {value : Value} (whole : value.IsWhole) :
    parseValue? value.render = some value := by
  rw [parseValue?, parse?_render whole.words, Option.bind_some, Tree.payload?,
    if_pos whole.shallow, Value.value?_tree whole.words whole.ordered]

end Json

end WalletTopUp
