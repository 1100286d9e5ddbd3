import WalletTopUp.Proofs.Json.Trees

/-!
# Reading back a JSON value

What is written for a value is read as the tree of this value, wherever the layout puts blanks, as
long as the numbers in it are integers of 64 bits (`Json.parse?_render`).  An array and an object
are both an opening bracket, parts with commas between them and a closing bracket, so they are read
by one lemma (`Json.readBracketed_partsChars`).
-/

namespace WalletTopUp

namespace Json

variable {α : Type} {layout : Layout} {depth inner : Nat} {close : Char}

/-! ## Parts of a text -/

/-- Nothing but blanks stands between the parts of a text. -/
structure Layout.IsBlank (layout : Layout) : Prop where
  newline : ∀ depth, ∀ c ∈ layout.newline depth, isSpace c = true
  gap : ∀ c ∈ layout.gap, isSpace c = true

/-- The compact layout separates parts by nothing. -/
theorem Layout.isBlank_compact : compact.IsBlank where
  newline _ := List.forall_mem_nil _
  gap := List.forall_mem_nil _

/-- The indented layout separates parts by blanks only. -/
theorem Layout.isBlank_indented : indented.IsBlank where
  newline depth c member := by
    rcases List.mem_cons.mp member with rfl | blank
    · rfl
    · rw [List.eq_of_mem_replicate blank]
      rfl
  gap := by simp [indented, isSpace]

/-- The text starts with a part: neither with a blank nor with a closing bracket. -/
def StartsPart (text : List Char) : Prop :=
  ∃ c rest, text = c :: rest ∧ isSpace c = false ∧ c ≠ ']' ∧ c ≠ '\x7d'

/-- What begins a part still does when more follows. -/
theorem StartsPart.append {text : List Char} (starts : StartsPart text) (rest : List Char) :
    StartsPart (text ++ rest) := by
  obtain ⟨c, more, rfl, solid, notArray, notObject⟩ := starts
  exact ⟨c, more ++ rest, rfl, solid, notArray, notObject⟩

/-- Blanks before a text are skipped. -/
theorem skipSpace_append {blank : List Char} (blanks : ∀ c ∈ blank, isSpace c = true)
    (text : List Char) : skipSpace (blank ++ text) = skipSpace text :=
  List.dropWhile_append_of_pos blanks

/-- Nothing is skipped before a solid character. -/
theorem skipSpace_cons {c : Char} (solid : isSpace c = false) (rest : List Char) :
    skipSpace (c :: rest) = c :: rest := by
  simp only [skipSpace, List.dropWhile_cons, solid, Bool.false_eq_true, if_false]

/-- Nothing is skipped before a part. -/
theorem skipSpace_of_startsPart {text : List Char} (starts : StartsPart text) :
    skipSpace text = text := by
  obtain ⟨c, rest, rfl, solid, _⟩ := starts
  exact skipSpace_cons solid rest

/-- A part of a text is read as a result, whatever stands behind it that does not go on with a
number. -/
structure Reads (part : Reader α) (text : List Char) (result : α) : Prop where
  starts : StartsPart text
  read : ∀ rest, EndsNumber rest → part (text ++ rest) = some (result, rest)

/-- The parts behind the first one and the closing bracket. -/
def partsChars (layout : Layout) (inner : Nat) (close : Char) : List (List Char) → List Char
  | [] => layout.newline inner ++ [close]
  | part :: rest => ',' :: layout.newline (inner + 1) ++ part ++ partsChars layout inner close rest

/-- The items of an array are written as its parts. -/
theorem itemsChars_eq (layout : Layout) (inner : Nat) (items : List Value) :
    itemsChars layout inner items
      = partsChars layout inner ']' (items.map (Value.chars layout (inner + 1))) := by
  induction items with
  | nil => rfl
  | cons item rest ih => rw [itemsChars, ih, List.map_cons, partsChars]

/-- What is written for a field. -/
def fieldChars (layout : Layout) (inner : Nat) (field : String × Value) : List Char :=
  stringChars field.1 ++ ':' :: layout.gap ++ field.2.chars layout inner

/-- The fields of an object are written as its parts. -/
theorem fieldsChars_eq (layout : Layout) (inner : Nat) (fields : List (String × Value)) :
    fieldsChars layout inner fields
      = partsChars layout inner '\x7d' (fields.map (fieldChars layout (inner + 1))) := by
  induction fields with
  | nil => rfl
  | cons field rest ih =>
      rw [fieldsChars, ih, List.map_cons, partsChars, fieldChars]
      simp only [List.cons_append, List.append_assoc]

/-- Parts are no longer than what is written for them, and fewer than its characters. -/
theorem length_le_partsChars (layout : Layout) (inner : Nat) (close : Char)
    (parts : List (List Char)) :
    parts.length < (partsChars layout inner close parts).length
      ∧ ∀ part ∈ parts, part.length ≤ (partsChars layout inner close parts).length := by
  induction parts with
  | nil => exact ⟨by simp [partsChars], List.forall_mem_nil _⟩
  | cons part rest ih =>
      obtain ⟨count, longest⟩ := ih
      have total : (partsChars layout inner close (part :: rest)).length
          = (layout.newline (inner + 1)).length + 1 + part.length
            + (partsChars layout inner close rest).length := by
        simp only [partsChars, List.length_append, List.length_cons]
      rw [total]
      refine ⟨by rw [List.length_cons]; omega, fun other member => ?_⟩
      rcases List.mem_cons.mp member with rfl | member
      · omega
      · exact Nat.le_add_left_of_le (longest other member)

/-- What may stand behind a value: a blank, a comma or a closing bracket. -/
theorem endsNumber_of_delimiter {c : Char} (delimits : isSpace c = true ∨ c ∈ [',', ']', '\x7d'])
    (rest : List Char) : EndsNumber (c :: rest) := by
  intro other same
  obtain rfl := Option.some.inj same
  have cases : c ∈ [' ', '\n', '\r', '\t', ',', ']', '\x7d'] := by
    rcases delimits with space | bracket
    · simp only [isSpace, Bool.or_eq_true, beq_iff_eq] at space
      rcases space with ((rfl | rfl) | rfl) | rfl <;> simp
    · exact List.mem_append_right [' ', '\n', '\r', '\t'] bracket
  simp only [List.mem_cons, List.not_mem_nil, or_false] at cases
  rcases cases with rfl | rfl | rfl | rfl | rfl | rfl | rfl <;> decide

/-- A number may end with the text. -/
theorem endsNumber_nil : EndsNumber [] := nofun

/-- Behind a part stands a blank, a comma or the closing bracket. -/
theorem endsNumber_partsChars (blank : layout.IsBlank) (closes : close ∈ [']', '\x7d'])
    (parts : List (List Char)) (rest : List Char) :
    EndsNumber (partsChars layout inner close parts ++ rest) := by
  cases parts with
  | cons part parts => exact endsNumber_of_delimiter (.inr (by decide)) _
  | nil =>
      cases spaces : layout.newline inner with
      | nil =>
          rw [partsChars, spaces]
          exact endsNumber_of_delimiter (.inr (List.mem_cons_of_mem _ closes)) _
      | cons c more =>
          rw [partsChars, spaces]
          exact endsNumber_of_delimiter
            (.inl (blank.newline inner c (spaces ▸ List.mem_cons_self))) _

/-- Parts are read one after the other up to the closing bracket. -/
theorem readParts_partsChars {part : Reader α} {first : List Char × α}
    {parts : List (List Char × α)} {more : Nat} {space : List Char}
    (inner : Nat)
    (blank : layout.IsBlank)
    (closes : close ∈ [']', '\x7d'])
    (reads : ∀ pair ∈ first :: parts, Reads part pair.1 pair.2)
    (spaces : ∀ c ∈ space, isSpace c = true)
    (enough : parts.length < more)
    (rest : List Char) :
    readParts part close more
        (space ++ (first.1 ++ (partsChars layout inner close (parts.map Prod.fst) ++ rest)))
      = some (first.2 :: parts.map Prod.snd, rest) := by
  have closing : isSpace close = false ∧ (',' == close) = false := by
    simp only [List.mem_cons, List.not_mem_nil, or_false] at closes
    rcases closes with rfl | rfl <;> decide
  induction parts generalizing first more space with
  | nil =>
      obtain ⟨more, rfl⟩ := Nat.exists_eq_add_one.mpr enough
      have read := reads first List.mem_cons_self
      rw [readParts, skipSpace_append spaces, skipSpace_of_startsPart (read.starts.append _),
        read.read _ (endsNumber_partsChars blank closes _ rest)]
      simp only [List.map_nil, partsChars, List.append_assoc]
      rw [skipSpace_append (blank.newline inner), List.singleton_append, skipSpace_cons closing.1]
      simp only [beq_self_eq_true, if_true]
  | cons second parts ih =>
      obtain ⟨more, rfl⟩ := Nat.exists_eq_add_one.mpr (Nat.zero_lt_of_lt enough)
      obtain ⟨read, others⟩ := List.forall_mem_cons.mp reads
      rw [readParts, skipSpace_append spaces, skipSpace_of_startsPart (read.starts.append _),
        read.read _ (endsNumber_partsChars blank closes _ rest)]
      simp only [List.map_cons, partsChars, List.cons_append, List.append_assoc]
      rw [skipSpace_cons (by decide)]
      simp only [closing.2, Bool.false_eq_true, if_false, beq_self_eq_true, if_true]
      rw [ih others (blank.newline (inner + 1)) (Nat.lt_of_succ_lt_succ enough)]
      rfl

/-- What stands between brackets is read as the parts that it consists of. -/
theorem readBracketed_partsChars {part : Reader α} {first : List Char × α}
    {parts : List (List Char × α)}
    (inner : Nat)
    (blank : layout.IsBlank)
    (closes : close ∈ [']', '\x7d'])
    (reads : ∀ pair ∈ first :: parts, Reads part pair.1 pair.2)
    (rest : List Char) :
    readBracketed part close (layout.newline (inner + 1) ++ (first.1
        ++ (partsChars layout inner close (parts.map Prod.fst) ++ rest)))
      = some (first.2 :: parts.map Prod.snd, rest) := by
  have starts := (reads first List.mem_cons_self).starts
  have skipped := skipSpace_of_startsPart (starts.append
    (partsChars layout inner close (parts.map Prod.fst) ++ rest))
  obtain ⟨c, more, written, _, notArray, notObject⟩ := starts
  have notClosing : (c == close) = false := by
    refine beq_eq_false_iff_ne.mpr fun same => ?_
    subst same
    simp only [List.mem_cons, List.not_mem_nil, or_false] at closes
    exact closes.elim notArray notObject
  have count := (length_le_partsChars layout inner close (parts.map Prod.fst)).1
  have read {more : Nat} (enough : parts.length < more) :=
    readParts_partsChars inner blank closes reads (List.forall_mem_nil _) enough rest
  rw [readBracketed, skipSpace_append (blank.newline (inner + 1)), skipped]
  simp only [List.nil_append, written, List.cons_append] at read ⊢
  simp only [notClosing, Bool.false_eq_true, if_false]
  refine read ?_
  simp only [List.length_append, List.length_cons, List.length_map] at count ⊢
  omega

/-! ## Reading what is written -/

/-- An integer begins a part. -/
theorem startsPart_integerChars (value : Int) : StartsPart (integerChars value) := by
  unfold integerChars
  split
  · exact ⟨_, _, rfl, by decide, by decide, by decide⟩
  · obtain ⟨c, digits, written⟩ := List.exists_cons_of_ne_nil
      (Nat.toDigits_ne_nil (n := value.natAbs) (b := 10))
    have digit := isDigit_of_mem_toDigits c (written ▸ List.mem_cons_self)
    have bounds : 48 ≤ c.toNat ∧ c.toNat ≤ 57 := Char.isDigit_iff_toNat.mp digit
    have unlike (other : Char) (far : other.toNat < 48 ∨ 57 < other.toNat) : c ≠ other := by
      rintro rfl
      omega
    refine ⟨c, digits, written, ?_, unlike _ (by decide), unlike _ (by decide)⟩
    simp only [isSpace, beq_eq_false_iff_ne.mpr (unlike ' ' (by decide)),
      beq_eq_false_iff_ne.mpr (unlike '\n' (by decide)),
      beq_eq_false_iff_ne.mpr (unlike '\r' (by decide)),
      beq_eq_false_iff_ne.mpr (unlike '\t' (by decide)), Bool.or_self]

/-- What is written for a value starts with neither a blank nor a closing bracket. -/
theorem Value.startsPart_chars (layout : Layout) (inner : Nat) {value : Value}
    (words : value.everywhere isWord = true) : StartsPart (value.chars layout inner) := by
  cases value with
  | null => exact ⟨_, _, rfl, by decide, by decide, by decide⟩
  | bool value => cases value <;> exact ⟨_, _, rfl, by decide, by decide, by decide⟩
  | number value =>
      cases value with
      | integer value => exact startsPart_integerChars value
      | double _ => cases words
  | string text => exact ⟨_, _, rfl, by decide, by decide, by decide⟩
  | array items => cases items <;> exact ⟨_, _, rfl, by decide, by decide, by decide⟩
  | object fields => cases fields <;> exact ⟨_, _, rfl, by decide, by decide, by decide⟩

/-- Items nest no deeper than a limit exactly if none of them does. -/
theorem itemsDepth_le_iff {items : List Tree} {limit : Nat} :
    Tree.itemsDepth items ≤ limit ↔ ∀ item ∈ items, item.depth ≤ limit := by
  induction items with
  | nil => simp [Tree.itemsDepth]
  | cons item rest ih => rw [Tree.itemsDepth, Nat.max_le, ih, List.forall_mem_cons]

/-- Fields nest no deeper than a limit exactly if none of their values does. -/
theorem fieldsDepth_le_iff {fields : List (Option String × Tree)} {limit : Nat} :
    Tree.fieldsDepth fields ≤ limit ↔ ∀ field ∈ fields, field.2.depth ≤ limit := by
  induction fields with
  | nil => simp [Tree.fieldsDepth]
  | cons field rest ih => rw [Tree.fieldsDepth, Nat.max_le, ih, List.forall_mem_cons]

/-- A value that starts like a number is read as one. -/
theorem readValue_of_number {text : List Char} (digits : ∀ c rest, text = c :: rest →
      c.isDigit = true ∨ c = '-')
    (some_digit : text ≠ []) :
    readValue depth text
      = (readNumber text).map fun (literal, left) => (.number literal, left) := by
  cases text with
  | nil => exact (some_digit rfl).elim
  | cons c rest =>
      have unlike (other : Char) (letter : other.isDigit = false) (sign : other ≠ '-') :
          (c == other) = false := by
        refine beq_eq_false_iff_ne.mpr ?_
        rintro rfl
        rcases digits _ _ rfl with digit | minus
        · rw [letter] at digit
          cases digit
        · exact sign minus
      unfold readValue
      simp only [unlike '"' rfl (by decide), unlike '[' rfl (by decide), unlike 'n' rfl (by decide),
        unlike '\x7b' rfl (by decide), unlike 't' rfl (by decide), unlike 'f' rfl (by decide),
        Bool.false_eq_true, if_false]

/-- An integer that is written is read back, if what follows ends a number. -/
theorem readValue_integerChars (value : Int) {rest : List Char} (ends : EndsNumber rest) :
    readValue depth (integerChars value ++ rest)
      = some (.number (Literal.ofInteger value), rest) := by
  rw [readValue_of_number, readNumber_integerChars value ends, Option.map_some]
  · intro c more same
    unfold integerChars at same
    split at same
    · exact .inr (List.cons.inj same).1.symm
    · obtain ⟨d, digits, written⟩ := List.exists_cons_of_ne_nil
        (Nat.toDigits_ne_nil (n := value.natAbs) (b := 10))
      rw [written, List.cons_append] at same
      obtain ⟨rfl, _⟩ := List.cons.inj same
      exact .inl (isDigit_of_mem_toDigits _ (written ▸ List.mem_cons_self))
  · obtain ⟨_, _, written, _⟩ := startsPart_integerChars value
    simp [written]

/-- A field is read as its key and the tree of its value. -/
theorem reads_fieldChars {field : String × Value} {part : Reader Tree}
    (blank : layout.IsBlank)
    (reads : Reads part (field.2.chars layout inner) field.2.tree) :
    Reads (readField part) (fieldChars layout inner field) (some field.1, field.2.tree) where
  starts := ⟨_, _, rfl, by decide, by decide, by decide⟩
  read rest ends := by
    simp only [fieldChars, stringChars, List.cons_append, List.append_assoc, List.nil_append,
      readField, readString_stringChars]
    rw [skipSpace_cons (by decide)]
    simp only
    rw [skipSpace_append blank.gap, skipSpace_of_startsPart (reads.starts.append rest),
      reads.read rest ends, Option.map_some]

/-- **What is written for a value is read as its tree**, wherever the layout puts blanks. -/
theorem Value.reads_chars (inner : Nat) (blank : layout.IsBlank) {value : Value}
    (words : value.everywhere isWord = true)
    (shallow : value.tree.depth ≤ depth) :
    Reads (readValue depth) (value.chars layout inner) value.tree := by
  refine ⟨startsPart_chars layout inner words, ?_⟩
  induction value using Value.induction generalizing depth inner with
  | null => exact fun rest _ => by cases depth <;> rfl
  | bool value => exact fun rest _ => by cases value <;> cases depth <;> rfl
  | number value =>
      cases value with
      | integer value => exact fun rest ends => readValue_integerChars value ends
      | double _ => cases words
  | string text =>
      intro rest _
      simp only [Value.chars, stringChars, List.cons_append, List.append_assoc, List.nil_append]
      unfold readValue
      simp only [beq_self_eq_true, if_true, readString_stringChars, Option.map_some, Value.tree]
  | array items ih =>
      intro rest _
      obtain ⟨depth, rfl⟩ := Nat.exists_eq_add_one.mpr (Nat.zero_lt_of_lt shallow)
      cases items with
      | nil =>
          simp only [Value.chars, List.cons_append, List.nil_append]
          unfold readValue
          rfl
      | cons item items =>
          simp only [Value.tree, itemTrees_eq_map, Tree.depth, Nat.add_le_add_iff_right,
            itemsDepth_le_iff, List.forall_mem_map] at shallow
          simp only [Value.everywhere, Bool.and_eq_true, itemsEverywhere_iff] at words
          -- Each item is read one level deeper, where the induction hypothesis holds.
          have reads : ∀ pair ∈ (item :: items).map fun item =>
              (item.chars layout (inner + 1), item.tree),
              Reads (readValue depth) pair.1 pair.2 := by
            refine List.forall_mem_map.mpr fun item member => ?_
            exact ⟨startsPart_chars layout _ (words.2 item member),
              ih item member _ (words.2 item member) (shallow item member)⟩
          have read := readBracketed_partsChars inner blank
            (List.mem_cons_self : ']' ∈ _) reads rest
          rw [List.map_map, List.map_map] at read
          simp only [Value.chars, itemsChars_eq, List.cons_append, List.append_assoc]
          unfold readValue
          simp only [Value.tree, itemTrees_eq_map]
          exact congrArg (Option.map _) read
  | object fields ih =>
      intro rest _
      obtain ⟨depth, rfl⟩ := Nat.exists_eq_add_one.mpr (Nat.zero_lt_of_lt shallow)
      cases fields with
      | nil =>
          simp only [Value.chars, List.cons_append, List.nil_append]
          unfold readValue
          rfl
      | cons field fields =>
          simp only [Value.tree, fieldTrees_eq_map, Tree.depth, Nat.add_le_add_iff_right,
            fieldsDepth_le_iff, List.forall_mem_map] at shallow
          simp only [Value.everywhere, Bool.and_eq_true, fieldsEverywhere_iff] at words
          have reads : ∀ pair ∈ (field :: fields).map fun field =>
              (fieldChars layout (inner + 1) field, (some field.1, field.2.tree)),
              Reads (readField (readValue depth)) pair.1 pair.2 := by
            refine List.forall_mem_map.mpr fun field member => reads_fieldChars blank ?_
            exact ⟨startsPart_chars layout _ (words.2 field member),
              ih field member _ (words.2 field member) (shallow field member)⟩
          have read := readBracketed_partsChars inner blank
            (List.mem_cons_of_mem _ List.mem_cons_self : '\x7d' ∈ _) reads rest
          rw [List.map_map, List.map_map] at read
          have written : (Value.object (field :: fields)).chars layout inner ++ rest
              = '\x7b' :: (layout.newline (inner + 1) ++ (fieldChars layout (inner + 1) field
                ++ (partsChars layout inner '\x7d' (fields.map (fieldChars layout (inner + 1)))
                  ++ rest))) := by
            simp only [Value.chars, fieldsChars_eq, fieldChars, List.cons_append, List.append_assoc]
          rw [written]
          unfold readValue
          simp only [Value.tree, fieldTrees_eq_map]
          exact congrArg (Option.map _) read

/-- A value does not nest deeper than its text is long, so the fuel of the parser is enough. -/
theorem Value.depth_le_length_chars (layout : Layout) (inner : Nat) (value : Value) :
    value.tree.depth ≤ (value.chars layout inner).length := by
  induction value using Value.induction generalizing inner with
  | null | bool _ | number _ | string _ => exact Nat.zero_le _
  | array items ih =>
      cases items with
      | nil => simp [Value.tree, itemTrees, Tree.depth, Tree.itemsDepth, Value.chars]
      | cons item items =>
          have longest := (length_le_partsChars layout inner ']'
            (items.map (Value.chars layout (inner + 1)))).2
          simp only [Value.tree, itemTrees_eq_map, Tree.depth, Value.chars, itemsChars_eq,
            List.cons_append, List.length_cons, List.length_append, Nat.add_le_add_iff_right]
          refine itemsDepth_le_iff.mpr (List.forall_mem_map.mpr fun other member => ?_)
          have short := ih other member (inner + 1)
          rcases List.mem_cons.mp member with rfl | member
          · omega
          · have part := longest _ (List.mem_map_of_mem member)
            omega
  | object fields ih =>
      cases fields with
      | nil => simp [Value.tree, fieldTrees, Tree.depth, Tree.fieldsDepth, Value.chars]
      | cons field fields =>
          have longest := (length_le_partsChars layout inner '\x7d'
            (fields.map (fieldChars layout (inner + 1)))).2
          simp only [Value.tree, fieldTrees_eq_map, Tree.depth, Value.chars, fieldsChars_eq,
            List.cons_append, List.length_cons, List.length_append, Nat.add_le_add_iff_right]
          refine fieldsDepth_le_iff.mpr (List.forall_mem_map.mpr fun other member => ?_)
          change other.2.tree.depth ≤ _
          have short := ih other member (inner + 1)
          rcases List.mem_cons.mp member with rfl | member
          · omega
          · have part := longest _ (List.mem_map_of_mem member)
            simp only [fieldChars, List.length_append, List.length_cons] at part
            omega

/-- The characters that are written for a value are read as its tree, in every layout. -/
theorem parseChars?_chars (blank : layout.IsBlank) {value : Value}
    (words : value.everywhere Value.isWord = true) :
    parseChars? (value.chars layout 0) = some value.tree := by
  have reads := Value.reads_chars 0 blank words
    (Value.depth_le_length_chars layout 0 value)
  have read := reads.read [] endsNumber_nil
  rw [List.append_nil] at read
  rw [parseChars?, skipSpace_of_startsPart reads.starts, read]
  rfl

/-- **The text of a value is read as its tree.** -/
theorem parse?_render {value : Value} (words : value.everywhere Value.isWord = true) :
    parse? value.render = some value.tree := by
  rw [parse?, Value.render, String.toList_ofList, parseChars?_chars Layout.isBlank_compact words]

/-- So is the text that has its parts on lines of their own. -/
theorem parse?_pretty {value : Value} (words : value.everywhere Value.isWord = true) :
    parse? value.pretty = some value.tree := by
  rw [parse?, Value.pretty, String.toList_ofList, parseChars?_chars Layout.isBlank_indented words]

end Json

end WalletTopUp
