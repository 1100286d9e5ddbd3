import WalletTopUp.Proofs.Json.Compact
import WalletTopUp.Terminal.Command

/-!
# Commands are read as they are meant

A command that is written on a line is read as this command with exactly the text, the method, the
payload or the transaction that it names, whatever blanks stand before it and whatever line ends
behind it.  Only a blank line is no command, and a line that starts with no known word is always
refused with this word (`Command.read_as_meant`).

Three rules take a line apart: line ends are taken off its end, blanks off its start, and its word
ends at the first space.  All three are settled once for a text among blanks and line ends
(`Command.parse_of_word`, `Command.parse_of_argument`); the commands only differ in what they do
with their argument.
-/

namespace WalletTopUp

namespace Command

variable {returnUrl : Url} {line before text behind word : String} {chars rest : List Char}

/-! ## What is meant -/

/-- The words that a command may start with. -/
def words : List String := ["amount", "switch", "method", "pay", "redirect", "help", "quit", "exit"]

/-- The word that a line starts with, behind the blanks before it: it ends at the first space.  A
line without a space behind these blanks is this word as a whole. -/
def wordOf (line : String) : String :=
  let started := Text.trimStart line.toList
  String.ofList (if ' ' ∈ started then started.takeWhile (· != ' ') else Text.trim line.toList)

/-- How a command is written on a line. -/
inductive Writes (returnUrl : Url) : String → Command → Prop where
  /-- The text that is typed into the amount field, with all its blanks. -/
  | amount (text : String) (kept : ∀ c ∈ text.toList.getLast?, isLineEnd c = false) :
      Writes returnUrl ("amount " ++ text) (.event (.amountChanged text))
  | switch : Writes returnUrl "switch" (.event .changeCurrencyClicked)
  | method (id : String) (named : id ≠ "") (trimmed : Text.IsTrimmed id.toList) :
      Writes returnUrl ("method " ++ id) (.event (.paymentMethodSelected id))
  | pay (payment : Json.Value) (whole : payment.IsWhole) :
      Writes returnUrl ("pay " ++ payment.render)
        (.event (.nextClicked ⟨payment, returnUrl.toText⟩))
  /-- A redirect without details has an empty object for them. -/
  | redirect (uid : String) (named : uid ≠ "")
      (solid : ∀ c ∈ uid.toList, Text.isBlank c = false) :
      Writes returnUrl ("redirect " ++ uid) (.event (.redirectReturned uid (.object []) none))
  | redirectWith (uid : String) (named : uid ≠ "")
      (solid : ∀ c ∈ uid.toList, Text.isBlank c = false)
      (details : Json.Value) (whole : details.IsWhole) :
      Writes returnUrl ("redirect " ++ uid ++ " " ++ details.render)
        (.event (.redirectReturned uid details none))
  | help : Writes returnUrl "help" .help
  | quit : Writes returnUrl "quit" .quit
  | exit : Writes returnUrl "exit" .quit

/-! ## Cutting a text at a space -/

/-- A word without a space has no character at which it is cut. -/
theorem ne_space_of_not_mem (uncut : ' ' ∉ chars) : ∀ c ∈ chars, (c != ' ') = true :=
  fun _ member => bne_iff_ne.mpr fun same => uncut (same ▸ member)

/-- A text without a space is not cut. -/
theorem cutAtBlank_eq_self (uncut : ' ' ∉ chars) : cutAtBlank chars = (chars, []) := by
  have passed := ne_space_of_not_mem uncut
  rw [cutAtBlank, List.takeWhile_eq_self_iff.mpr passed, List.dropWhile_eq_nil_iff.mpr passed,
    List.drop_nil]

/-- A text is cut at its first space, and the space is dropped. -/
theorem cutAtBlank_append (uncut : ' ' ∉ chars) (rest : List Char) :
    cutAtBlank (chars ++ ' ' :: rest) = (chars, rest) := by
  have passed := ne_space_of_not_mem uncut
  rw [cutAtBlank, List.takeWhile_append_of_pos passed, List.dropWhile_append_of_pos passed]
  simp

/-- What has no blanks has no space. -/
theorem space_not_mem (solid : ∀ c ∈ chars, Text.isBlank c = false) : ' ' ∉ chars :=
  fun member => Bool.noConfusion (solid ' ' member)

/-! ## The word of a line and its argument -/

/-- Blanks before a command do not matter. -/
theorem wordAndRest_append {blanks : List Char} (blank : ∀ c ∈ blanks, Text.isBlank c = true)
    (chars : List Char) : wordAndRest (blanks ++ chars) = wordAndRest chars := by
  simp only [wordAndRest, Text.trimStart_append blank, Text.trim_append_left blank]

/-- A word that stands alone is the command, and nothing is left. -/
theorem wordAndRest_of_word (solid : ∀ c ∈ chars, Text.isBlank c = false) :
    wordAndRest chars = (chars, []) := by
  have trimmed := Text.IsTrimmed.of_solid solid
  rw [wordAndRest, Text.trimStart_eq_self trimmed.head, trimmed.trim_eq]
  simp [space_not_mem solid]

/-- A word and what follows after a space are told apart. -/
theorem wordAndRest_of_argument (some_character : chars ≠ [])
    (solid : ∀ c ∈ chars, Text.isBlank c = false) (rest : List Char) :
    wordAndRest (chars ++ ' ' :: rest) = (chars, rest) := by
  have started : Text.trimStart (chars ++ ' ' :: rest) = chars ++ ' ' :: rest := by
    refine Text.trimStart_eq_self fun c first => solid c ?_
    rw [List.head?_append_of_ne_nil _ some_character] at first
    exact List.mem_of_mem_head? first
  rw [wordAndRest, started]
  simp [cutAtBlank_append (space_not_mem solid)]

/-- Blanks before a text and line ends behind it play no part in what is read. -/
theorem parse_append (blanks : ∀ c ∈ before.toList, Text.isBlank c = true)
    (ends : ∀ c ∈ behind.toList, isLineEnd c = true)
    (kept : ∀ c ∈ text.toList.getLast?, isLineEnd c = false)
    (solid : ¬ ∀ c ∈ text.toList, Text.isBlank c = true) :
    parse returnUrl (before ++ text ++ behind)
      = (ofWord returnUrl (String.ofList (wordAndRest text.toList).1)
          (wordAndRest text.toList).2).map some := by
  have bare : Text.trimEndBy isLineEnd (before ++ text ++ behind).toList
      = before.toList ++ text.toList := by
    rw [String.toList_append, String.toList_append, Text.trimEndBy_append ends]
    refine Text.trimEndBy_eq_self fun c last => kept c ?_
    have nonempty : text.toList ≠ [] := fun empty => solid (empty ▸ List.forall_mem_nil _)
    rwa [List.getLast?_append_of_ne_nil _ nonempty] at last
  have full : (Text.trim text.toList).isEmpty = false :=
    List.isEmpty_eq_false_iff.mpr (mt Text.trim_eq_nil_iff.mp solid)
  simp only [parse, bare, Text.trim_append_left blanks, full, wordAndRest_append blanks,
    Bool.false_eq_true, if_false]

/-! ## Known words -/

/-- Every known word has characters, and none of them is a blank. -/
theorem solid_of_mem_words (known : word ∈ words) :
    word.toList ≠ [] ∧ ∀ c ∈ word.toList, Text.isBlank c = false := by
  have all : ∀ word ∈ words, word.toList ≠ [] ∧ word.toList.any Text.isBlank = false := by decide
  obtain ⟨some_character, noBlank⟩ := all word known
  exact ⟨some_character, fun c member =>
    Bool.eq_false_iff.mpr (List.any_eq_false.mp noBlank c member)⟩

/-- A line end is blank. -/
theorem isBlank_of_isLineEnd {c : Char} (lineEnd : isLineEnd c = true) :
    Text.isBlank c = true := by
  simp only [isLineEnd, Bool.or_eq_true, beq_iff_eq] at lineEnd
  rcases lineEnd with rfl | rfl <;> rfl

/-- A text that does not end with a blank does not end with a line end. -/
theorem kept_of_isTrimmed (trimmed : Text.IsTrimmed chars) :
    ∀ c ∈ chars.getLast?, isLineEnd c = false := fun c last =>
  Bool.eq_false_iff.mpr fun lineEnd =>
    Bool.eq_false_iff.mp (trimmed.last c last) (isBlank_of_isLineEnd lineEnd)

/-- A text with a solid first character is not blank. -/
theorem not_blank_of_solid (some_character : chars ≠ [])
    (solid : ∀ c ∈ chars.head?, Text.isBlank c = false) :
    ¬ ∀ c ∈ chars, Text.isBlank c = true := by
  obtain ⟨c, more, rfl⟩ := List.exists_cons_of_ne_nil some_character
  intro blanks
  exact Bool.eq_false_iff.mp (solid c rfl) (blanks c List.mem_cons_self)

/-- A known word alone is read as the command of this word. -/
theorem parse_of_word (known : word ∈ words)
    (blanks : ∀ c ∈ before.toList, Text.isBlank c = true)
    (ends : ∀ c ∈ behind.toList, isLineEnd c = true) :
    parse returnUrl (before ++ word ++ behind) = (ofWord returnUrl word []).map some := by
  obtain ⟨some_character, solid⟩ := solid_of_mem_words known
  have trimmed := Text.IsTrimmed.of_solid solid
  rw [parse_append blanks ends (kept_of_isTrimmed trimmed)
    (not_blank_of_solid some_character trimmed.head), wordAndRest_of_word solid,
    String.ofList_toList]

/-- A known word with a space behind it is read as the command of this word, with all that follows
for its argument. -/
theorem parse_of_argument (known : word ∈ words)
    (spelled : text.toList = word.toList ++ ' ' :: rest)
    (kept : ∀ c ∈ rest.getLast?, isLineEnd c = false)
    (blanks : ∀ c ∈ before.toList, Text.isBlank c = true)
    (ends : ∀ c ∈ behind.toList, isLineEnd c = true) :
    parse returnUrl (before ++ text ++ behind) = (ofWord returnUrl word rest).map some := by
  obtain ⟨some_character, solid⟩ := solid_of_mem_words known
  have last : ∀ c ∈ text.toList.getLast?, isLineEnd c = false := by
    rw [spelled, List.getLast?_append_of_ne_nil _ (List.cons_ne_nil _ _), List.getLast?_cons]
    rintro _ ⟨⟩
    cases same : rest.getLast? with
    | none => rfl
    | some c => exact kept c same
  have started : ∀ c ∈ text.toList.head?, Text.isBlank c = false := by
    rw [spelled, List.head?_append_of_ne_nil _ some_character]
    exact (Text.IsTrimmed.of_solid solid).head
  have nonempty : text.toList ≠ [] := by simp [spelled]
  rw [parse_append blanks ends last (not_blank_of_solid nonempty started), spelled,
    wordAndRest_of_argument some_character solid, String.ofList_toList]

/-! ## Arguments -/

/-- A payload that is written compactly is read back. -/
theorem payload_render {value : Json.Value} (whole : value.IsWhole) :
    payload value.render.toList = .ok value := by
  obtain ⟨nonempty, trimmed⟩ := Json.Value.isTrimmed_render whole.words
  simp only [payload, trimmed.trim_eq, List.isEmpty_eq_false_iff.mpr nonempty,
    String.ofList_toList, Json.parseValue?_render whole, Bool.false_eq_true, if_false]

-- Only the lemmas on single words look at its equations.
attribute [local simp] ofWord

/-- A method is chosen by its id. -/
theorem ofWord_method {id : String} (named : id ≠ "") (trimmed : Text.IsTrimmed id.toList) :
    ofWord returnUrl "method" id.toList = .ok (.event (.paymentMethodSelected id)) := by
  have full : id.toList.isEmpty = false :=
    List.isEmpty_eq_false_iff.mpr fun empty => named (String.toList_eq_nil_iff.mp empty)
  simp [trimmed.trim_eq, full]

/-- A payment is made with what is given, and it returns to the configured address. -/
theorem ofWord_pay {payment : Json.Value} (whole : payment.IsWhole) :
    ofWord returnUrl "pay" payment.render.toList
      = .ok (.event (.nextClicked ⟨payment, returnUrl.toText⟩)) := by
  simp only [ofWord, payload_render whole]
  rfl

/-- A transaction is named by what stands before the first space of a trimmed argument. -/
theorem ofWord_redirect {argument details : List Char} {uid : String} {value : Json.Value}
    (named : uid ≠ "")
    (trimmed : Text.IsTrimmed argument)
    (cut : cutAtBlank argument = (uid.toList, details))
    (read : payload details = .ok value) :
    ofWord returnUrl "redirect" argument = .ok (.event (.redirectReturned uid value none)) := by
  have full : uid.toList.isEmpty = false :=
    List.isEmpty_eq_false_iff.mpr fun empty => named (String.toList_eq_nil_iff.mp empty)
  simp only [ofWord, trimmed.trim_eq, cut, full, read, String.ofList_toList, Bool.false_eq_true,
    if_false]
  rfl

/-! ## Whole lines -/

/-- **What is written for a command is read as this command**, among blanks and line ends. -/
theorem parse_of_writes {command : Command} (writes : Writes returnUrl text command)
    (blanks : ∀ c ∈ before.toList, Text.isBlank c = true)
    (ends : ∀ c ∈ behind.toList, isLineEnd c = true) :
    parse returnUrl (before ++ text ++ behind) = .ok (some command) := by
  cases writes with
  | amount text kept =>
      have spelled : ("amount " ++ text).toList = "amount".toList ++ ' ' :: text.toList :=
        String.toList_append
      rw [parse_of_argument (by decide) spelled kept blanks ends, ofWord, String.ofList_toList]
      rfl
  | switch => rw [parse_of_word (by decide) blanks ends]; rfl
  | method id named trimmed =>
      have spelled : ("method " ++ id).toList = "method".toList ++ ' ' :: id.toList :=
        String.toList_append
      have kept := kept_of_isTrimmed trimmed
      rw [parse_of_argument (by decide) spelled kept blanks ends, ofWord_method named trimmed]
      rfl
  | pay payment whole =>
      have spelled : ("pay " ++ payment.render).toList
          = "pay".toList ++ ' ' :: payment.render.toList := String.toList_append
      have kept := kept_of_isTrimmed (Json.Value.isTrimmed_render whole.words).2
      rw [parse_of_argument (by decide) spelled kept blanks ends, ofWord_pay whole]
      rfl
  | redirect uid named solid =>
      have spelled : ("redirect " ++ uid).toList = "redirect".toList ++ ' ' :: uid.toList :=
        String.toList_append
      have trimmed := Text.IsTrimmed.of_solid solid
      have kept := kept_of_isTrimmed trimmed
      rw [parse_of_argument (by decide) spelled kept blanks ends,
        ofWord_redirect named trimmed (cutAtBlank_eq_self (space_not_mem solid)) rfl]
      rfl
  | redirectWith uid named solid details whole =>
      have spelled : ("redirect " ++ uid ++ " " ++ details.render).toList
          = "redirect".toList ++ ' ' :: (uid.toList ++ ([' '] ++ details.render.toList)) := by
        simp only [String.toList_append, List.append_assoc]
        rfl
      obtain ⟨nonempty, final⟩ := Json.Value.isTrimmed_render whole.words
      have some_character : uid.toList ≠ [] :=
        fun empty => named (String.toList_eq_nil_iff.mp empty)
      have trimmed := (Text.IsTrimmed.of_solid solid).append final some_character nonempty [' ']
      have kept := kept_of_isTrimmed trimmed
      have cut : cutAtBlank (uid.toList ++ ([' '] ++ details.render.toList))
          = (uid.toList, details.render.toList) := cutAtBlank_append (space_not_mem solid) _
      rw [parse_of_argument (by decide) spelled kept blanks ends,
        ofWord_redirect named trimmed cut (payload_render whole)]
      rfl
  | help => rw [parse_of_word (by decide) blanks ends]; rfl
  | quit => rw [parse_of_word (by decide) blanks ends]; rfl
  | exit => rw [parse_of_word (by decide) blanks ends]; rfl

/-- Without its line ends a line is blank exactly if it was blank with them. -/
theorem blank_trimEndBy_iff : (∀ c ∈ Text.trimEndBy isLineEnd chars, Text.isBlank c = true)
    ↔ ∀ c ∈ chars, Text.isBlank c = true := by
  obtain ⟨taken, ends, whole⟩ := Text.exists_trimEndBy isLineEnd chars
  constructor
  · intro blank
    rw [whole]
    exact List.forall_mem_append.mpr
      ⟨blank, fun c member => isBlank_of_isLineEnd (ends c member)⟩
  · exact fun blank c member => blank c (whole ▸ List.mem_append_left taken member)

/-- A blank line is no command. -/
theorem parse_of_blank (blank : ∀ c ∈ line.toList, Text.isBlank c = true) :
    parse returnUrl line = .ok none := by
  simp only [parse, Text.trim_eq_nil_iff.mpr (blank_trimEndBy_iff.mpr blank), List.isEmpty_nil,
    if_true]

/-- Line ends play no part in the word of a line. -/
theorem wordOf_eq {taken : List Char} (solid : ¬ ∀ c ∈ chars, Text.isBlank c = true)
    (ends : ∀ c ∈ taken, isLineEnd c = true) (whole : line.toList = chars ++ taken) :
    wordOf line = String.ofList (wordAndRest chars).1 := by
  have blanks : ∀ c ∈ taken, Text.isBlank c = true := fun c member =>
    isBlank_of_isLineEnd (ends c member)
  have uncut : ' ' ∉ taken := fun member => Bool.noConfusion (ends ' ' member)
  simp only [wordOf, wordAndRest, whole, Text.trimStart_append_of_solid solid,
    Text.trim_append_right blanks, List.mem_append, uncut, or_false, List.contains_iff_mem]
  by_cases cut : ' ' ∈ Text.trimStart chars
  · obtain ⟨word, rest, split, noSpace⟩ := List.eq_append_cons_of_mem cut
    rw [if_pos cut, if_pos cut, split, List.append_assoc, List.cons_append,
      cutAtBlank_append noSpace]
    exact congrArg (fun parts => String.ofList parts.1) (cutAtBlank_append noSpace (rest ++ taken))
  · rw [if_neg cut, if_neg cut]

/-- A line that is not blank is read as the command of its word. -/
theorem parse_of_solid (returnUrl : Url) (solid : ¬ ∀ c ∈ line.toList, Text.isBlank c = true) :
    ∃ rest, parse returnUrl line = (ofWord returnUrl (wordOf line) rest).map some := by
  obtain ⟨taken, ends, whole⟩ := Text.exists_trimEndBy isLineEnd line.toList
  have bare := mt blank_trimEndBy_iff.mp solid
  have full := List.isEmpty_eq_false_iff.mpr (mt Text.trim_eq_nil_iff.mp bare)
  refine ⟨(wordAndRest (Text.trimEndBy isLineEnd line.toList)).2, ?_⟩
  simp only [parse, full, wordOf_eq bare ends whole, Bool.false_eq_true, if_false]

/-- **A line is no command exactly if it is blank.** -/
theorem parse_eq_none_iff :
    parse returnUrl line = .ok none ↔ ∀ c ∈ line.toList, Text.isBlank c = true := by
  refine ⟨fun nothing => Decidable.byContradiction fun solid => ?_, parse_of_blank⟩
  obtain ⟨rest, read⟩ := parse_of_solid returnUrl solid
  rw [read] at nothing
  cases word : ofWord returnUrl (wordOf line) rest with
  | error _ => rw [word] at nothing; cases nothing
  | ok _ => rw [word] at nothing; cases nothing

/-! ## Unknown words -/

/-- A word that is not known makes an unknown command, whatever follows it. -/
theorem ofWord_of_not_mem (unknown : word ∉ words) :
    ofWord returnUrl word rest = .error (.unknown word) := by
  simp only [words, List.mem_cons, List.not_mem_nil, or_false, not_or] at unknown
  obtain ⟨amount, switch, method, pay, redirect, help, quit, exit⟩ := unknown
  exact ofWord.eq_9 returnUrl word rest amount switch method pay redirect help quit exit

/-- The argument of a known word may be at fault, the word is not. -/
theorem ofWord_ne_unknown {given : String} (known : given ∈ words) :
    ofWord returnUrl given rest ≠ .error (.unknown word) := by
  have readable (argument : List Char) (command : Json.Value → Command) :
      (payload argument).map command ≠ .error (.unknown word) := by
    simp only [payload]
    split
    · nofun
    · split <;> nofun
  simp only [words, List.mem_cons, List.not_mem_nil, or_false] at known
  rcases known with rfl | rfl | rfl | rfl | rfl | rfl | rfl | rfl
  · nofun
  · nofun
  · simp only [ofWord]
    split <;> nofun
  · exact readable rest _
  · simp only [ofWord]
    split
    · nofun
    · exact readable _ _
  all_goals nofun

/-- **A word is refused as unknown exactly if the line starts with it and it is no known one.** -/
theorem parse_eq_unknown_iff : parse returnUrl line = .error (.unknown word)
    ↔ (∃ c ∈ line.toList, Text.isBlank c = false) ∧ word = wordOf line ∧ word ∉ words := by
  have solid_iff : (∃ c ∈ line.toList, Text.isBlank c = false)
      ↔ ¬ ∀ c ∈ line.toList, Text.isBlank c = true := by
    simp
  rw [solid_iff]
  constructor
  · intro refused
    have solid : ¬ ∀ c ∈ line.toList, Text.isBlank c = true := fun blank => by
      rw [parse_of_blank blank] at refused
      cases refused
    obtain ⟨rest, read⟩ := parse_of_solid returnUrl solid
    rw [read] at refused
    by_cases known : wordOf line ∈ words
    · cases command : ofWord returnUrl (wordOf line) rest with
      | ok _ => rw [command] at refused; cases refused
      | error _ =>
          rw [command] at refused
          cases refused
          exact (ofWord_ne_unknown known command).elim
    · rw [ofWord_of_not_mem known] at refused
      cases refused
      exact ⟨solid, rfl, known⟩
  · rintro ⟨solid, rfl, unknown⟩
    obtain ⟨rest, read⟩ := parse_of_solid returnUrl solid
    rw [read, ofWord_of_not_mem unknown]
    rfl

/-- **Commands are read as they are meant.**  What is written for a command is read as this command,
whatever blanks stand before it and whatever line ends behind it; a line is no command exactly if it
is blank; and a word is refused as unknown exactly if a line that is not blank starts with it and it
is no known one. -/
theorem read_as_meant (returnUrl : Url) :
    (∀ before text behind : String, ∀ command : Command, Writes returnUrl text command →
        (∀ c ∈ before.toList, Text.isBlank c = true) →
        (∀ c ∈ behind.toList, isLineEnd c = true) →
        parse returnUrl (before ++ text ++ behind) = .ok (some command))
      ∧ (∀ line : String, parse returnUrl line = .ok none
          ↔ ∀ c ∈ line.toList, Text.isBlank c = true)
      ∧ ∀ line word : String, parse returnUrl line = .error (.unknown word)
          ↔ (∃ c ∈ line.toList, Text.isBlank c = false) ∧ word = wordOf line ∧ word ∉ words :=
  ⟨fun _ _ _ _ writes blanks ends => parse_of_writes writes blanks ends,
    fun _ => parse_eq_none_iff, fun _ _ => parse_eq_unknown_iff⟩

theorem read_as_meant_of_redirect : ∃ returnUrl details,
    Url.parse? "https://wallet.example.com/return" = some returnUrl
      ∧ details = .object [("answer", .string " a b "), ("tries", .array [.number (.integer (-1))])]
      ∧ Writes returnUrl "redirect tx-1 \x7b\"answer\":\" a b \",\"tries\":[-1]\x7d"
        (.event (.redirectReturned "tx-1" details none))
      ∧ (∀ c ∈ "\u3000\t".toList, Text.isBlank c = true)
      ∧ (∀ c ∈ "\r\n\n".toList, isLineEnd c = true)
      ∧ parse returnUrl
          ("\u3000\t" ++ "redirect tx-1 \x7b\"answer\":\" a b \",\"tries\":[-1]\x7d" ++ "\r\n\n")
        = .ok (some (.event (.redirectReturned "tx-1" details none)))
      ∧ parse returnUrl " \u0085 \n" = .ok none
      ∧ parse returnUrl " pay\ttwice 2\r\n" = .error (.unknown "pay\ttwice") := by
  have checked : ∃ url, Url.parse? "https://wallet.example.com/return" = some url :=
    Option.isSome_iff_exists.mp (by decide +kernel)
  obtain ⟨returnUrl, parsed⟩ := checked
  obtain ⟨read, blank, unknown⟩ := read_as_meant returnUrl
  have whole : Json.Value.IsWhole
      (.object [("answer", .string " a b "), ("tries", .array [.number (.integer (-1))])]) :=
    ⟨rfl, rfl, by decide⟩
  have solid : ∀ c ∈ "tx-1".toList, Text.isBlank c = false := fun c member =>
    Bool.eq_false_iff.mpr (List.any_eq_false.mp rfl c member)
  have writes : Writes returnUrl _ _ := .redirectWith "tx-1" (by decide) solid _ whole
  have blanks : ∀ c ∈ "\u3000\t".toList, Text.isBlank c = true := List.all_eq_true.mp rfl
  have ends : ∀ c ∈ "\r\n\n".toList, isLineEnd c = true := List.all_eq_true.mp rfl
  refine ⟨returnUrl, _, parsed, rfl, writes, blanks, ends, read _ _ _ _ writes blanks ends, ?_, ?_⟩
  · exact (blank _).mpr (List.all_eq_true.mp rfl)
  · exact (unknown _ _).mpr ⟨⟨'p', by decide, rfl⟩, by decide +kernel, by decide⟩

end Command

end WalletTopUp
