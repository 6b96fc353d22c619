import TradeNotes.Command.Spoken
import TradeNotes.Proofs.Command.Grammar

namespace TradeNotes

namespace Sentence

variable {line left phrase pad : Text} {sentence : Sentence}

/-- What may stand on the right side of a question: neither end is a space or a question mark. -/
structure IsPhrase (phrase : Text) : Prop where
  head : ∀ c ∈ phrase.head?, isPadding c = false
  last : ∀ c ∈ phrase.getLast?, isPadding c = false

/-- What may stand on the left side of a line as it is: the keyword does not stand in it, and it
    does not end so that the keyword would begin there. -/
structure IsOpening (left : Text) : Prop where
  keyword : ¬ keyword <:+: left
  ending : ¬ " is".toList <:+ left

theorem keyword_eq : keyword = " is".toList ++ [' '] := rfl

theorem IsOpening.not_infix (h : IsOpening left) :
    ¬ Sentence.keyword <:+: left ++ Sentence.keyword.dropLast := by
  have hchars : left ++ Sentence.keyword.dropLast = left ++ [' '] ++ ['i'] ++ ['s'] := by
    simp [Sentence.keyword]
  have hlast : ∀ {front : Text} {c : Char}, c ≠ ' ' → ¬ Sentence.keyword <:+ front ++ [c] := by
    rintro front c hc ⟨rest, hrest⟩
    rw [keyword_eq, ← List.append_assoc] at hrest
    exact hc (List.singleton_inj.1 (List.append_inj' hrest rfl).2).symm
  rw [hchars, List.infix_concat_iff, List.infix_concat_iff, List.infix_concat_iff]
  rintro (hends | hends | hends | hstands)
  · exact hlast (by decide) hends
  · exact hlast (by decide) hends
  · obtain hnil | ⟨rest, hrest, hends⟩ := List.suffix_concat_iff.1 hends
    · cases hnil
    · rw [keyword_eq] at hrest
      obtain ⟨rfl, _⟩ := List.append_inj' hrest rfl
      exact h.ending hends
  · exact h.keyword hstands

/-- A line that is put together from two sides falls apart into them again. -/
theorem IsOpening.sides (h : IsOpening left) (rest : Text) :
    Sides (left ++ Sentence.keyword ++ rest) left (rest.strip isPadding) :=
  ⟨rest, Text.cutAtFirst_append (List.cons_ne_nil _ _) h.not_infix rest, rfl⟩

theorem IsPhrase.strip_append (h : IsPhrase phrase) (hpad : ∀ c ∈ pad, isPadding c = true) :
    (phrase ++ pad).strip isPadding = phrase := by
  rw [Text.strip_append_right _ hpad, Text.strip_eq_self h.head h.last]

/-- The right side of a sentence may stand on the right side of a question. -/
theorem isPhrase_right (h : ofLine line = .ok sentence) : IsPhrase sentence.right := by
  obtain ⟨_, right, _, rfl⟩ := ofLine_eq_ok_iff.1 h
  exact ⟨fun _ hc => Text.head?_strip hc, fun _ hc => Text.getLast?_strip hc⟩

theorem isOpening_much : IsOpening "how much".toList :=
  ⟨Text.cutAt?_eq_none_iff.1 rfl, by decide +kernel⟩

theorem isOpening_many : IsOpening "how many Credits".toList :=
  ⟨Text.cutAt?_eq_none_iff.1 rfl, by decide +kernel⟩

/-- A character that is not white space counts in a question, unless it is a question mark. -/
theorem isPadding_of_visible {c : Char} (hc : Text.isBlank c = false) (hne : c ≠ '?') :
    isPadding c = false := by
  have hspace : c ≠ ' ' := by
    rintro rfl
    cases hc
  simp [isPadding, hspace, hne]

/-- Any single word may stand in front of the keyword, the keyword without its spaces as well. -/
theorem isOpening_of_word (h : word.IsWord) : IsOpening word where
  keyword hstands := by cases h.visible ' ' (hstands.subset (by decide))
  ending hends := by cases h.visible ' ' (hends.subset (by decide))

/-- What is behind a question is white space from some point on, and up to there it ends in a
    question mark. -/
theorem exists_lastMark (h : ∀ c ∈ pad, isPadding c = true) :
    ∃ kept spaces, '?' :: pad = kept ++ spaces ∧ kept.getLast? = some '?' ∧
      (∀ c ∈ kept, isPadding c = true) ∧ ∀ c ∈ spaces, Text.isBlank c = true := by
  induction pad using List.reverseRecOn with
  | nil => exact ⟨['?'], [], rfl, rfl, by simp [isPadding], by simp⟩
  | append_singleton pad c ih =>
    obtain ⟨hpad, hc⟩ := List.forall_mem_append.1 h
    have hlast : c = ' ' ∨ c = '?' := by simpa [isPadding] using hc
    obtain rfl | rfl := hlast
    · obtain ⟨kept, spaces, hparts, hmark, hkept, hspaces⟩ := ih hpad
      refine ⟨kept, spaces ++ [' '], ?_, hmark, hkept, ?_⟩
      · rw [← List.cons_append, hparts, List.append_assoc]
      · exact List.forall_mem_append.2 ⟨hspaces, List.forall_mem_singleton.2 (by decide)⟩
    · refine ⟨'?' :: (pad ++ ['?']), [], (List.append_nil _).symm, ?_, ?_, by simp⟩
      · rw [← List.cons_append, List.getLast?_concat]
      · exact List.forall_mem_cons.2 ⟨rfl, h⟩

end Sentence

namespace Command

variable {phrase pad : Text}

theorem getLast?_of_pad (front phrase : Text) (h : pad.getLast? = some '?') :
    (front ++ (phrase ++ pad)).getLast? = some '?' := by
  have hne : pad ≠ [] := by
    rintro rfl
    cases h
  rw [← List.append_assoc, List.getLast?_append_of_ne_nil _ hne, h]

/-- Question marks and spaces behind the phrase of a question do not count, as long as the line
    ends in a question mark. -/
theorem ofLine_much (hphrase : Sentence.IsPhrase phrase)
    (hpad : ∀ c ∈ pad, Sentence.isPadding c = true) (hlast : pad.getLast? = some '?') :
    ofLine ("how much is ".toList ++ (phrase ++ pad)) = .ok (.queryNumeral phrase phrase.tokens) := by
  have hsides := Sentence.isOpening_much.sides (phrase ++ pad)
  rw [hphrase.strip_append hpad] at hsides
  exact ofLine_of_says (.queryNumeral hsides (getLast?_of_pad _ phrase hlast) List.infix_rfl)

theorem ofLine_many (hphrase : Sentence.IsPhrase phrase)
    (hpad : ∀ c ∈ pad, Sentence.isPadding c = true) (hlast : pad.getLast? = some '?') :
    ofLine ("how many Credits is ".toList ++ (phrase ++ pad)) =
      .ok (.queryCredits phrase (Measure.ofPhrase phrase).units (Measure.ofPhrase phrase).metal) := by
  have hsides := Sentence.isOpening_many.sides (phrase ++ pad)
  rw [hphrase.strip_append hpad] at hsides
  have hmuch : ¬ "how much".toList <:+: "how many Credits".toList := Text.cutAt?_eq_none_iff.1 rfl
  have hmany : "how many".toList <:+: "how many Credits".toList := ⟨[], " Credits".toList, rfl⟩
  exact ofLine_of_says (.queryCredits hsides (getLast?_of_pad _ phrase hlast) hmuch hmany)

/-- A line assigns a letter to every name that may stand on its left side. -/
theorem ofLine_assignUnit {unit : Text} (hunit : Sentence.IsOpening unit) (letter : Letter) :
    ofLine (unit ++ " is ".toList ++ [letter.toChar]) = .ok (.assignUnit unit.trim letter) := by
  have hright : Text.strip Sentence.isPadding [letter.toChar] = [letter.toChar] := by
    cases letter <;> rfl
  have hkind : (unit ++ " is ".toList ++ [letter.toChar]).getLast? ≠ some '?' := by
    rw [List.getLast?_concat]
    cases letter <;> decide
  exact ofLine_of_says (.assignUnit letter (hunit.sides [letter.toChar]) hkind hright)

/-- Words that a line may name in front of the keyword: they are not the keyword themselves. -/
structure IsName (word : Text) : Prop extends Text.IsWord word where
  ne_keyword : word ≠ "is".toList

theorem isOpening_joined {words : List Text} (h : ∀ word ∈ words, IsName word) :
    Sentence.IsOpening (Text.joined words) := by
  have htokens : (Text.joined words).tokens = words :=
    Text.tokens_joined fun word hword => (h word hword).toIsWord
  have his : Text.IsWord "is".toList := Text.isWord_of_all (List.cons_ne_nil _ _) rfl
  have hnot : "is".toList ∉ (Text.joined words).tokens := by
    rw [htokens]
    exact fun hmem => (h _ hmem).ne_keyword rfl
  exact ⟨fun hstands => hnot (his.mem_tokens_of_infix hstands),
    fun hends => hnot (his.mem_tokens_of_suffix hends)⟩

/-- The digits of a number with the word for credits behind them. -/
theorem isCredits_toDigits (n : Nat) :
    IsCredits (Nat.toDigits 10 n ++ " Credits".toList) (Nat.toDigits 10 n) where
  ne_nil := Nat.toDigits_ne_nil
  isDigit _ hc := Nat.isDigit_of_mem_toDigits (by decide) (by decide) hc
  word := ⟨"Credits".toList, rfl, map_foldCase_eq_iff.1 rfl⟩

theorem isPadding_of_isDigit {c : Char} (h : c.isDigit = true) : Sentence.isPadding c = false := by
  cases hpadding : Sentence.isPadding c with
  | false => rfl
  | true =>
    simp only [Sentence.isPadding, Bool.or_eq_true, beq_iff_eq] at hpadding
    obtain rfl | rfl := hpadding <;> cases h

/-- A line values a metal by the units in front of it, when all of them are names. -/
theorem ofLine_assignMetal {units : List Text} {metal : Text}
    (h : ∀ word ∈ units ++ [metal], IsName word) (n : Nat) :
    ofLine (Text.joined (units ++ [metal]) ++ " is ".toList ++
        (Nat.toDigits 10 n ++ " Credits".toList)) =
      .ok (.assignMetal units metal.lowerCase (Binary64.ofNat n)) := by
  have hcredits := isCredits_toDigits n
  have hend : (Nat.toDigits 10 n ++ " Credits".toList).getLast? = some 's' :=
    List.getLast?_append_of_ne_nil _ (List.cons_ne_nil _ _)
  have hright : Text.strip Sentence.isPadding (Nat.toDigits 10 n ++ " Credits".toList) =
      Nat.toDigits 10 n ++ " Credits".toList := by
    refine Text.strip_eq_self ?_ ?_
    · rw [List.head?_append_of_ne_nil _ hcredits.ne_nil]
      exact fun c hc => isPadding_of_isDigit (hcredits.isDigit c (List.mem_of_mem_head? hc))
    · rw [hend]
      rintro _ ⟨⟩
      rfl
  have hsides := (isOpening_joined h).sides (Nat.toDigits 10 n ++ " Credits".toList)
  rw [hright] at hsides
  have hkind : (Text.joined (units ++ [metal]) ++ " is ".toList ++
      (Nat.toDigits 10 n ++ " Credits".toList)).getLast? ≠ some '?' := by
    rw [List.getLast?_append_of_ne_nil _ (by simp), hend]
    decide
  have hline := ofLine_of_says (.assignMetal hsides hkind hcredits)
  rwa [Text.tokens_joined fun word hword => (h word hword).toIsWord, List.dropLast_concat,
    List.getLast?_concat, Option.getD_some, Nat.ofDigitChars_ten_toDigits] at hline

end Command

namespace SpokenCommand

/-- The commands that can be spoken: their lines say what they mean. -/
def IsSpeakable : SpokenCommand → Prop
  | assignUnit unit _ => unit.trim = unit ∧ Sentence.IsOpening unit
  | assignMetal units metal _ =>
    (∀ word ∈ units ++ [metal], Command.IsName word) ∧ metal.lowerCase = metal
  | queryNumeral phrase | queryCredits phrase => Sentence.IsPhrase phrase

theorem ofLine_line {spoken : SpokenCommand} (h : spoken.IsSpeakable) :
    Command.ofLine spoken.line = .ok spoken.command := by
  have hpad : ∀ c ∈ ['?'], Sentence.isPadding c = true := List.forall_mem_singleton.2 rfl
  cases spoken with
  | assignUnit unit letter =>
    obtain ⟨htrim, hopening⟩ := h
    change Command.ofLine (unit ++ " is ".toList ++ [letter.toChar]) = _
    rw [Command.ofLine_assignUnit hopening, htrim]
    rfl
  | assignMetal units metal credits =>
    obtain ⟨hnames, hlowered⟩ := h
    change Command.ofLine (Text.joined (units ++ [metal]) ++ " is ".toList ++ Nat.toDigits 10 credits
      ++ " Credits".toList) = _
    rw [List.append_assoc, Command.ofLine_assignMetal hnames, hlowered]
    rfl
  | queryNumeral phrase =>
    change Command.ofLine ("how much is ".toList ++ phrase ++ ['?']) = _
    rw [List.append_assoc, Command.ofLine_much h hpad rfl]
    rfl
  | queryCredits phrase =>
    change Command.ofLine ("how many Credits is ".toList ++ phrase ++ ['?']) = _
    rw [List.append_assoc, Command.ofLine_many h hpad rfl]
    rfl

/-- Every question that a line gives can be spoken. -/
theorem exists_of_question {line : Text} {command : Command} (h : Command.ofLine line = .ok command)
    (hquestion : command.isMutation = false) :
    ∃ spoken : SpokenCommand, spoken.IsSpeakable ∧ spoken.command = command := by
  obtain ⟨sentence, hsentence, _, hforms⟩ := Command.ofLine_cases h
  have hphrase := Sentence.isPhrase_right hsentence
  obtain ⟨_, _, _, rfl⟩ | ⟨_, _, _, _, rfl⟩ | ⟨_, _, rfl⟩ | ⟨_, _, _, rfl⟩ := hforms
  · cases hquestion
  · cases hquestion
  · exact ⟨.queryNumeral sentence.right, hphrase, rfl⟩
  · exact ⟨.queryCredits sentence.right, hphrase, rfl⟩

/-- A command that can be spoken comes back out of its line, and every question that a line gives
    can be spoken, so that it comes back out of a line that holds nothing else. -/
theorem spoken_and_read :
    (∀ spoken : SpokenCommand, spoken.IsSpeakable →
      Command.ofLine spoken.line = .ok spoken.command) ∧
    ∀ line command, Command.ofLine line = .ok command → command.isMutation = false →
      ∃ spoken : SpokenCommand, spoken.IsSpeakable ∧ spoken.command = command ∧
        Command.ofLine spoken.line = .ok command := by
  refine ⟨fun spoken => ofLine_line, fun line command hline hquestion => ?_⟩
  obtain ⟨spoken, hspeakable, rfl⟩ := exists_of_question hline hquestion
  exact ⟨spoken, hspeakable, rfl, ofLine_line hspeakable⟩

/-- A metal that is valued by a unit called as the word for credits is, and a question whose phrase
    holds the keyword, asked with marks and spaces that do not count. -/
theorem spoken_and_read_prokIsGlob :
    let valuation := assignMetal ["Credits".toList] "οδος".toList 12
    let phrase := "prok is glob".toList
    let question := Command.queryNumeral phrase ["prok".toList, "is".toList, "glob".toList]
    valuation.IsSpeakable ∧ Command.ofLine valuation.line = .ok valuation.command ∧
      (queryNumeral phrase).IsSpeakable ∧
      Command.ofLine "how much is prok is glob?".toList = .ok question ∧
      ∃ spoken : SpokenCommand, spoken.IsSpeakable ∧ spoken.command = question ∧
        Command.ofLine spoken.line = .ok question := by
  intro valuation phrase question
  have hunit : Command.IsName "Credits".toList :=
    ⟨Text.isWord_of_all (List.cons_ne_nil _ _) rfl, by decide +kernel⟩
  have hmetal : Command.IsName "οδος".toList :=
    ⟨Text.isWord_of_all (List.cons_ne_nil _ _) rfl, by decide +kernel⟩
  have hvaluation : valuation.IsSpeakable :=
    ⟨List.forall_mem_cons.2 ⟨hunit, List.forall_mem_singleton.2 hmetal⟩, by decide +kernel⟩
  have hphrase : (queryNumeral phrase).IsSpeakable := ⟨by rintro _ ⟨⟩; rfl, by rintro _ ⟨⟩; rfl⟩
  have hquestion : Command.ofLine "and how much is ?prok is glob ? ?".toList = .ok question := by
    decide +kernel
  exact ⟨hvaluation, spoken_and_read.1 _ hvaluation, hphrase, spoken_and_read.1 _ hphrase,
    spoken_and_read.2 _ _ hquestion rfl⟩

end SpokenCommand

end TradeNotes
