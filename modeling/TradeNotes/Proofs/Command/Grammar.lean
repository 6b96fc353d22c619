import Mathlib.Data.List.Forall2
import TradeNotes.Proofs.Command.Forms
import TradeNotes.Proofs.Text.Cutting
import TradeNotes.Proofs.Text.Words

namespace TradeNotes

/-- Whether a line has two sides: what stands in front of the first keyword in it, and what
    stands behind that keyword, without spaces and question marks at its ends. -/
def Sentence.Sides (line left right : Text) : Prop :=
  ∃ rest, line.CutAtFirst keyword left rest ∧ right = rest.strip isPadding

namespace Command

/-- The characters that fold to each of the letters of the word for credits. -/
def creditsLetters : List Text :=
  ["cC".toList, "rR".toList, "eE".toList, "dD".toList, "iI".toList, "tT".toList, "sSſ".toList]

/-- Whether a text is a figure, that is one or more digits, with a space and the word for credits
    behind it and nothing else. -/
structure IsCredits (text figure : Text) : Prop where
  ne_nil : figure ≠ []
  isDigit : ∀ c ∈ figure, c.isDigit = true
  word : ∃ word, text = figure ++ ' ' :: word ∧ List.Forall₂ (· ∈ ·) word creditsLetters

/-- The grammar of the lines that give commands. -/
inductive Says (line : Text) : Command → Prop
  | assignUnit {left right : Text} (letter : Letter) (hsides : Sentence.Sides line left right)
      (hkind : line.getLast? ≠ some '?') (hletter : right = [letter.toChar]) :
      Says line (.assignUnit left.trim letter)
  | assignMetal {left right figure : Text} (hsides : Sentence.Sides line left right)
      (hkind : line.getLast? ≠ some '?') (hcredits : IsCredits right figure) :
      Says line (.assignMetal left.tokens.dropLast (left.tokens.getLast?.getD []).lowerCase
        (Binary64.ofNat (Nat.ofDigitChars 10 figure 0)))
  | queryNumeral {left right : Text} (hsides : Sentence.Sides line left right)
      (hkind : line.getLast? = some '?') (hmuch : "how much".toList <:+: left) :
      Says line (.queryNumeral right right.tokens)
  | queryCredits {left right : Text} (hsides : Sentence.Sides line left right)
      (hkind : line.getLast? = some '?') (hmuch : ¬ "how much".toList <:+: left)
      (hmany : "how many".toList <:+: left) :
      Says line (.queryCredits right right.tokens.dropLast (right.tokens.getLast?.getD []).lowerCase)

/-- The lines that give no command, each with the reason and the text that is at fault. -/
inductive Lacks (line : Text) : Fault → Prop
  | keyword (hkeyword : ¬ Sentence.keyword <:+: line) : Lacks line (.missingKeyword line)
  | instruction {left right : Text} (hsides : Sentence.Sides line left right)
      (hkind : line.getLast? ≠ some '?') (hletter : ∀ letter : Letter, right ≠ [letter.toChar])
      (hcredits : ∀ figure, ¬ IsCredits right figure) : Lacks line (.unrecognizedInstruction right)
  | question {left right : Text} (hsides : Sentence.Sides line left right)
      (hkind : line.getLast? = some '?') (hmuch : ¬ "how much".toList <:+: left)
      (hmany : ¬ "how many".toList <:+: left) : Lacks line (.unanswerableQuestion line)

theorem toNat_toLower (c : Char) :
    c.toLower.toNat = if 65 ≤ c.toNat ∧ c.toNat ≤ 90 then c.toNat + 32 else c.toNat := by
  unfold Char.toLower
  split
  · next h =>
    have hrange : 65 ≤ c.toNat ∧ c.toNat ≤ 90 := h
    rw [if_pos hrange]
    change (c.val + 32).toNat = c.toNat + 32
    rw [UInt32.toNat_add]
    change (c.toNat + 32) % 4294967296 = c.toNat + 32
    omega
  · next h =>
    have hrange : ¬ (65 ≤ c.toNat ∧ c.toNat ≤ 90) := h
    rw [if_neg hrange]

/-- The characters that fold to a lower-case letter are itself, its upper-case form and, in the
    case of an s, the long s. -/
theorem foldCase_eq_iff {c lower upper : Char} (hlower : 97 ≤ lower.toNat ∧ lower.toNat ≤ 122)
    (hupper : upper.toNat + 32 = lower.toNat) :
    foldCase c = lower ↔ c = lower ∨ c = upper ∨ (c = 'ſ' ∧ lower = 's') := by
  unfold foldCase
  split
  · next hlong =>
    subst hlong
    have hnat : 'ſ'.toNat = 383 := rfl
    have hne : 'ſ' ≠ lower := by
      rintro rfl
      omega
    have hne' : 'ſ' ≠ upper := by
      rintro rfl
      omega
    simp only [hne, hne', false_or, true_and]
    exact eq_comm
  · next hshort =>
    have hnat := toNat_toLower c
    rw [← Char.toNat_inj, ← Char.toNat_inj (d := lower), ← Char.toNat_inj (d := upper), hnat]
    simp only [hshort, false_and, or_false]
    split <;> omega

theorem foldCase_eq_space_iff {c : Char} : foldCase c = ' ' ↔ c = ' ' := by
  unfold foldCase
  split
  · next hlong =>
    subst hlong
    decide
  · have hnat := toNat_toLower c
    rw [← Char.toNat_inj, ← Char.toNat_inj, hnat]
    change _ = 32 ↔ _ = 32
    split <;> omega

/-- Letter by letter, the characters that fold to the word for credits. -/
theorem foldCase_eq_iff_mem :
    List.Forall₂ (fun letter forms => ∀ c, foldCase c = letter ↔ c ∈ forms) "credits".toList
      creditsLetters := by
  have hpair : ∀ {lower upper : Char}, (97 ≤ lower.toNat ∧ lower.toNat ≤ 122) ∧
      upper.toNat + 32 = lower.toNat ∧ lower ≠ 's' → ∀ c, foldCase c = lower ↔ c ∈ [lower, upper] := by
    rintro lower upper ⟨hlower, hupper, hne⟩ c
    simp [foldCase_eq_iff hlower hupper, hne]
  have hs : ∀ c, foldCase c = 's' ↔ c ∈ ['s', 'S', 'ſ'] := by
    intro c
    have hfold : foldCase c = 's' ↔ c = 's' ∨ c = 'S' ∨ (c = 'ſ' ∧ 's' = 's') :=
      foldCase_eq_iff (by decide) (by decide)
    simp [hfold]
  exact .cons (hpair (by decide)) (.cons (hpair (by decide)) (.cons (hpair (by decide))
    (.cons (hpair (by decide)) (.cons (hpair (by decide)) (.cons (hpair (by decide)) (.cons hs .nil))))))

theorem map_foldCase_eq_iff {word : Text} :
    word.map foldCase = "credits".toList ↔ List.Forall₂ (· ∈ ·) word creditsLetters := by
  rw [← List.forall₂_eq_eq_eq, List.forall₂_map_left_iff]
  have hletters := foldCase_eq_iff_mem
  generalize "credits".toList = letters at hletters
  generalize creditsLetters = forms at hletters
  induction hletters generalizing word with
  | nil => rw [List.forall₂_nil_right_iff, List.forall₂_nil_right_iff]
  | cons hletter _ ih => simp only [List.forall₂_cons_right_iff, hletter, ih]

variable {line right figure : Text} {command : Command} {fault : Fault}

/-- The figure in front of the word for credits is read exactly where there is one. -/
theorem creditsFigure?_eq_some_iff {n : Nat} :
    creditsFigure? right = some n ↔
      ∃ figure, IsCredits right figure ∧ n = Nat.ofDigitChars 10 figure 0 := by
  constructor
  · intro h
    simp only [creditsFigure?, Option.ite_none_left_eq_some, Bool.or_eq_true, bne_iff_ne, not_or,
      List.isEmpty_iff, ne_eq, not_not, Option.some.injEq] at h
    obtain ⟨⟨hne, hword⟩, rfl⟩ := h
    change (right.dropWhile Char.isDigit).map foldCase = ' ' :: "credits".toList at hword
    obtain ⟨space, word, hdrop, hspace, hword⟩ := List.map_eq_cons_iff.1 hword
    obtain rfl := foldCase_eq_space_iff.1 hspace
    refine ⟨right.takeWhile Char.isDigit, ⟨hne, fun c hc => List.mem_takeWhile_imp hc, word, ?_,
      map_foldCase_eq_iff.1 hword⟩, rfl⟩
    rw [← hdrop, List.takeWhile_append_dropWhile]
  · rintro ⟨figure, ⟨hne, hdigits, word, rfl, hword⟩, rfl⟩
    have htake : (figure ++ ' ' :: word).takeWhile Char.isDigit = figure := by
      rw [List.takeWhile_append_of_pos hdigits, List.takeWhile_cons_of_neg (by decide), List.append_nil]
    have hdrop : (figure ++ ' ' :: word).dropWhile Char.isDigit = ' ' :: word := by
      rw [List.dropWhile_append_of_pos hdigits, List.dropWhile_cons_of_neg (by decide)]
    have hfolded : (' ' :: word).map foldCase = " credits".toList := by
      rw [List.map_cons, map_foldCase_eq_iff.2 hword]
      rfl
    simp only [creditsFigure?, htake, hdrop, hfolded]
    simp [hne]

end Command

namespace Sentence

variable {line left right word : Text} {sentence : Sentence}

theorem ofLine_of_sides (h : Sides line left right) :
    ofLine line = .ok ⟨kindOf line, left.trim, right⟩ := by
  obtain ⟨rest, hcut, rfl⟩ := h
  exact ofLine_eq_ok_iff.2 ⟨left, rest, Text.cutAt?_eq_some_iff.2 hcut, rfl⟩

theorem exists_sides (h : keyword <:+: line) : ∃ left right, Sides line left right := by
  cases hcut : line.cutAt? keyword with
  | none => exact absurd h (Text.cutAt?_eq_none_iff.1 hcut)
  | some sides => exact ⟨sides.1, _, sides.2, Text.cutAt?_eq_some_iff.1 hcut, rfl⟩

theorem ofLine_eq_missingKeyword (h : ¬ keyword <:+: line) :
    ofLine line = .error (.missingKeyword line) := by
  simp only [ofLine, Text.cutAt?_eq_none_iff.2 h]

theorem kindOf_of_question (h : line.getLast? = some '?') : kindOf line = .question := if_pos h

theorem kindOf_of_instruction (h : line.getLast? ≠ some '?') : kindOf line = .instruction := if_neg h

/-- A left side holds words whose ends are no white space wherever it is trimmed. -/
theorem holds_trim_iff (hne : word ≠ []) (hhead : ∀ c ∈ word.head?, Text.isBlank c = false)
    (hlast : ∀ c ∈ word.getLast?, Text.isBlank c = false) :
    left.trim.holds word = true ↔ word <:+: left := by
  rw [Text.holds_iff_infix]
  exact ⟨fun h => h.trans (Text.strip_infix _ _), fun h => Text.infix_strip hne hhead hlast h⟩

theorem holds_much_iff : left.trim.holds "how much".toList = true ↔ "how much".toList <:+: left :=
  holds_trim_iff (List.cons_ne_nil _ _) (by rintro _ ⟨⟩; rfl) (by rintro _ ⟨⟩; rfl)

theorem holds_many_iff : left.trim.holds "how many".toList = true ↔ "how many".toList <:+: left :=
  holds_trim_iff (List.cons_ne_nil _ _) (by rintro _ ⟨⟩; rfl) (by rintro _ ⟨⟩; rfl)

end Sentence

theorem Measure.ofPhrase_trim (phrase : Text) : ofPhrase phrase.trim = ofPhrase phrase := by
  simp only [ofPhrase, Text.tokens_trim]

namespace Command

variable {line left right figure : Text} {command : Command} {fault : Fault}

theorem IsCredits.ne_letter (h : IsCredits right figure) (letter : Letter) :
    right ≠ [letter.toChar] := by
  obtain ⟨word, rfl, _⟩ := h.word
  intro heq
  have hlength := congrArg List.length heq
  have hpos := List.length_pos_iff.2 h.ne_nil
  simp only [List.length_append, List.length_cons, List.length_nil] at hlength
  omega

theorem ofLine_of_question (hsides : Sentence.Sides line left right)
    (hkind : line.getLast? = some '?') :
    ofLine line = ofQuestion line ⟨.question, left.trim, right⟩ := by
  simp only [ofLine, Sentence.ofLine_of_sides hsides, Sentence.kindOf_of_question hkind]
  rfl

theorem ofLine_of_instruction (hsides : Sentence.Sides line left right)
    (hkind : line.getLast? ≠ some '?') :
    ofLine line = ofInstruction ⟨.instruction, left.trim, right⟩ := by
  simp only [ofLine, Sentence.ofLine_of_sides hsides, Sentence.kindOf_of_instruction hkind]
  rfl

theorem ofText?_eq_none (h : ∀ letter : Letter, right ≠ [letter.toChar]) :
    Letter.ofText? right = none :=
  Option.eq_none_iff_forall_ne_some.2 fun letter hletter =>
    h letter (Letter.ofText?_eq_some_iff.1 hletter)

/-- Every line that the grammar gives a command gives that command. -/
theorem ofLine_of_says (h : Says line command) : ofLine line = .ok command := by
  cases h with
  | assignUnit letter hsides hkind hletter =>
    rw [ofLine_of_instruction hsides hkind]
    simp only [ofInstruction, Letter.ofText?_eq_some_iff.2 hletter]
  | assignMetal hsides hkind hcredits =>
    have hfigure := creditsFigure?_eq_some_iff.2 ⟨_, hcredits, rfl⟩
    rw [ofLine_of_instruction hsides hkind]
    simp only [ofInstruction, ofText?_eq_none hcredits.ne_letter, hfigure, Measure.ofPhrase_trim]
    rfl
  | queryNumeral hsides hkind hmuch =>
    rw [ofLine_of_question hsides hkind, ofQuestion, if_pos (Sentence.holds_much_iff.2 hmuch)]
  | queryCredits hsides hkind hmuch hmany =>
    rw [ofLine_of_question hsides hkind, ofQuestion, if_neg (mt Sentence.holds_much_iff.1 hmuch),
      if_pos (Sentence.holds_many_iff.2 hmany)]
    rfl

/-- A line that lacks something gives no command, for that reason. -/
theorem ofLine_of_lacks (h : Lacks line fault) : ofLine line = .error fault := by
  cases h with
  | keyword hkeyword =>
    simp only [ofLine, Sentence.ofLine_eq_missingKeyword hkeyword]
    rfl
  | instruction hsides hkind hletter hcredits =>
    have hfigure : creditsFigure? _ = none := Option.eq_none_iff_forall_ne_some.2 fun n hn => by
      obtain ⟨figure, hfigure, _⟩ := creditsFigure?_eq_some_iff.1 hn
      exact hcredits figure hfigure
    rw [ofLine_of_instruction hsides hkind]
    simp only [ofInstruction, ofText?_eq_none hletter, hfigure]
  | question hsides hkind hmuch hmany =>
    rw [ofLine_of_question hsides hkind, ofQuestion, if_neg (mt Sentence.holds_much_iff.1 hmuch),
      if_neg (mt Sentence.holds_many_iff.1 hmany)]

/-- Every line has one of the four forms or lacks something. -/
theorem says_or_lacks (line : Text) : (∃ command, Says line command) ∨ ∃ fault, Lacks line fault := by
  by_cases hkeyword : Sentence.keyword <:+: line
  · obtain ⟨left, right, hsides⟩ := Sentence.exists_sides hkeyword
    by_cases hkind : line.getLast? = some '?'
    · by_cases hmuch : "how much".toList <:+: left
      · exact .inl ⟨_, .queryNumeral hsides hkind hmuch⟩
      · by_cases hmany : "how many".toList <:+: left
        · exact .inl ⟨_, .queryCredits hsides hkind hmuch hmany⟩
        · exact .inr ⟨_, .question hsides hkind hmuch hmany⟩
    · by_cases hletter : ∃ letter : Letter, right = [letter.toChar]
      · obtain ⟨letter, hletter⟩ := hletter
        exact .inl ⟨_, .assignUnit letter hsides hkind hletter⟩
      · by_cases hcredits : ∃ figure, IsCredits right figure
        · obtain ⟨figure, hcredits⟩ := hcredits
          exact .inl ⟨_, .assignMetal hsides hkind hcredits⟩
        · exact .inr ⟨_, .instruction hsides hkind (not_exists.1 hletter) (not_exists.1 hcredits)⟩
  · exact .inr ⟨_, .keyword hkeyword⟩

/-- A line gives the command that the grammar gives it, and no other line gives one. A line
    without the keyword is at fault as a whole, an instruction with its right side, and a question
    as a whole. -/
theorem ofLine_iff_grammar (line : Text) :
    (∀ command, ofLine line = .ok command ↔ Says line command) ∧
      ∀ fault, ofLine line = .error fault ↔ Lacks line fault := by
  obtain ⟨command, hsays⟩ | ⟨fault, hlacks⟩ := says_or_lacks line
  · have hline := ofLine_of_says hsays
    refine ⟨fun other => ⟨fun h => ?_, ofLine_of_says⟩, fun fault => ⟨fun h => ?_, ofLine_of_lacks⟩⟩
    · cases hline.symm.trans h
      exact hsays
    · cases hline.symm.trans h
  · have hline := ofLine_of_lacks hlacks
    refine ⟨fun command => ⟨fun h => ?_, ofLine_of_says⟩, fun other => ⟨fun h => ?_, ofLine_of_lacks⟩⟩
    · cases hline.symm.trans h
    · cases hline.symm.trans h
      exact hlacks

/-- Two keywords that share a space: the first one counts. -/
example : ofLine "a is is I".toList = .error (.unrecognizedInstruction "is I".toList) := by
  decide +kernel

end Command

end TradeNotes
