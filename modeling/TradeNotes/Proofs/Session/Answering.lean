import TradeNotes.Proofs.Command.Speaking
import TradeNotes.Proofs.Session.WellNamed
import TradeNotes.Proofs.Tables.Footprint

namespace TradeNotes

/-- Whether a line asks about a phrase with given words and nothing else: more question marks and
    spaces may follow its question mark, and white space may stand around it. -/
def Asks (line asking phrase : Text) : Prop :=
  ∃ front pad back, line = front ++ (asking ++ (phrase ++ '?' :: pad)) ++ back ∧
    (∀ c ∈ front, Text.isBlank c = true) ∧ (∀ c ∈ pad, Sentence.isPadding c = true) ∧
    ∀ c ∈ back, Text.isBlank c = true

/-- Whether a line gives a letter to a name and nothing else, with white space around it. -/
def Assigns (line unit : Text) (letter : Letter) : Prop :=
  ∃ front back, line = front ++ (unit ++ " is ".toList ++ [letter.toChar]) ++ back ∧
    (∀ c ∈ front, Text.isBlank c = true) ∧ ∀ c ∈ back, Text.isBlank c = true

/-- Names that can be listed in a question: none of them holds white space, and the list neither
    begins nor ends with a question mark. -/
structure AreAskable (names : List Text) : Prop where
  ne_nil : names ≠ []
  visible : ∀ name ∈ names, ∀ c ∈ name, Text.isBlank c = false
  head : ∀ name ∈ names.head?, name.head? ≠ some '?'
  last : ∀ name ∈ names.getLast?, name.getLast? ≠ some '?'

variable {line asking unit phrase : Text} {names : List Text} {letter : Letter}

theorem AreAskable.isPhrase (h : AreAskable names) (hwords : ∀ name ∈ names, Text.IsWord name) :
    Sentence.IsPhrase (Text.joined names) where
  head c hc := by
    rw [Text.head?_joined hwords] at hc
    obtain ⟨name, hname, hc⟩ := Option.bind_eq_some_iff.1 hc
    have hvisible := h.visible name (List.mem_of_mem_head? hname) c (List.mem_of_mem_head? hc)
    exact Sentence.isPadding_of_visible hvisible fun heq => h.head name hname (heq ▸ hc)
  last c hc := by
    rw [Text.getLast?_joined hwords] at hc
    obtain ⟨name, hname, hc⟩ := Option.bind_eq_some_iff.1 hc
    have hvisible := h.visible name (List.mem_of_getLast? hname) c (List.mem_of_getLast? hc)
    exact Sentence.isPadding_of_visible hvisible fun heq => h.last name hname (heq ▸ hc)

/-- When a line that asks about a phrase is trimmed, it still ends in question marks and spaces,
    the last of which is a question mark. -/
theorem Asks.exists_trim_eq (h : Asks line asking phrase) (hne : asking ≠ [])
    (hhead : ∀ c ∈ asking.head?, Text.isBlank c = false) :
    ∃ kept, line.trim = asking ++ (phrase ++ kept) ∧ kept.getLast? = some '?' ∧
      ∀ c ∈ kept, Sentence.isPadding c = true := by
  obtain ⟨front, pad, back, rfl, hfront, hpad, hback⟩ := h
  obtain ⟨kept, spaces, hparts, hmark, hkept, hspaces⟩ := Sentence.exists_lastMark hpad
  refine ⟨kept, ?_, hmark, hkept⟩
  have hline : front ++ (asking ++ (phrase ++ '?' :: pad)) ++ back =
      front ++ (asking ++ (phrase ++ kept)) ++ (spaces ++ back) := by
    simp only [hparts, List.append_assoc]
  rw [hline]
  apply Text.trim_append_append hfront (List.forall_mem_append.2 ⟨hspaces, hback⟩)
  · rwa [List.head?_append_of_ne_nil _ hne]
  · rw [Command.getLast?_of_pad _ phrase hmark]
    rintro _ ⟨⟩
    rfl

namespace Command

/-- A line that asks for the number of a phrase gives that question. -/
theorem ofLine_of_asks (h : Asks line "how much is ".toList phrase)
    (hphrase : Sentence.IsPhrase phrase) :
    ofLine line.trim = .ok (.queryNumeral phrase phrase.tokens) := by
  obtain ⟨kept, hline, hmark, hkept⟩ := h.exists_trim_eq (List.cons_ne_nil _ _) (by rintro _ ⟨⟩; rfl)
  rw [hline]
  exact ofLine_much hphrase hkept hmark

theorem ofLine_of_assigns (h : Assigns line unit letter) (hunit : unit.IsWord) :
    ofLine line.trim = .ok (.assignUnit unit letter) := by
  obtain ⟨front, back, rfl, hfront, hback⟩ := h
  have hhead : ∀ c ∈ (unit ++ " is ".toList ++ [letter.toChar]).head?, Text.isBlank c = false := by
    rw [List.append_assoc, List.head?_append_of_ne_nil _ hunit.ne_nil]
    exact hunit.head?
  have hlast : ∀ c ∈ (unit ++ " is ".toList ++ [letter.toChar]).getLast?, Text.isBlank c = false := by
    rw [List.getLast?_concat]
    rintro _ ⟨⟩
    cases letter <;> rfl
  rw [Text.trim_append_append hfront hback hhead hlast,
    ofLine_assignUnit (Sentence.isOpening_of_word hunit), hunit.trim_eq]

end Command

namespace Turn

variable {letters : Numeral}

/-- A question about words that all have letters is answered with the value of these letters. -/
theorem outcome_of_asks (session : Text) {t : Tables} (h : Asks line "how much is ".toList (Text.joined names))
    (hnames : AreAskable names) (hwords : ∀ name ∈ names, Text.IsWord name)
    (hletters : List.Forall₂ (fun name letter => t.units.get? name = some letter) names letters) :
    (ofLine session t line).outcome =
      .ok (some (Text.joined names ++ " is ".toList ++ Nat.toDigits 10 letters.value)) := by
  have hcommand := Command.ofLine_of_asks h (hnames.isPhrase hwords)
  rw [Text.tokens_joined hwords] at hcommand
  have hvalue : t.value names = .ok letters.value :=
    Tables.value_eq_ok_iff.2 ⟨letters, Tables.numeral_eq_ok_iff.2 hletters, rfl⟩
  rw [outcome_of_command hcommand, Tables.result_queryNumeral, hvalue]
  rfl

/-- An assignment has no answer, and the name has the letter from then on. -/
theorem ofLine_of_assigns (session : Text) (t : Tables) (h : Assigns line unit letter)
    (hunit : unit.IsWord) : (ofLine session t line).outcome = .ok none ∧
      (ofLine session t line).tables.units.get? unit = some letter := by
  have hcommand := Command.ofLine_of_assigns h hunit
  rw [outcome_of_command hcommand, tables_of_command hcommand]
  refine ⟨rfl, ?_⟩
  change (t.units.insert unit letter).get? unit = some letter
  rw [NameMap.get?_insert, if_pos rfl]

end Turn

theorem Numeral.value_singleton (letter : Letter) : value [letter] = letter.value := by
  cases letter <;> rfl

namespace Tables

/-- No name that a session gives to a unit is empty. -/
theorem Reachable.unit_ne_nil {t : Tables} (h : Reachable t)
    (hunit : t.units.get? unit = some letter) : unit ≠ [] := by
  obtain ⟨lines, rfl⟩ := h.exists_lines []
  exact ((Turn.wellNamed_tablesAfter wellNamed_empty lines).units unit letter hunit).ne_nil

/-- Whatever lines and batches a session has carried out, a question about names that have
    letters is answered with the value of these letters in their order. A name that has just been
    given a letter has that letter, whichever it had before. -/
theorem Reachable.answers {t : Tables} (h : Reachable t) (session : Text) :
    (∀ names letters line, AreAskable names →
      List.Forall₂ (fun name letter => t.units.get? name = some letter) names letters →
      Asks line "how much is ".toList (Text.joined names) →
      (Turn.ofLine session t line).outcome =
        .ok (some (Text.joined names ++ " is ".toList ++
          Nat.toDigits 10 (decode (Numeral.text letters))))) ∧
    ∀ unit letter line question, unit ≠ [] → AreAskable [unit] → Assigns line unit letter →
      Asks question "how much is ".toList unit →
      (Turn.ofLine session t line).outcome = .ok none ∧
        (Turn.ofLine session (Turn.ofLine session t line).tables question).outcome =
          .ok (some (unit ++ " is ".toList ++ Nat.toDigits 10 letter.value)) := by
  constructor
  · intro names letters line hnames hletters hasks
    have hwords : ∀ name ∈ names, Text.IsWord name := by
      intro name hname
      obtain ⟨_, hletter⟩ := exists_forall₂_iff.1 ⟨letters, hletters⟩ name hname
      exact ⟨h.unit_ne_nil hletter, hnames.visible name hname⟩
    exact Turn.outcome_of_asks session hasks hnames hwords hletters
  · intro unit letter line question hne hunit hassigns hasks
    have hword : Text.IsWord unit := ⟨hne, hunit.visible unit List.mem_cons_self⟩
    obtain ⟨houtcome, hget⟩ := Turn.ofLine_of_assigns session t hassigns hword
    refine ⟨houtcome, ?_⟩
    have hletters : List.Forall₂ (fun name letter =>
        (Turn.ofLine session t line).tables.units.get? name = some letter) [unit] [letter] :=
      .cons hget .nil
    rw [← Text.joined_singleton unit] at hasks
    have hanswer := Turn.outcome_of_asks session hasks hunit (by simpa using hword) hletters
    rwa [Text.joined_singleton, Numeral.value_singleton] at hanswer

/-- Units that are called as the words of the question are. -/
theorem Reachable.answers_howIs :
    let t : Tables := (Turn.ofLine [] (Turn.ofLine [] .empty "is is X".toList).tables
      "how is I".toList).tables
    let t' : Tables := (Turn.ofLine [] t " is is L\t".toList).tables
    (Turn.ofLine [] t "\u3000how much is how is? ?? \r".toList).outcome =
        .ok (some "how is is 9".toList) ∧
      (Turn.ofLine [] t' "how much is is?".toList).outcome = .ok (some "is is 50".toList) := by
  intro t t'
  have hreachable : Reachable t := .line [] _ (.line [] _ .empty)
  have hhow : t.units.get? "how".toList = some .I := by decide +kernel
  have his : t.units.get? "is".toList = some .X := by decide +kernel
  have hhowWord : Text.IsWord "how".toList := Text.isWord_of_all (List.cons_ne_nil _ _) rfl
  have hisWord : Text.IsWord "is".toList := Text.isWord_of_all (List.cons_ne_nil _ _) rfl
  have hboth : AreAskable ["how".toList, "is".toList] := {
    ne_nil := List.cons_ne_nil _ _
    visible := List.forall_mem_cons.2 ⟨hhowWord.visible, List.forall_mem_singleton.2 hisWord.visible⟩
    head := by rintro _ ⟨⟩; decide
    last := by rintro _ ⟨⟩; decide }
  have hsingle : AreAskable ["is".toList] := {
    ne_nil := List.cons_ne_nil _ _
    visible := List.forall_mem_singleton.2 hisWord.visible
    head := by rintro _ ⟨⟩; decide
    last := by rintro _ ⟨⟩; decide }
  have hasks : Asks "\u3000how much is how is? ?? \r".toList "how much is ".toList "how is".toList :=
    ⟨"\u3000".toList, " ??".toList, " \r".toList, rfl, List.all_eq_true.1 rfl,
      List.all_eq_true.1 rfl, List.all_eq_true.1 rfl⟩
  have hassigns : Assigns " is is L\t".toList "is".toList .L :=
    ⟨" ".toList, "\t".toList, rfl, List.all_eq_true.1 rfl, List.all_eq_true.1 rfl⟩
  have hasksIs : Asks "how much is is?".toList "how much is ".toList "is".toList :=
    ⟨[], [], [], rfl, List.all_eq_true.1 rfl, List.all_eq_true.1 rfl, List.all_eq_true.1 rfl⟩
  obtain ⟨hquestions, hassignments⟩ := Reachable.answers hreachable []
  exact ⟨hquestions _ _ _ hboth (.cons hhow (.cons his .nil)) hasks,
    (hassignments _ _ _ _ (List.cons_ne_nil _ _) hsingle hassigns hasksIs).2⟩

end Tables

end TradeNotes
