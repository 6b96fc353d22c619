import TradeNotes.Proofs.Session.Answering

namespace TradeNotes

/-- Whether a word spells a metal: it is the metal's name in lower case, whichever letters of it
    are capital, and it can stand in front of a question mark. -/
structure IsSpelling (spelling metal : Text) : Prop where
  visible : ∀ c ∈ spelling, Text.isBlank c = false
  lowered : spelling.lowerCase = metal
  last : spelling.getLast? ≠ some '?'

variable {line phrase spelling metal : Text} {names : List Text} {letters : Numeral}
  {ratio : Binary64}

/-- A metal in lower case spells itself, unless it ends in a question mark. -/
theorem IsMetalName.isSpelling (h : IsMetalName metal) (hlast : metal.getLast? ≠ some '?') :
    IsSpelling metal metal :=
  ⟨h.word, h.lowered, hlast⟩

theorem IsSpelling.isWord (h : IsSpelling spelling metal) (hmetal : metal ≠ []) :
    Text.IsWord spelling := by
  refine ⟨?_, h.visible⟩
  rintro rfl
  exact hmetal h.lowered.symm

/-- Names with a metal behind them can be asked about, when the first word of them all does not
    begin with a question mark. -/
theorem IsSpelling.areAskable (h : IsSpelling spelling metal)
    (hnames : ∀ name ∈ names, ∀ c ∈ name, Text.isBlank c = false)
    (hhead : ∀ first ∈ (names ++ [spelling]).head?, first.head? ≠ some '?') :
    AreAskable (names ++ [spelling]) where
  ne_nil := List.concat_ne_nil spelling names
  visible := List.forall_mem_append.2 ⟨hnames, List.forall_mem_singleton.2 h.visible⟩
  head := hhead
  last := by
    rw [List.getLast?_concat]
    rintro _ ⟨⟩
    exact h.last

/-- The last word of a phrase is its metal, and the words in front of it are the units. -/
theorem Measure.ofPhrase_joined (hwords : ∀ word ∈ names ++ [spelling], Text.IsWord word) :
    ofPhrase (Text.joined (names ++ [spelling])) = ⟨names, spelling.lowerCase⟩ := by
  rw [ofPhrase, Text.tokens_joined hwords, List.dropLast_concat, List.getLast?_concat,
    Option.getD_some]

/-- A line that asks for the credits of a phrase gives that question. -/
theorem Command.ofLine_of_asksCredits (h : Asks line "how many Credits is ".toList phrase)
    (hphrase : Sentence.IsPhrase phrase) :
    ofLine line.trim =
      .ok (.queryCredits phrase (Measure.ofPhrase phrase).units (Measure.ofPhrase phrase).metal) := by
  obtain ⟨kept, hline, hmark, hkept⟩ := h.exists_trim_eq (List.cons_ne_nil _ _) (by rintro _ ⟨⟩; rfl)
  rw [hline]
  exact ofLine_many hphrase hkept hmark

/-- A question about units that all have letters, of a metal that has a ratio, is answered with the
    ratio times the value of these letters. -/
theorem Turn.outcome_of_asksCredits (session : Text) {t : Tables}
    (h : Asks line "how many Credits is ".toList (Text.joined (names ++ [spelling])))
    (hnames : AreAskable (names ++ [spelling]))
    (hwords : ∀ word ∈ names ++ [spelling], Text.IsWord word)
    (hletters : List.Forall₂ (fun name letter => t.units.get? name = some letter) names letters)
    (hratio : t.metals.get? spelling.lowerCase = some ratio) :
    (ofLine session t line).outcome =
      .ok (some (Text.joined (names ++ [spelling]) ++ " is ".toList ++
        (Credits.text ((Binary64.ofNat letters.value).mul ratio) ++ " Credits".toList))) := by
  have hcommand := Command.ofLine_of_asksCredits h (hnames.isPhrase hwords)
  rw [Measure.ofPhrase_joined hwords] at hcommand
  have hvalue : t.value names = .ok letters.value :=
    Tables.value_eq_ok_iff.2 ⟨letters, Tables.numeral_eq_ok_iff.2 hletters, rfl⟩
  rw [outcome_of_command hcommand, Tables.result_queryCredits, Tables.ratio_eq_ok_iff.2 hratio, hvalue]
  rfl

namespace Tables

theorem Reachable.isMetalName {t : Tables} (h : Reachable t)
    (hmetal : t.metals.get? metal = some ratio) : IsMetalName metal := by
  obtain ⟨lines, rfl⟩ := h.exists_lines []
  exact (Turn.wellNamed_tablesAfter wellNamed_empty lines).metals metal ratio hmetal

/-- Whatever lines and batches a session has carried out, a metal that has a ratio is found under
    every spelling, its own name among them unless that ends in a question mark. The question about
    names that have letters is answered with the ratio times the value of these letters, so the
    amount is the same for all spellings. -/
theorem Reachable.answers_spellings {t : Tables} (h : Reachable t) (session : Text)
    (hmetal : t.metals.get? metal = some ratio) :
    (metal.getLast? ≠ some '?' → IsSpelling metal metal) ∧
    ∀ spelling names letters line, IsSpelling spelling metal →
      (∀ name ∈ names, ∀ c ∈ name, Text.isBlank c = false) →
      (∀ first ∈ (names ++ [spelling]).head?, first.head? ≠ some '?') →
      List.Forall₂ (fun name letter => t.units.get? name = some letter) names letters →
      Asks line "how many Credits is ".toList (Text.joined (names ++ [spelling])) →
      (Turn.ofLine session t line).outcome =
        .ok (some (Text.joined (names ++ [spelling]) ++ " is ".toList ++
          (Credits.text ((Binary64.ofNat (decode (Numeral.text letters))).mul ratio) ++
            " Credits".toList))) := by
  have hname := h.isMetalName hmetal
  refine ⟨hname.isSpelling, ?_⟩
  intro spelling names letters line hspelling hnames hhead hletters hasks
  have hwords : ∀ word ∈ names ++ [spelling], Text.IsWord word := by
    refine List.forall_mem_append.2 ⟨?_, List.forall_mem_singleton.2 (hspelling.isWord hname.ne_nil)⟩
    intro name hmem
    obtain ⟨_, hletter⟩ := exists_forall₂_iff.1 ⟨letters, hletters⟩ name hmem
    exact ⟨h.unit_ne_nil hletter, hnames name hmem⟩
  rw [← hspelling.lowered] at hmetal
  exact Turn.outcome_of_asksCredits session hasks (hspelling.areAskable hnames hhead) hwords hletters
    hmetal

/-- A metal that ends in a final sigma, asked about in capitals and by two units, and by itself. -/
theorem Reachable.answers_spellings_sigma :
    let t : Tables := (Turn.ofLine [] (Turn.ofLine [] .empty "is is X".toList).tables
      "is ΟΔΟΣ is 340 credits".toList).tables
    t.metals.get? "οδος".toList = some (Binary64.ofNat 34) ∧
      IsSpelling "οδος".toList "οδος".toList ∧
      (Turn.ofLine [] t "\thow many Credits is is is ΟΔΟς? ?".toList).outcome =
        .ok (some "is is ΟΔΟς is 680 Credits".toList) ∧
      (Turn.ofLine [] t "how many Credits is ΟΔΟΣ?".toList).outcome =
        .ok (some "ΟΔΟΣ is 0 Credits".toList) := by
  intro t
  have hreachable : Reachable t := .line [] _ (.line [] _ .empty)
  have hmetal : t.metals.get? "οδος".toList = some (Binary64.ofNat 34) := by decide +kernel
  have his : t.units.get? "is".toList = some .X := by decide +kernel
  have hvisible : ∀ c ∈ "is".toList, Text.isBlank c = false :=
    List.forall_mem_cons.2 ⟨rfl, List.forall_mem_singleton.2 rfl⟩
  have hmixed : IsSpelling "ΟΔΟς".toList "οδος".toList :=
    ⟨by simpa using List.all_eq_true.1 (rfl : "ΟΔΟς".toList.all (!Text.isBlank ·) = true),
      by decide +kernel, by decide⟩
  have hcapital : IsSpelling "ΟΔΟΣ".toList "οδος".toList :=
    ⟨by simpa using List.all_eq_true.1 (rfl : "ΟΔΟΣ".toList.all (!Text.isBlank ·) = true),
      by decide +kernel, by decide⟩
  have hasksMixed : Asks "\thow many Credits is is is ΟΔΟς? ?".toList "how many Credits is ".toList
      (Text.joined ["is".toList, "is".toList, "ΟΔΟς".toList]) :=
    ⟨"\t".toList, " ?".toList, [], rfl, List.all_eq_true.1 rfl, List.all_eq_true.1 rfl,
      List.all_eq_true.1 rfl⟩
  have hasksCapital : Asks "how many Credits is ΟΔΟΣ?".toList "how many Credits is ".toList
      (Text.joined ["ΟΔΟΣ".toList]) :=
    ⟨[], [], [], rfl, List.all_eq_true.1 rfl, List.all_eq_true.1 rfl, List.all_eq_true.1 rfl⟩
  obtain ⟨hself, hanswers⟩ := Reachable.answers_spellings hreachable [] hmetal
  refine ⟨hmetal, hself (by decide), ?_, ?_⟩
  · rw [hanswers _ ["is".toList, "is".toList] _ _ hmixed (by simp [hvisible])
      (by rintro _ ⟨⟩; decide) (.cons his (.cons his .nil)) hasksMixed]
    decide +kernel
  · rw [hanswers _ [] _ _ hcapital (by simp) (by rintro _ ⟨⟩; decide) .nil hasksCapital]
    decide +kernel

end Tables

end TradeNotes
