import TradeNotes.Proofs.Command.Forms
import TradeNotes.Proofs.Session.Reachable
import TradeNotes.Proofs.Tables.Names
import TradeNotes.Proofs.Text.LowerCasing
import TradeNotes.Proofs.Text.Trimming
import TradeNotes.Proofs.Text.Words

namespace TradeNotes

/-- The names that a session can give to units: neither end is white space, and the keyword
    does not stand in them. They may be of several words. -/
structure IsUnitName (name : Text) : Prop where
  ne_nil : name ≠ []
  head : ∀ c ∈ name.head?, Text.isBlank c = false
  last : ∀ c ∈ name.getLast?, Text.isBlank c = false
  keyword : ¬ Sentence.keyword <:+: name

/-- The names that a session can give to metals: single words in lower case. -/
structure IsMetalName (name : Text) : Prop where
  ne_nil : name ≠ []
  word : ∀ c ∈ name, Text.isBlank c = false
  lowered : name.lowerCase = name

/-- What stands before the keyword of a trimmed line is not white space alone, since then the
    line would begin with white space: with that, or with the space of the keyword. -/
theorem Sentence.trim_left_ne_nil {line left right : Text}
    (h : line.trim.cutAt? keyword = some (left, right)) : left.trim ≠ [] := by
  intro hnil
  have hblank : ∀ c ∈ left, Text.isBlank c = true := Text.forall_of_strip_eq_nil hnil
  have hline : line.trim = left ++ keyword ++ right := Text.cutAt?_eq_some h
  obtain ⟨c, hhead, hc⟩ : ∃ c, line.trim.head? = some c ∧ Text.isBlank c = true := by
    cases left with
    | nil => exact ⟨' ', congrArg List.head? hline, by decide⟩
    | cons c rest => exact ⟨c, congrArg List.head? hline, hblank c List.mem_cons_self⟩
  cases hc.symm.trans (Text.head?_strip hhead)

theorem Sentence.isUnitName_left {line : Text} {sentence : Sentence}
    (h : ofLine line.trim = .ok sentence) : IsUnitName sentence.left := by
  obtain ⟨left, right, hcut, rfl⟩ := ofLine_eq_ok_iff.1 h
  have hfirst : ¬ keyword <:+: left := Text.not_infix_of_cutAt? (List.cons_ne_nil _ _) hcut
  exact {
    ne_nil := trim_left_ne_nil hcut
    head := fun _ hc => Text.head?_strip hc
    last := fun _ hc => Text.getLast?_strip hc
    keyword := fun hkeyword => hfirst (hkeyword.trans (Text.strip_infix Text.isBlank left)) }

/-- The metal of a phrase is its last word in lower case, and a phrase that is no white space
    alone has a last word. -/
theorem Measure.isMetalName_ofPhrase {phrase : Text} (h : ∃ c ∈ phrase, Text.isBlank c = false) :
    IsMetalName (ofPhrase phrase).metal := by
  have hwords : phrase.tokens ≠ [] := by
    intro hnil
    obtain ⟨c, hc, hvisible⟩ := h
    cases hvisible.symm.trans (Text.isBlank_of_tokens_eq_nil hnil c hc)
  have hmetal : (ofPhrase phrase).metal = (phrase.tokens.getLast hwords).lowerCase := by
    rw [ofPhrase, List.getLast?_eq_some_getLast hwords, Option.getD_some]
  have hlast := List.getLast_mem hwords
  rw [hmetal]
  exact {
    ne_nil := Text.lowerCase_ne_nil (Text.ne_nil_of_mem_tokens hlast)
    word := Text.isBlank_of_mem_lowerCase (Text.isBlank_of_mem_tokens hlast)
    lowered := Text.lowerCase_lowerCase _ }

theorem IsUnitName.exists_visible {name : Text} (h : IsUnitName name) :
    ∃ c ∈ name, Text.isBlank c = false := by
  obtain ⟨c, rest, rfl⟩ := List.exists_cons_of_ne_nil h.ne_nil
  exact ⟨c, List.mem_cons_self, h.head c rfl⟩

namespace Command

variable {line unit metal : Text} {units : List Text} {letter : Letter} {credits : Binary64}

theorem isUnitName_of_assignUnit (h : ofLine line.trim = .ok (assignUnit unit letter)) :
    IsUnitName unit := by
  obtain ⟨sentence, hsentence, _, hforms⟩ := ofLine_cases h
  obtain ⟨_, _, _, hcommand⟩ | ⟨_, _, _, _, hcommand⟩ | ⟨_, _, hcommand⟩ | ⟨_, _, _, hcommand⟩ := hforms
  · cases hcommand
    exact Sentence.isUnitName_left hsentence
  all_goals cases hcommand

theorem isMetalName_of_assignMetal (h : ofLine line.trim = .ok (assignMetal units metal credits)) :
    IsMetalName metal := by
  obtain ⟨sentence, hsentence, _, hforms⟩ := ofLine_cases h
  obtain ⟨_, _, _, hcommand⟩ | ⟨_, _, _, _, hcommand⟩ | ⟨_, _, hcommand⟩ | ⟨_, _, _, hcommand⟩ := hforms
  · cases hcommand
  · cases hcommand
    exact Measure.isMetalName_ofPhrase (Sentence.isUnitName_left hsentence).exists_visible
  all_goals cases hcommand

end Command

/-- Whether tables hold nothing but names that a session can give. -/
structure Tables.WellNamed (t : Tables) : Prop where
  units : ∀ unit letter, t.units.get? unit = some letter → IsUnitName unit
  metals : ∀ metal ratio, t.metals.get? metal = some ratio → IsMetalName metal

namespace Turn

theorem wellNamed_ofLine {session : Text} {t : Tables} {line : Text} (h : t.WellNamed) :
    (ofLine session t line).tables.WellNamed := by
  obtain ⟨unit, letter, hcommand, htables⟩ | ⟨units, metal, credits, _, hcommand, _, htables⟩ |
    ⟨_, _, htables⟩ := tables_ofLine_cases session t line
  · rw [htables]
    have hunit := Command.isUnitName_of_assignUnit hcommand
    exact ⟨NameMap.forall_get?_insert hunit h.units, h.metals⟩
  · rw [htables]
    have hmetal := Command.isMetalName_of_assignMetal hcommand
    exact ⟨h.units, NameMap.forall_get?_insert hmetal h.metals⟩
  · rwa [htables]

theorem wellNamed_tablesAfter {session : Text} {t : Tables} (h : t.WellNamed) (lines : List Text) :
    (tablesAfter session t lines).WellNamed :=
  tablesAfter_preserves (fun _ _ => wellNamed_ofLine) lines h

end Turn

namespace Tables

theorem wellNamed_empty : WellNamed .empty := by
  constructor <;> intro name value hvalue <;> cases hvalue

/-- Whatever lines and batches a session carries out, the name of a unit is not empty, neither
    begins nor ends with white space and does not hold the keyword, and the name of a metal is not
    empty, holds no white space and is its own lower-case form. -/
theorem Reachable.wellNamed {t : Tables} (h : Reachable t) : t.WellNamed := by
  obtain ⟨lines, rfl⟩ := h.exists_lines []
  exact Turn.tablesAfter_preserves (fun _ _ => Turn.wellNamed_ofLine) lines wellNamed_empty

/-- A unit of two words with a tabulator between them, and a metal that ends in a final sigma. -/
theorem Reachable.wellNamed_sigma :
    let t : Tables := (Turn.ofLine [] (Turn.ofLine [] .empty "\u3000big\tglob is I".toList).tables
      "ΟΔΟΣ is 10 Credits ".toList).tables
    t.units.get? "big\tglob".toList = some .I ∧ IsUnitName "big\tglob".toList ∧
      t.metals.get? "οδος".toList = some .zero ∧ IsMetalName "οδος".toList := by
  intro t
  have hreachable : Reachable t := .line [] _ (.line [] _ .empty)
  have hunit : t.units.get? "big\tglob".toList = some .I := by decide +kernel
  have hmetal : t.metals.get? "οδος".toList = some .zero := by decide +kernel
  exact ⟨hunit, (Reachable.wellNamed hreachable).units _ _ hunit, hmetal,
    (Reachable.wellNamed hreachable).metals _ _ hmetal⟩

end Tables

end TradeNotes
