import Mathlib.Data.List.Forall2
import TradeNotes.Proofs.Json.Numbers
import TradeNotes.Proofs.Json.Strings

namespace TradeNotes.Json

/-- Whether a text is read as a value, whatever stands behind it that ends a number. The fuel that
    it takes is no more than its length. -/
def ReadsAs (text : Text) (tree : Tree) : Prop :=
  ∀ fuel rest, text.length ≤ fuel → EndsNumber rest →
    readValue fuel (text ++ rest) = some (tree, rest)

theorem endsNumber_nil : EndsNumber [] := by
  rintro c ⟨⟩

variable {fuel : ℕ} {c : Char} {t text name rest after : Text} {tree : Tree} {parts : List StringPart}

section Spaces

theorem readValue_space (hc : isSpace c = true) (fuel : ℕ) (t : Text) :
    readValue fuel (c :: t) = readValue fuel t := by
  cases fuel with
  | zero => rfl
  | succ fuel => rw [readValue, readValue, List.dropWhile_cons_of_pos hc]

theorem readMembers_space (hc : isSpace c = true) (fuel : ℕ) (t : Text) :
    readMembers fuel (c :: t) = readMembers fuel t := by
  cases fuel with
  | zero => rfl
  | succ fuel => rw [readMembers, readMembers, List.dropWhile_cons_of_pos hc]

theorem readMembers_dropWhile (fuel : ℕ) (t : Text) :
    readMembers fuel (t.dropWhile isSpace) = readMembers fuel t := by
  induction t with
  | nil => rfl
  | cons c t ih =>
    cases hc : isSpace c with
    | true => rw [List.dropWhile_cons_of_pos hc, ih, readMembers_space hc]
    | false => rw [List.dropWhile_cons_of_neg (by simp [hc])]

theorem readMembers_replicate (fuel spaces : ℕ) (t : Text) :
    readMembers fuel (List.replicate spaces ' ' ++ t) = readMembers fuel t := by
  induction spaces with
  | zero => rfl
  | succ spaces ih =>
    rw [List.replicate_succ, List.cons_append, readMembers_space rfl, ih]

end Spaces

/-- A text that is not empty takes fuel, so that a value can be read at all. -/
theorem ReadsAs.of_ne_nil (hne : text ≠ [])
    (h : ∀ fuel rest, text.length ≤ fuel + 1 → EndsNumber rest →
      readValue (fuel + 1) (text ++ rest) = some (tree, rest)) : ReadsAs text tree := by
  intro fuel rest hfuel hrest
  cases fuel with
  | zero => exact absurd (List.length_eq_zero_iff.1 (Nat.le_zero.1 hfuel)) hne
  | succ fuel => exact h fuel rest hfuel hrest

/-- What is read as a value in spite of a space in front of it. -/
theorem ReadsAs.space (h : ReadsAs text tree) (hfuel : text.length ≤ fuel) (hrest : EndsNumber rest) :
    readValue fuel (' ' :: (text ++ rest)) = some (tree, rest) := by
  rw [readValue_space rfl, h fuel rest hfuel hrest]

/-- A text is read as one value only. -/
theorem ReadsAs.unique {tree' : Tree} (h : ReadsAs text tree) (h' : ReadsAs text tree') : tree = tree' := by
  have hsame := (h _ [] le_rfl endsNumber_nil).symm.trans (h' _ [] le_rfl endsNumber_nil)
  exact congrArg Prod.fst (Option.some.inj hsame)

theorem exists_readsAs_quoted (t : Text) :
    ∃ parts, ReadsAs (quoted t) (.string parts) ∧ stringText? parts = some t := by
  obtain ⟨parts, hread, htext⟩ := exists_parts t
  refine ⟨parts, .of_ne_nil (List.cons_ne_nil _ _) fun fuel rest _ _ => ?_, htext⟩
  have hparts : quoted t ++ rest = '"' :: (t.flatMap escapeChar ++ '"' :: rest) := by
    simp [quoted]
  rw [hparts, readValue, List.dropWhile_cons_of_neg (by decide)]
  simp only [hread, Option.map_some]

/-- A number begins with a sign or with a digit. -/
theorem NumberText.IsWellFormed.exists_text_eq {n : NumberText} (h : n.IsWellFormed) :
    ∃ c t, n.text = c :: t ∧ (c = '-' ∨ c.isDigit = true) := by
  cases hwhole : n.whole with
  | nil => exact absurd hwhole h.whole.ne_nil
  | cons c t =>
    have hdigit : c.isDigit = true := h.whole.isDigit c (hwhole ▸ List.mem_cons_self)
    cases hsign : n.negative with
    | true => exact ⟨'-', _, by simp only [text, hsign]; rfl, .inl rfl⟩
    | false => exact ⟨c, _, by simp only [text, hsign, hwhole]; rfl, .inr hdigit⟩

/-- A number that is written as it should be is read as a value. -/
theorem NumberText.IsWellFormed.readsAs {n : NumberText} (h : n.IsWellFormed) :
    ReadsAs n.text (.number n) := by
  obtain ⟨c, t, htext, hc⟩ := h.exists_text_eq
  rw [htext]
  refine .of_ne_nil (List.cons_ne_nil c t) fun fuel rest _ hrest => ?_
  have hread := readNumber_text h hrest
  rw [htext] at hread
  have hother : ∀ other : Char, other ≠ '-' → other.isDigit = false → c ≠ other := by
    rintro _ hsign hdigit rfl
    exact hc.elim hsign fun h => Bool.false_ne_true (hdigit.symm.trans h)
  have hspace : isSpace c = false := by
    simp [isSpace, hother ' ' (by decide) (by decide), hother '\n' (by decide) (by decide),
      hother '\t' (by decide) (by decide), hother '\r' (by decide) (by decide)]
  rw [List.cons_append] at hread ⊢
  rw [readValue, List.dropWhile_cons_of_neg (by simp [hspace])]
  split
  case h_7 => rw [hread, Option.map_some]
  all_goals
    next heq => exact absurd (List.cons.inj heq).1 (hother _ (by decide) (by decide))

/-- One member of an object, on a line of its own. -/
def memberLine (indent : ℕ) (member : Text × Text) : Text :=
  List.replicate (indent + 2) ' ' ++ quoted member.1 ++ [':', ' '] ++ member.2

section Members

variable {indent : ℕ}

/-- A member is read, and then what its end says: the members that follow, or none. -/
theorem readMembers_line
    (hname : ∀ rest, readString (name.flatMap escapeChar ++ '"' :: rest) = some (parts, rest))
    (hvalue : ReadsAs text tree) (hfuel : text.length ≤ fuel) (hafter : EndsNumber after) :
    (∀ rest, after.dropWhile isSpace = ',' :: rest →
      readMembers (fuel + 1) (memberLine indent (name, text) ++ after) =
        (readMembers fuel rest).map fun (members, rest) => ((parts, tree) :: members, rest)) ∧
    ∀ rest, after.dropWhile isSpace = '}' :: rest →
      readMembers (fuel + 1) (memberLine indent (name, text) ++ after) = some ([(parts, tree)], rest) := by
  have hline : memberLine indent (name, text) ++ after = List.replicate (indent + 2) ' ' ++
      ('"' :: (name.flatMap escapeChar ++ '"' :: (':' :: ' ' :: (text ++ after)))) := by
    simp [memberLine, quoted]
  rw [hline, readMembers_replicate, readMembers, List.dropWhile_cons_of_neg (by decide)]
  simp only [hname, Option.bind_eq_bind, Option.bind_some]
  rw [List.dropWhile_cons_of_neg (by decide)]
  simp only [hvalue.space hfuel hafter, Option.bind_some]
  constructor
  · intro rest hcomma
    simp only [hcomma]
    cases readMembers fuel rest <;> rfl
  · intro rest hbrace
    rw [hbrace]
    rfl

theorem dropWhile_closing (indent : ℕ) (rest : Text) :
    ('\n' :: (List.replicate indent ' ' ++ '}' :: rest)).dropWhile isSpace = '}' :: rest := by
  rw [List.dropWhile_cons_of_pos (by decide), List.dropWhile_append_of_pos,
    List.dropWhile_cons_of_neg (by decide)]
  intro c hc
  rw [List.eq_of_mem_replicate hc]
  rfl

/-- What is read of the members of an object: their names, and for each text the value that it is
    read as. -/
def Holds (members : List (Text × Text)) (trees : List (List StringPart × Tree)) : Prop :=
  List.Forall₂ (fun member read => stringText? read.1 = some member.1 ∧ ReadsAs member.2 read.2)
    members trees

theorem length_memberLine (indent : ℕ) (member : Text × Text) :
    member.2.length < (memberLine indent member).length := by
  simp only [memberLine, List.length_append, List.length_replicate]
  omega

/-- The members are read one by one. The fuel that a member takes is made up for by its line. -/
theorem exists_readMembers (first : Text × Text) (others : List (Text × Text))
    (h : ∀ member ∈ first :: others, ∃ tree, ReadsAs member.2 tree) :
    ∃ trees, Holds (first :: others) trees ∧ ∀ fuel rest,
      ([',', '\n'].intercalate ((first :: others).map (memberLine indent))).length ≤ fuel →
        readMembers fuel ([',', '\n'].intercalate ((first :: others).map (memberLine indent)) ++
          '\n' :: (List.replicate indent ' ' ++ '}' :: rest)) = some (trees, rest) := by
  -- the induction is on the members behind the first: each line but the last ends with a comma
  induction others generalizing first with
  | nil =>
    obtain ⟨tree, hvalue⟩ := h first List.mem_cons_self
    obtain ⟨parts, hname, htext⟩ := exists_parts first.1
    refine ⟨[(parts, tree)], .cons ⟨htext, hvalue⟩ .nil, fun fuel rest hfuel => ?_⟩
    have hlines :
        [',', '\n'].intercalate ([first].map (memberLine indent)) = memberLine indent first := by
      simp [List.intercalate]
    have hline := length_memberLine indent first
    rw [hlines] at hfuel ⊢
    obtain ⟨fuel, rfl⟩ := Nat.exists_eq_succ_of_ne_zero (show fuel ≠ 0 by omega)
    have hends : EndsNumber ('\n' :: (List.replicate indent ' ' ++ '}' :: rest)) := by
      rintro c ⟨⟩
      decide
    exact (readMembers_line hname hvalue (by omega) hends).2 rest (dropWhile_closing indent rest)
  | cons next others ih =>
    obtain ⟨tree, hvalue⟩ := h first List.mem_cons_self
    obtain ⟨parts, hname, htext⟩ := exists_parts first.1
    obtain ⟨trees, hholds, hread⟩ := ih next fun member hmember => h member (List.mem_cons_of_mem _ hmember)
    refine ⟨(parts, tree) :: trees, .cons ⟨htext, hvalue⟩ hholds, fun fuel rest hfuel => ?_⟩
    have hlines : [',', '\n'].intercalate ((first :: next :: others).map (memberLine indent)) =
        memberLine indent first ++
          (',' :: '\n' :: [',', '\n'].intercalate ((next :: others).map (memberLine indent))) := by
      simp [List.intercalate]
    have hline := length_memberLine indent first
    rw [hlines] at hfuel ⊢
    rw [List.length_append, List.length_cons, List.length_cons] at hfuel
    obtain ⟨fuel, rfl⟩ := Nat.exists_eq_succ_of_ne_zero (show fuel ≠ 0 by omega)
    have hends : ∀ after, EndsNumber (',' :: after) := by
      rintro after c ⟨⟩
      decide
    rw [List.append_assoc, List.cons_append,
      (readMembers_line hname hvalue (by omega) (hends _)).1 _ (List.dropWhile_cons_of_neg (by decide)),
      List.cons_append, readMembers_space rfl, hread fuel rest (by omega), Option.map_some]

/-- An object is read with all its members, in the order in which they are written. -/
theorem exists_readsAs_object (indent : ℕ) {members : List (Text × Text)}
    (h : ∀ member ∈ members, ∃ tree, ReadsAs member.2 tree) :
    ∃ trees, ReadsAs (object indent members) (.object trees) ∧ Holds members trees := by
  cases members with
  | nil =>
    exact ⟨[], .of_ne_nil (List.cons_ne_nil _ _) fun _ _ _ _ => rfl, .nil⟩
  | cons first others =>
    obtain ⟨trees, hholds, hread⟩ := @exists_readMembers indent first others h
    refine ⟨trees, .of_ne_nil (List.cons_ne_nil _ _) fun fuel rest hfuel _ => ?_, hholds⟩
    have hobject : object indent (first :: others) ++ rest = '{' :: '\n' ::
        ([',', '\n'].intercalate ((first :: others).map (memberLine indent)) ++
          '\n' :: (List.replicate indent ' ' ++ '}' :: rest)) := by
      have hlines : object indent (first :: others) = ['{', '\n'] ++
          [',', '\n'].intercalate ((first :: others).map (memberLine indent)) ++ ['\n'] ++
            List.replicate indent ' ' ++ ['}'] := rfl
      simp [hlines]
    have hlength := congrArg List.length hobject
    simp only [List.length_append, List.length_cons] at hlength
    have hmembers := hread fuel rest (by omega)
    rw [hobject, readValue, List.dropWhile_cons_of_neg (by decide)]
    simp only
    rw [← readMembers_space (c := '\n') rfl, ← readMembers_dropWhile] at hmembers
    -- what is read as members does not begin with the closing brace
    split
    · next hclosing =>
      rw [hclosing] at hmembers
      cases fuel <;> cases hmembers
    · rw [hmembers, Option.map_some]

end Members

/-- A text that is read as a value is one value, with nothing behind it. -/
theorem ReadsAs.read?_eq (h : ReadsAs text tree) : read? text = some tree := by
  have hread := h (2 * text.length + 2) [] (by omega) endsNumber_nil
  rw [List.append_nil] at hread
  rw [read?, hread]
  rfl

end TradeNotes.Json
