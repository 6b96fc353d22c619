import TradeNotes.Proofs.Cli.Outcome
import TradeNotes.Proofs.Command.Grammar
import TradeNotes.Proofs.Session.Messages

namespace TradeNotes

/-- The text of a line that a report tells without quotes although it may hold anything: the
    right side of an instruction that is not recognised. -/
def Fault.instruction : Fault → Text
  | unrecognizedInstruction right => right
  | _ => []

/-- What a report tells without quotes stands in the line that gives no command. -/
theorem Command.instruction_of_error {line : Text} {fault : Fault} (h : ofLine line = .error fault) :
    fault.instruction <:+: line := by
  obtain ⟨command, hsays⟩ | ⟨other, hlacks⟩ := says_or_lacks line
  · have hline := ofLine_of_says hsays
    cases hline.symm.trans h
  · have hline := ofLine_of_lacks hlacks
    cases hline.symm.trans h
    cases hlacks with
    | keyword _ => exact List.nil_infix
    | instruction hsides _ _ _ =>
      obtain ⟨rest, hcut, rfl⟩ := hsides
      have hrest : rest <:+: line := ⟨_, [], by rw [List.append_nil, ← hcut.parts]⟩
      exact (Text.strip_infix _ rest).trans hrest
    | question _ _ _ _ => exact List.nil_infix

namespace Turn

variable {session : Text} {t : Tables} {line : Text} {lines : List Text} {fault : Fault}

theorem instruction_of_outcome_error (h : (ofLine session t line).outcome = .error fault) :
    fault.instruction <:+: line.trim := by
  obtain hline | ⟨command, _, happly⟩ := outcome_eq_error_iff.1 h
  · exact Command.instruction_of_error hline
  · obtain ⟨unit, rfl⟩ | ⟨metal, rfl⟩ := Tables.apply_eq_error happly <;> exact List.nil_infix

theorem exists_of_mem_ofLines {turn : Turn} (h : turn ∈ ofLines session t lines) :
    ∃ before, ∃ line ∈ lines, turn = ofLine session before line := by
  induction lines generalizing t with
  | nil => cases h
  | cons line rest ih =>
    obtain rfl | hrest := List.mem_cons.1 h
    · exact ⟨t, line, List.mem_cons_self, rfl⟩
    · obtain ⟨before, other, hother, rfl⟩ := ih hrest
      exact ⟨before, other, List.mem_cons_of_mem _ hother, rfl⟩

/-- The first fault of lines is the one of a line among them. -/
theorem exists_outcome_error (h : (ofLines session t lines).findSome? fault? = some fault) :
    ∃ before, ∃ line ∈ lines, (ofLine session before line).outcome = .error fault := by
  obtain ⟨turn, hturn, hfault⟩ := List.exists_of_findSome?_eq_some h
  obtain ⟨before, line, hline, rfl⟩ := exists_of_mem_ofLines hturn
  refine ⟨before, line, hline, ?_⟩
  cases houtcome : (ofLine session before line).outcome with
  | ok answer => cases (fault?_of_ok houtcome).symm.trans hfault
  | error other =>
    cases (fault?_of_error houtcome).symm.trans hfault
    rfl

end Turn

namespace Report

/-- A part of a report: what it tells, when there is something to tell, between two texts. -/
def part (before after : String) (told : Option Text) : Text :=
  (told.map fun t => before.toList ++ t ++ after.toList).getD []

theorem text_eq (r : Report) :
    r.text = ['['] ++ r.kind.code ++ [']'] ++ part " in operation '" "'" r.operation
      ++ part ": " "" (if r.message.isEmpty then none else some r.message)
      ++ part " (token: " ")" r.token ++ part " (line: " ")" (r.line.map Text.quoted) := by
  obtain ⟨kind, operation, token, line, session, message⟩ := r
  cases operation <;> cases token <;> cases line <;> cases message <;> rfl

theorem isOneLine_part {before after : String} {told : Option Text}
    (hlabels : Text.IsOneLine (before.toList ++ after.toList))
    (htold : ∀ t ∈ told, Text.IsOneLine t) : (part before after told).IsOneLine := by
  obtain ⟨hbefore, hafter⟩ := List.forall_mem_append.1 hlabels
  cases told with
  | none => exact fun c hc => nomatch hc
  | some t => exact (Text.IsOneLine.append hbefore (htold t rfl)).append hafter

theorem isOneLine_code (kind : FaultKind) : Text.IsOneLine (['['] ++ kind.code ++ [']']) := by
  cases kind <;> decide +kernel

/-- A report stands on one line when all that it tells without quotes does so. -/
theorem isOneLine_text {r : Report} (hoperation : ∀ t ∈ r.operation, Text.IsOneLine t)
    (hmessage : r.message.IsOneLine) (htoken : ∀ t ∈ r.token, Text.IsOneLine t) :
    r.text.IsOneLine := by
  have htold : ∀ t ∈ (if r.message.isEmpty then none else some r.message), Text.IsOneLine t := by
    intro t ht
    split at ht
    · cases ht
    · cases ht
      exact hmessage
  have hquoted : ∀ t ∈ r.line.map Text.quoted, Text.IsOneLine t := by
    intro t ht
    obtain ⟨line, _, rfl⟩ := Option.map_eq_some_iff.1 ht
    exact Text.isOneLine_quoted line
  rw [text_eq]
  refine ((((isOneLine_code r.kind).append ?_).append ?_).append ?_).append ?_
  · exact isOneLine_part (by decide +kernel) hoperation
  · exact isOneLine_part (by decide +kernel) htold
  · exact isOneLine_part (by decide +kernel) htoken
  · exact isOneLine_part (by decide +kernel) hquoted

/-- A report that tells a token and no line stands on one line in front of the token and behind
    it, and tells the token as it is. -/
theorem exists_text_eq {r : Report} {t : Text} (htoken : r.token = some t) (hline : r.line = none)
    (hoperation : ∀ t ∈ r.operation, Text.IsOneLine t) (hmessage : r.message.IsOneLine) :
    ∃ front, r.text = front ++ t ++ [')'] ∧ front.IsOneLine := by
  have hfront : { r with token := none }.text.IsOneLine :=
    isOneLine_text hoperation hmessage fun _ ht => nomatch ht
  refine ⟨{ r with token := none }.text ++ " (token: ".toList, ?_,
    hfront.append (by decide +kernel)⟩
  simp only [text_eq, htoken, hline, part, Option.map_some, Option.map_none, Option.getD_some,
    Option.getD_none, List.append_nil, List.append_assoc]
  rfl

theorem message_ofFault (fault : Fault) : (ofFault fault).message = fault.message := by
  cases fault <;> rfl

theorem isOneLine_operation_ofFault (fault : Fault) :
    ∀ t ∈ (ofFault fault).operation, Text.IsOneLine t := by
  intro t ht
  cases fault <;> cases ht <;> decide +kernel

end Report

namespace Cli

/-- A report of a fault that a line can have stands on one line, but for the right side of an
    instruction, which is told once as it is. -/
theorem exists_report_eq {fault : Fault} (h : fault.IsOfLine) :
    ∃ front back, report fault = front ++ fault.instruction ++ back ∧
      front.IsOneLine ∧ back.IsOneLine := by
  have herror : Text.IsOneLine "Error: ".toList := by decide +kernel
  have hoperation := Report.isOneLine_operation_ofFault fault
  have hmessage : (Report.ofFault fault).message.IsOneLine := by
    rw [Report.message_ofFault]
    exact Fault.isOneLine_message h
  by_cases hinstruction : ∃ right, fault = .unrecognizedInstruction right
  · obtain ⟨right, rfl⟩ := hinstruction
    obtain ⟨front, htext, hfront⟩ := Report.exists_text_eq rfl rfl hoperation hmessage
    refine ⟨"Error: ".toList ++ front, [')'], ?_, herror.append hfront, by decide +kernel⟩
    unfold report
    rw [htext]
    simp only [Fault.instruction, List.append_assoc]
  · have hnone : fault.instruction = [] := by
      cases fault with
      | unrecognizedInstruction right => exact absurd ⟨right, rfl⟩ hinstruction
      | _ => rfl
    -- A token that is told is a unit or a metal here, and these hold no white space.
    have htoken : ∀ t ∈ (Report.ofFault fault).token, Text.IsOneLine t := by
      intro t ht
      cases fault with
      | unknownUnit unit => cases ht; exact Text.isOneLine_of_word h
      | unknownMetal metal => cases ht; exact Text.isOneLine_of_word h
      | unrecognizedInstruction right => exact absurd ⟨right, rfl⟩ hinstruction
      | _ => cases ht
    refine ⟨report fault, [], ?_, herror.append (Report.isOneLine_text hoperation hmessage htoken),
      fun _ hc => nomatch hc⟩
    rw [hnone, List.append_nil, List.append_nil]

/-- What lines come to that are given as arguments has on the standard error, behind the tables,
    a report of the first fault. A report has the line breaks of the right side that it tells
    without quotes, which stands in the line that is rejected, and no others. So it stands on one
    line when what is rejected is anything else than an instruction that is not recognised. -/
theorem line_breaks_of_reports (switches : Switches) (session : Text) (lines : List Text)
    (opened : Except Text Source) :
    let turns := Turn.ofLines session .empty lines
    let rejection := turns.findSome? Turn.fault?
    let tables := Turn.tablesAfter session .empty (lines.take (Turn.firstRejected turns))
    (Invocation.execute ⟨switches, .eval lines⟩ session opened).errorLines =
        dumped switches tables ++ (rejection.map report).toList ∧
      ∀ fault ∈ rejection,
        (∃ front back, report fault = front ++ fault.instruction ++ back ∧
          front.IsOneLine ∧ back.IsOneLine) ∧
        (∀ c ∈ Text.lineBreaks, c ∈ report fault ↔ c ∈ fault.instruction) ∧
        ∃ line ∈ lines, fault.instruction <:+: line.trim := by
  intro turns rejection tables
  refine ⟨(evalFrom_ofLines switches session .empty lines).2.2, fun fault hfault => ?_⟩
  obtain ⟨before, line, hline, houtcome⟩ := Turn.exists_outcome_error hfault
  obtain ⟨front, back, hreport, hfront, hback⟩ :=
    exists_report_eq (Turn.isOfLine_of_outcome_error houtcome)
  refine ⟨⟨front, back, hreport, hfront, hback⟩, fun c hc => ?_,
    line, hline, Turn.instruction_of_outcome_error houtcome⟩
  have hnot : c ∉ front ∧ c ∉ back := ⟨fun h => hfront c h hc, fun h => hback c h hc⟩
  rw [hreport, List.mem_append, List.mem_append]
  simp only [hnot.1, hnot.2, false_or, or_false]

/-- The report of this line has a line of its own for a failure that never was. -/
theorem report_forged_by_instruction :
    let right : Text := "I\nError: [ERR_IO]: I/O error: disk full\n!".toList
    let lines : List Text := ["glob is ".toList ++ right]
    let outcome := Invocation.execute ⟨{}, .eval lines⟩ [] (.ok (.ofLines []))
    let forged := report (.inputOutput "disk full".toList)
    (Turn.ofLines [] .empty lines).findSome? Turn.fault? = some (.unrecognizedInstruction right) ∧
      outcome.errorLines = [report (.unrecognizedInstruction right)] ∧
      '\n' ∈ report (.unrecognizedInstruction right) ∧
      ['\n'] ++ forged ++ ['\n'] <:+: report (.unrecognizedInstruction right) := by
  intro right lines outcome forged
  have hrejection : (Turn.ofLines [] .empty lines).findSome? Turn.fault? =
      some (.unrecognizedInstruction right) := by
    decide +kernel
  have herror := (evalFrom_ofLines {} [] .empty lines).2.2
  rw [hrejection] at herror
  obtain ⟨front, back, hreport, _, _⟩ := @exists_report_eq (.unrecognizedInstruction right) trivial
  have hforged : ['\n'] ++ forged ++ ['\n'] <:+: report (.unrecognizedInstruction right) := by
    rw [hreport]
    have hright : ['\n'] ++ forged ++ ['\n'] <:+: right := ⟨['I'], ['!'], by decide +kernel⟩
    exact hright.trans (List.infix_append front right back)
  exact ⟨hrejection, herror, hforged.subset (by simp), hforged⟩

end Cli

end TradeNotes
