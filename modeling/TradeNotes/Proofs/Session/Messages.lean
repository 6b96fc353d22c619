import TradeNotes.Proofs.Session.Noninterference
import TradeNotes.Proofs.Tables.Blame
import TradeNotes.Proofs.Text.LowerCasing
import TradeNotes.Proofs.Text.Quoting

namespace TradeNotes

namespace FaultKind

def all : List FaultKind :=
  [grammar, unrecognizedInstruction, unanswerableQuestion, unknownUnit, unknownMetal, inputOutput,
   serialization]

/-- The words that the messages of a kind begin with. -/
def opening : FaultKind → Text
  | grammar => "Invalid input: missing the keyword \"is\" in the sentence: ".toList
  | unrecognizedInstruction =>
    "Invalid input: expected a Roman letter or \"<N> credits\", got ".toList
  | unanswerableQuestion => "Invalid input: cannot answer question ".toList
  | unknownUnit => "Invalid input: unknown unit is found (".toList
  | unknownMetal => "Invalid input: no value has been assigned to metal ".toList
  | inputOutput => "I/O error: ".toList
  | serialization => "Serialization error: ".toList

/-- How the messages of a kind tell the text that is at fault. -/
def tell (kind : FaultKind) (t : Text) : Text :=
  match kind with
  | grammar | unrecognizedInstruction | unanswerableQuestion | unknownMetal => t.quoted
  | unknownUnit => t ++ [')']
  | inputOutput | serialization => t

/-- The text at fault, from what stands behind the opening words. -/
def read? (kind : FaultKind) (t : Text) : Option Text :=
  match kind with
  | grammar | unrecognizedInstruction | unanswerableQuestion | unknownMetal =>
    t.unquote?.map Prod.fst
  | unknownUnit => some t.dropLast
  | inputOutput | serialization => some t

/-- The fault of a kind with the text that is at fault. -/
def fault : FaultKind → Text → Fault
  | grammar => .missingKeyword
  | unrecognizedInstruction => .unrecognizedInstruction
  | unanswerableQuestion => .unanswerableQuestion
  | unknownUnit => .unknownUnit
  | unknownMetal => .unknownMetal
  | inputOutput => .inputOutput
  | serialization => .serialization

theorem all_openings_apart :
    ∀ kind ∈ all, ∀ other ∈ all, other.opening <+: kind.opening → other = kind := by
  decide +kernel

theorem mem_all (kind : FaultKind) : kind ∈ all := by
  cases kind <;> decide

/-- Messages of different kinds begin with different words. -/
theorem eq_of_opening {kind other : FaultKind} {t : Text} (h : other.opening <+: kind.opening ++ t) :
    other = kind := by
  obtain hshort | hlong := List.prefix_or_prefix_of_prefix h (List.prefix_append kind.opening t)
  · exact all_openings_apart kind (mem_all kind) other (mem_all other) hshort
  · exact (all_openings_apart other (mem_all other) kind (mem_all kind) hlong).symm

theorem find?_opening (kind : FaultKind) (t : Text) :
    all.find? (fun other => other.opening.isPrefixOf (kind.opening ++ t)) = some kind := by
  cases hfind : all.find? fun other => other.opening.isPrefixOf (kind.opening ++ t) with
  | none =>
    have hmissed := List.find?_eq_none.1 hfind kind (mem_all kind)
    exact absurd (List.isPrefixOf_iff_prefix.2 (List.prefix_append kind.opening t)) hmissed
  | some other =>
    have hother := List.find?_some hfind
    rw [eq_of_opening (List.isPrefixOf_iff_prefix.1 hother)]

theorem read?_tell (kind : FaultKind) (t : Text) : kind.read? (kind.tell t) = some t := by
  cases kind with
  | unknownUnit => exact congrArg some List.dropLast_concat
  | inputOutput | serialization => rfl
  | _ => exact congrArg (Option.map Prod.fst) (Text.unquote?_quoted t)

end FaultKind

namespace Fault

/-- The text that is at fault. -/
def text : Fault → Text
  | missingKeyword t | unrecognizedInstruction t | unanswerableQuestion t | unknownUnit t
  | unknownMetal t | inputOutput t | serialization t => t

/-- The fault that a message tells, found by its opening words. -/
def ofMessage? (message : Text) : Option Fault := do
  let kind ← FaultKind.all.find? fun kind => kind.opening.isPrefixOf message
  kind.fault <$> kind.read? (message.drop kind.opening.length)

theorem fault_kind_text (f : Fault) : f.kind.fault f.text = f := by
  cases f <;> rfl

theorem message_eq (f : Fault) : f.message = f.kind.opening ++ f.kind.tell f.text := by
  cases f with
  | unknownUnit unit => exact List.append_assoc _ _ _
  | _ => rfl

/-- A fault is found again in its message. -/
theorem ofMessage?_message (f : Fault) : ofMessage? f.message = some f := by
  simp only [ofMessage?, message_eq, FaultKind.find?_opening, Option.bind_eq_bind, Option.bind_some,
    List.drop_left, FaultKind.read?_tell, Option.map_eq_map, Option.map_some, fault_kind_text]

/-- A unit or a metal in a fault holds no white space, and a source, a sink or a dump is not at
    fault. What else is at fault may hold anything. -/
def IsOfLine : Fault → Prop
  | missingKeyword _ | unrecognizedInstruction _ | unanswerableQuestion _ => True
  | unknownUnit name | unknownMetal name => ∀ c ∈ name, Text.isBlank c = false
  | inputOutput _ | serialization _ => False

/-- The messages of the faults that lines have stand on one line. -/
theorem isOneLine_message {f : Fault} (h : f.IsOfLine) : f.message.IsOneLine := by
  have hopening : f.kind.opening.IsOneLine := by
    cases f.kind <;> decide +kernel
  rw [message_eq]
  apply hopening.append
  cases f with
  | unknownUnit unit => exact (Text.isOneLine_of_word h).append (by decide +kernel)
  | inputOutput reason => exact h.elim
  | serialization reason => exact h.elim
  | _ => exact Text.isOneLine_quoted _

end Fault

/-- The metal that a line asks about is a single word, or the empty one. -/
theorem Command.isBlank_of_mem_metalRead? {line metal : Text} {command : Command}
    (hcommand : ofLine line = .ok command) (hmetal : metal ∈ command.metalRead?) :
    ∀ c ∈ metal, Text.isBlank c = false := by
  cases command with
  | queryCredits phrase units asked =>
    cases hmetal
    rw [(measure_of_ofLine hcommand).2]
    apply Text.isBlank_of_mem_lowerCase
    cases hlast : phrase.tokens.getLast? with
    | none => exact fun c hc => nomatch hc
    | some word => exact Text.isBlank_of_mem_tokens (List.mem_of_getLast? hlast)
  | _ => cases hmetal

namespace Turn

variable {session : Text} {t : Tables} {line : Text} {fault : Fault}

theorem isOfLine_of_outcome_error (h : (ofLine session t line).outcome = .error fault) :
    fault.IsOfLine := by
  obtain hline | ⟨command, hcommand, happly⟩ := outcome_eq_error_iff.1 h
  · obtain rfl | ⟨right, rfl⟩ | rfl := Command.ofLine_eq_error hline <;> trivial
  · have hunit : ∀ {units : List Text} {unit : Text}, t.IsFirstUnknown units unit → unit ∈ units := by
      rintro _ unit ⟨before, after, rfl, _⟩
      exact List.mem_append_right before List.mem_cons_self
    cases Tables.apply_eq_error_iff.1 happly with
    | valuation hfirst => exact Command.isBlank_of_mem_unitsRead hcommand (hunit hfirst)
    | numeral hfirst => exact Command.isBlank_of_mem_unitsRead hcommand (hunit hfirst)
    | metal _ => exact Command.isBlank_of_mem_metalRead? hcommand rfl
    | measure _ hfirst => exact Command.isBlank_of_mem_unitsRead hcommand (hunit hfirst)

/-- A message tells which fault it is the message of, and different faults have different
    messages. A text that is quoted in a message can be read back, whatever it holds and whatever
    stands behind it. The message of a line that is rejected stands on one line, whatever the
    tables are. -/
theorem messages_identify_faults (session : Text) :
    (∀ fault : Fault, Fault.ofMessage? fault.message = some fault) ∧
    (∀ fault fault' : Fault, fault.message = fault'.message → fault = fault') ∧
    (∀ t rest : Text, (t.quoted ++ rest).unquote? = some (t, rest)) ∧
    ∀ t line fault, (ofLine session t line).outcome = .error fault → fault.message.IsOneLine := by
  refine ⟨Fault.ofMessage?_message, fun fault fault' hmessage => ?_, Text.unquote?_quoted_append,
    fun t line fault h => Fault.isOneLine_message (isOfLine_of_outcome_error h)⟩
  have hfault := Fault.ofMessage?_message fault
  rw [hmessage, Fault.ofMessage?_message] at hfault
  exact (Option.some.inj hfault).symm

end Turn

end TradeNotes
