import TemplateFile.Diagnostic.Log

namespace TemplateFile

/-!
# What a log holds after reports

Reports are added at the end of a log in the order in which they are made, and
the log never changes its mind about tips.  So what was reported since a
checkpoint is exactly what was added, and something was reported if and only if
that is not empty.

The two message formats of this library are filled like a sentence: the message
about a body names the file and the template, and the message about the form of
a file is its argument.
-/

/-- The diagnostic without its tip. -/
def Diagnostic.withoutTip (diagnostic : Diagnostic) : Diagnostic := { diagnostic with tip := none }

namespace Log

theorem add_eq (log : Log) (report : Report) :
    log.add report = ⟨log.tips, log.entries ++ [report.toDiagnostic log.tips]⟩ := rfl

/-- Several reports are added in their order. -/
theorem addAll_eq (log : Log) (reports : List Report) :
    log.addAll reports = ⟨log.tips, log.entries ++ reports.map fun report => report.toDiagnostic log.tips⟩ := by
  induction reports generalizing log with
  | nil =>
      rw [List.map_nil, List.append_nil]
      rfl
  | cons report reports inductionHypothesis =>
      have step : log.addAll (report :: reports) = (log.add report).addAll reports := rfl
      rw [step, inductionHypothesis, add_eq, List.append_assoc, List.map_cons, List.singleton_append]

/-- What a log has more than an earlier one was reported since. -/
theorem since_checkpoint (log : Log) (more : List Diagnostic) :
    since ⟨log.tips, log.entries ++ more⟩ log.checkpoint = more := List.drop_left

/-- Something was reported if the log has more than the earlier one. -/
theorem hasErrorsSince_checkpoint (log : Log) (more : List Diagnostic) :
    hasErrorsSince ⟨log.tips, log.entries ++ more⟩ log.checkpoint = !more.isEmpty := by
  unfold hasErrorsSince checkpoint size
  rw [List.length_append]
  cases more with
  | nil => exact decide_eq_false (Nat.lt_irrefl _)
  | cons first others =>
      exact decide_eq_true (Nat.lt_add_of_pos_right (Nat.zero_lt_succ others.length))

end Log

namespace MessageFormat

theorem Piece.filled_slot {arguments : List String} {digits : List Char} {index : Nat} {argument : String}
    (number : Text.numeral? digits = some index) (found : arguments[index]? = some argument) :
    Piece.filled arguments (.slot digits) = argument.toList := by
  simp only [Piece.filled, number, Option.bind_some, found]

theorem flatMap_filled_literal (arguments : List String) (text : List Char) :
    (text.map Piece.literal).flatMap (Piece.filled arguments) = text := by
  induction text with
  | nil => rfl
  | cons character text inductionHypothesis =>
      rw [List.map_cons, List.flatMap_cons, inductionHypothesis]
      rfl

theorem fill_syntaxError (message : String) : syntaxError.fill [message] = message := by
  have cut : pieces syntaxError.pattern.toList = [.slot ['0']] := by decide +kernel
  rw [fill, cut, List.flatMap_singleton, Piece.filled_slot (by decide : Text.numeral? ['0'] = some 0) rfl,
    String.ofList_toList]

theorem fill_templateBodyFailure (path name message : String) :
    templateBodyFailure.fill [path, name, message] =
      "In file " ++ path ++ ", template " ++ name ++ ": " ++ message := by
  have cut : pieces templateBodyFailure.pattern.toList =
      "In file ".toList.map .literal ++ ([.slot ['0']] ++ (", template ".toList.map .literal ++ ([.slot ['1']] ++
        (": ".toList.map .literal ++ [.slot ['2']])))) := by
    decide +kernel
  have first : Piece.filled [path, name, message] (.slot ['0']) = path.toList :=
    Piece.filled_slot (by decide : Text.numeral? ['0'] = some 0) rfl
  have second : Piece.filled [path, name, message] (.slot ['1']) = name.toList :=
    Piece.filled_slot (by decide : Text.numeral? ['1'] = some 1) rfl
  have third : Piece.filled [path, name, message] (.slot ['2']) = message.toList :=
    Piece.filled_slot (by decide : Text.numeral? ['2'] = some 2) rfl
  apply String.toList_inj.mp
  simp only [fill, cut, List.flatMap_append, flatMap_filled_literal, List.flatMap_singleton, first, second, third,
    String.toList_ofList, String.toList_append, List.append_assoc]

end MessageFormat

end TemplateFile
