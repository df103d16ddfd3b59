import ScriptFront.Command.Arguments

/-!
# Settings on the command line

What an argument such as `--output=json` after the command `parse` does: the option takes all that
stands behind the first `=` as its value, and is refused if that is no value of it.
-/
namespace ScriptFront

namespace Given

variable {option : CommandOption} (takes : option.takesValue)
  (allowed : option.allowed (some .parse)) (given : Given)
include takes allowed

theorem long_value (value : List Char) :
    given.long (some .parse) (option.name.toList ++ '=' :: value) =
      (do return (← given.setValue option (String.ofList value), none)) := by
  have noEquals : ∀ c ∈ option.name.toList, (c != '=') = true := by
    refine List.all_eq_true.mp ?_
    cases option <;> rfl
  have found : (CommandOption.all.find? fun other =>
      other.allowed (some .parse) && other.name == option.name) = some option := by
    cases option <;> first | decide | contradiction
  simp only [long, List.takeWhile_append_of_pos noEquals, List.dropWhile_append_of_pos noEquals,
    List.takeWhile_cons, List.dropWhile_cons, bne_self_eq_false, Bool.false_eq_true, ↓reduceIte,
    List.append_nil, String.ofList_toList, found, takes]

theorem afterCommand_value (value : String) :
    given.afterCommand .parse none ["--" ++ option.name ++ "=" ++ value] =
      (do (← given.setValue option value).settled) := by
  have written : ("--" ++ option.name ++ "=" ++ value).toList =
      '-' :: '-' :: (option.name.toList ++ '=' :: value.toList) := by
    simp [String.toList_append]
  have taken := long_value takes allowed given value.toList
  -- Two dashes alone would end the options.
  obtain ⟨c, name, named⟩ : ∃ c name, option.name.toList = c :: name := by
    cases option <;> exact ⟨_, _, rfl⟩
  rw [named, List.cons_append] at taken written
  rw [afterCommand, written]
  simp only [taken, String.ofList_toList, bind_assoc, pure_bind, afterCommand]

end Given

theorem Given.beforeCommand_parse (arguments : List String) :
    nothing.beforeCommand none ("parse" :: arguments) =
      (do return .of .parse nothing (← nothing.afterCommand .parse none arguments)) := by
  rw [beforeCommand]
  rfl

namespace CommandLine

theorem ofArguments_value {option : CommandOption} (takes : option.takesValue)
    (allowed : option.allowed (some .parse)) (value : String) :
    ofArguments ["parse", "--" ++ option.name ++ "=" ++ value] =
      match Given.nothing.setValue option value >>= Given.settled with
      | .ok given => .ok (.run (.of .parse .nothing given))
      | .error .version => .ok .version
      | .error (.refused fault) => .error fault := by
  rw [ofArguments, Given.beforeCommand_parse, Given.afterCommand_value takes allowed]
  cases Given.nothing.setValue option value >>= Given.settled with
  | ok given => rfl
  | error stop => cases stop <;> rfl

theorem ofArguments_output (name : String) :
    ofArguments ["parse", "--" ++ CommandOption.output.name ++ "=" ++ name] =
      match (Named.ofName? name : Option OutputKind) with
      | some kind => .ok (.run (.of .parse .nothing { Given.nothing with output := some kind }))
      | none => .error (.invalidValue CommandOption.output.name) := by
  rw [ofArguments_value rfl rfl, Given.setValue, Given.choice]
  cases (Named.ofName? name : Option OutputKind) <;> rfl

theorem ofArguments_format (name : String) :
    ofArguments ["parse", "--" ++ CommandOption.format.name ++ "=" ++ name] =
      match (Named.ofName? name : Option ReportFormat) with
      | some format => .ok (.run (.of .parse .nothing { Given.nothing with format := some format }))
      | none => .error (.invalidValue CommandOption.format.name) := by
  rw [ofArguments_value rfl rfl, Given.setValue, Given.choice]
  cases (Named.ofName? name : Option ReportFormat) <;> rfl

end CommandLine

end ScriptFront
