import ScriptFront.Options.Reading
import ScriptFront.Proofs.Command.Setting
import ScriptFront.Proofs.Json.Record
import ScriptFront.Proofs.Json.Written

/-!
# Options field by field

An options file is accepted or not by what its known members say, and what it sets is what they say;
white space, order, escapes and members of other names make no difference. The names it takes are
those that the command line takes (`Options.read_field_by_field`).
-/
namespace ScriptFront

open Json (Datum Spells Closes Meaning Reader isBlank)

namespace Json.Datum

/-- Whether a name can be read. -/
def IsName : Datum → Prop
  | null | string _ => True
  | _ => False

/-- Whether a switch can be read. -/
def IsSwitch : Datum → Prop
  | null | bool _ => True
  | _ => False

/-- The members of an object; nothing else has any. -/
def members : Datum → List (String × Datum)
  | object members => members
  | _ => []

/-- The setting of a switch; `null` is none. -/
def switch? : Datum → Option Bool
  | bool value => some value
  | _ => none

variable (α : Type) [Named α]

/-- Whether a string is one of the names of a type. -/
def Names : Datum → Prop
  | string name => (Named.ofName? name : Option α).isSome
  | _ => True

/-- The value that a string names; `null` names none. -/
def named? : Datum → Option α
  | string name => Named.ofName? name
  | _ => none

end Json.Datum

namespace Json.Reader

variable {α : Type} {text rest : List Char}

theorem run_optional_null (reader : Reader α)
    (first : text.dropWhile isBlank = "null".toList ++ rest) :
    (optional reader).run text = .ok (none, rest) := by
  have begins : text.dropWhile isBlank = 'n' :: ("ull".toList ++ rest) := first
  have read : (word "null".toList).run ('n' :: ("ull".toList ++ rest)) = .ok ((), rest) :=
    run_word "null".toList rest
  simp only [optional, run_bind, run_next, begins, read, run_pure]

theorem run_optional {c : Char} (reader : Reader α) (first : text.dropWhile isBlank = c :: rest)
    (notNull : c ≠ 'n') :
    (optional reader).run text = (reader >>= fun value => pure (some value)).run (c :: rest) := by
  simp [optional, first, notNull]

theorem find?_names [Named α] (name : String) :
    ((Named.all : List α).map fun value => (Named.name value, value)).find? (·.1 == name) =
      (Named.ofName? name).map fun value => (Named.name value, value) := by
  rw [List.find?_map]
  rfl

theorem run_choice [Named α] {name after : List Char} (inscribes : Inscribes name text after) :
    (choice ((Named.all : List α).map fun value => (Named.name value, value))).run ('"' :: text) =
      match (Named.ofName? (String.ofList name) : Option α) with
      | some value => .ok (value, after)
      | none => .error (.before (.unknownName (String.ofList name)
          (((Named.all : List α).map fun value => (Named.name value, value)).map (·.1)))
          after) := by
  have notBlank : isBlank '"' = false := rfl
  simp only [choice, run_bind, run_next, List.dropWhile_cons, notBlank, Bool.false_eq_true,
    ↓reduceIte, run_drop, List.drop_succ_cons, List.drop_zero, named, string_run inscribes,
    find?_names]
  cases (Named.ofName? (String.ofList name) : Option α) <;> rfl

/-- A name is read for the value it stands for, and `null` for none. -/
theorem readNamed_gives (α : Type) [Named α] :
    (readNamed α).Gives Datum.IsName (Datum.Names α) (Datum.named? α) := by
  intro datum text after domain spells closes
  cases spells with
  | padded blankBefore blankBehind inside =>
  refine Yields.blanks ?_ blankBehind
  have first := inside.dropWhile_value blankBefore
  cases inside with
  | null =>
    refine ⟨fun _ => ⟨[], by simp, ?_⟩, fun refused => absurd trivial refused⟩
    exact run_optional_null _ first
  | @string name text after inscribes =>
    rw [readNamed, run_optional _ first (by decide), run_bind, run_choice inscribes, Datum.Names,
      Datum.named?]
    cases (Named.ofName? (String.ofList name) : Option α) with
    | none => exact ⟨nofun, fun _ => ⟨_, rfl⟩⟩
    | some value => exact ⟨fun _ => ⟨[], by simp, rfl⟩, fun refused => absurd rfl refused⟩
  | _ => exact domain.elim

theorem optional_boolean_gives :
    (optional boolean).Gives Datum.IsSwitch (fun _ => True) Datum.switch? := by
  intro datum text after domain spells closes
  cases spells with
  | padded blankBefore blankBehind inside =>
  refine Yields.blanks ?_ blankBehind
  have first := inside.dropWhile_value blankBefore
  refine ⟨fun _ => ⟨[], by simp, ?_⟩, fun refused => absurd trivial refused⟩
  cases inside with
  | null => exact run_optional_null _ first
  | @bool value =>
    cases value with
    | false =>
      rw [run_optional _ first (by decide)]
      rfl
    | true =>
      rw [run_optional _ first (by decide)]
      rfl
  | _ => exact domain.elim

end Json.Reader

namespace ReportOptions

/-- Whether the known members have values of the right type. -/
def Shaped (members : List (String × Datum)) : Prop :=
  ∀ member ∈ members, (member.1 = "format" → member.2.IsName) ∧
    (member.1 = "color" → member.2.IsSwitch)

/-- Whether the known members are given once and with names that exist. -/
def Admitted (members : List (String × Datum)) : Prop :=
  Json.Once ["format", "color"] members ∧
    ∀ name, ("format", .string name) ∈ members → (Named.ofName? name : Option ReportFormat).isSome

/-- What the members set. -/
def ofMembers (members : List (String × Datum)) : ReportOptions where
  format := (members.lookup "format").bind (Datum.named? ReportFormat)
  color := (members.lookup "color").bind Datum.switch?

/-- What the fields make of their values. -/
def meaning (key : String) : Meaning ReportOptions :=
  if key = "format" then
    { domain := Datum.IsName
      accepts := Datum.Names ReportFormat
      update := fun datum options => { options with format := datum.named? ReportFormat } }
  else
    { domain := Datum.IsSwitch
      accepts := fun _ => True
      update := fun datum options => { options with color := datum.switch? } }

theorem fields_give : Reader.FieldsGive fields meaning := by
  intro field among
  simp only [fields, List.mem_cons, List.not_mem_nil, or_false] at among
  rcases among with rfl | rfl
  · exact (Reader.readNamed_gives ReportFormat).map fun format (options : ReportOptions) =>
      { options with format }
  · exact Reader.optional_boolean_gives.map fun color (options : ReportOptions) =>
      { options with color }

theorem isKnown_iff {key : String} :
    Json.isKnown fields key ↔ key = "format" ∨ key = "color" := by
  simp [Json.isKnown_iff, fields]

variable {members : List (String × Datum)}

theorem typed_of_shaped (shaped : Shaped members) : Json.Typed fields meaning members := by
  intro member among known
  obtain ⟨name, switch⟩ := shaped member among
  rcases isKnown_iff.mp known with format | color
  · simpa [meaning, format] using name format
  · simpa [meaning, color] using switch color

theorem accepted_iff :
    Json.Fresh fields [] members ∧ Json.Accepted fields meaning members ↔ Admitted members := by
  rw [Json.fresh_nil_iff]
  refine and_congr Iff.rfl ⟨fun accepted name among => ?_, fun names member among known => ?_⟩
  · have known : Json.isKnown fields "format" := rfl
    simpa [meaning, Datum.Names] using accepted _ among known
  · obtain ⟨key, datum⟩ := member
    by_cases format : key = "format"
    · subst format
      cases datum with
      | string name => simpa [meaning, Datum.Names] using names name among
      | _ => simp [meaning, Datum.Names]
    · simp [meaning, format]

theorem updated_eq (once : Json.Once ["format", "color"] members) :
    Json.updated fields meaning .unset members = ofMembers members := by
  have nodup : (Json.knownKeys fields members).Nodup := Json.nodup_knownKeys_iff.mpr once
  have format := Json.updated_field fields meaning "format" ReportOptions.format
    (Datum.named? ReportFormat) rfl (fun _ _ => rfl)
    (fun other _ different _ _ => by simp [meaning, different]) nodup .unset
  have color := Json.updated_field fields meaning "color" ReportOptions.color Datum.switch? rfl
    (fun _ _ => rfl)
    (fun other known different _ _ => by
      simp [meaning, (isKnown_iff.mp known).resolve_right different]) nodup .unset
  have parts (options : ReportOptions) : options = ⟨options.format, options.color⟩ := rfl
  rw [parts (Json.updated ..), format, color, ofMembers]
  cases members.lookup "format" <;> cases members.lookup "color" <;> rfl

theorem reader_yields {text after : List Char}
    (spells : Spells (.padded (.object members)) text after) (shaped : Shaped members) :
    Reader.Yields (reader.run text) (Admitted members) (ofMembers members) after :=
  (Reader.record_yields fields_give spells (typed_of_shaped shaped)).congr accepted_iff
    fun accepted => updated_eq (Json.fresh_nil_iff.mp accepted.1)

end ReportOptions

namespace Options

/-- Whether the known members have values of the right type. -/
def Shaped (members : List (String × Datum)) : Prop :=
  ∀ member ∈ members, (member.1 = "output" → member.2.IsName) ∧
    (member.1 = "diagnostics" → ∃ inner, member.2 = .object inner ∧ ReportOptions.Shaped inner)

/-- Whether the known members, here and inside, are given once and with names that exist. -/
def Admitted (members : List (String × Datum)) : Prop :=
  Json.Once ["diagnostics", "output"] members ∧
    (∀ name, ("output", .string name) ∈ members →
      (Named.ofName? name : Option OutputKind).isSome) ∧
    ∀ inner, ("diagnostics", .object inner) ∈ members → ReportOptions.Admitted inner

/-- What the members set. -/
def ofMembers (members : List (String × Datum)) : Options where
  diagnostics := .ofMembers ((members.lookup "diagnostics").elim [] Datum.members)
  output := (members.lookup "output").bind (Datum.named? OutputKind)

/-- What the fields make of their values. -/
def meaning (key : String) : Meaning Options :=
  if key = "output" then
    { domain := Datum.IsName
      accepts := Datum.Names OutputKind
      update := fun datum options => { options with output := datum.named? OutputKind } }
  else
    { domain := fun datum => ∃ inner, datum = .object inner ∧ ReportOptions.Shaped inner
      accepts := fun datum => ReportOptions.Admitted datum.members
      update := fun datum options => { options with diagnostics := .ofMembers datum.members } }

theorem fields_give : Reader.FieldsGive fields meaning := by
  intro field among
  simp only [fields, List.mem_cons, List.not_mem_nil, or_false] at among
  rcases among with rfl | rfl
  · rintro datum text after ⟨inner, rfl, shaped⟩ spells -
    exact (ReportOptions.reader_yields spells shaped).map fun diagnostics (options : Options) =>
      { options with diagnostics }
  · exact (Reader.readNamed_gives OutputKind).map fun output (options : Options) =>
      { options with output }

theorem isKnown_iff {key : String} :
    Json.isKnown fields key ↔ key = "diagnostics" ∨ key = "output" := by
  simp [Json.isKnown_iff, fields]

variable {members : List (String × Datum)}

theorem typed_of_shaped (shaped : Shaped members) : Json.Typed fields meaning members := by
  intro member among known
  obtain ⟨name, report⟩ := shaped member among
  rcases isKnown_iff.mp known with diagnostics | output
  · simpa [meaning, diagnostics] using report diagnostics
  · simpa [meaning, output] using name output

theorem accepted_iff (shaped : Shaped members) :
    Json.Fresh fields [] members ∧ Json.Accepted fields meaning members ↔ Admitted members := by
  rw [Json.fresh_nil_iff]
  refine and_congr Iff.rfl ⟨fun accepted => ⟨fun name among => ?_, fun inner among => ?_⟩,
    fun ⟨names, reports⟩ member among known => ?_⟩
  · have known : Json.isKnown fields "output" := rfl
    simpa [meaning, Datum.Names] using accepted _ among known
  · have known : Json.isKnown fields "diagnostics" := rfl
    simpa [meaning, Datum.members] using accepted _ among known
  · obtain ⟨key, datum⟩ := member
    rcases isKnown_iff.mp known with rfl | rfl
    · obtain ⟨inner, rfl, -⟩ := (shaped _ among).2 rfl
      simpa [meaning, Datum.members] using reports inner among
    · cases datum with
      | string name => simpa [meaning, Datum.Names] using names name among
      | _ => simp [meaning, Datum.Names]

theorem updated_eq (once : Json.Once ["diagnostics", "output"] members) :
    Json.updated fields meaning .unset members = ofMembers members := by
  have nodup : (Json.knownKeys fields members).Nodup := Json.nodup_knownKeys_iff.mpr once
  have output := Json.updated_field fields meaning "output" Options.output
    (Datum.named? OutputKind) rfl (fun _ _ => rfl)
    (fun other _ different _ _ => by simp [meaning, different]) nodup .unset
  have diagnostics := Json.updated_field fields meaning "diagnostics" Options.diagnostics
    (fun datum => .ofMembers datum.members) rfl (fun _ _ => rfl)
    (fun other known different _ _ => by
      simp [meaning, (isKnown_iff.mp known).resolve_left different]) nodup .unset
  have parts (options : Options) : options = ⟨options.diagnostics, options.output⟩ := rfl
  rw [parts (Json.updated ..), diagnostics, output, ofMembers]
  cases members.lookup "diagnostics" <;> cases members.lookup "output" <;> rfl

theorem ofText_yields {text : String} (written : (Datum.object members).WrittenAs text)
    (shaped : Shaped members) :
    (Admitted members → ofText text = .ok (ofMembers members)) ∧
      (¬ Admitted members → ∃ fault, ofText text = .error fault) :=
  Json.read_of_yields
    ((Reader.record_yields fields_give written (typed_of_shaped shaped)).congr
      (accepted_iff shaped) fun accepted => updated_eq (Json.fresh_nil_iff.mp accepted.1))

/-- Whether an option takes a name as members of an options file take it: it sets what they say, and
is refused where they are. -/
def SetBy (members : List (String × Datum)) (option : CommandOption) (name : String) : Prop :=
  let read := CommandLine.ofArguments ["parse", "--" ++ option.name ++ "=" ++ name]
  (Admitted members →
      ∃ invocation, read = .ok (.run invocation) ∧ invocation.options = ofMembers members) ∧
    (¬ Admitted members → read = .error (.invalidValue option.name))

theorem admitted_output {name : String} :
    Admitted [("output", .string name)] ↔ (Named.ofName? name : Option OutputKind).isSome := by
  simp [Admitted, Json.Once]

theorem admitted_format {name : String} :
    Admitted [("diagnostics", .object [("format", .string name)])] ↔
      (Named.ofName? name : Option ReportFormat).isSome := by
  simp [Admitted, ReportOptions.Admitted, Json.Once]

theorem setBy_output (name : String) : SetBy [("output", .string name)] .output name := by
  rw [SetBy, admitted_output, CommandLine.ofArguments_output]
  cases named : (Named.ofName? name : Option OutputKind) with
  | none => exact ⟨nofun, fun _ => rfl⟩
  | some kind =>
    have set : ofMembers [("output", .string name)] = ⟨.unset, Named.ofName? name⟩ := rfl
    refine ⟨fun _ => ⟨_, rfl, ?_⟩, fun refused => absurd rfl refused⟩
    rw [set, named]
    rfl

theorem setBy_format (name : String) :
    SetBy [("diagnostics", .object [("format", .string name)])] .format name := by
  rw [SetBy, admitted_format, CommandLine.ofArguments_format]
  cases named : (Named.ofName? name : Option ReportFormat) with
  | none => exact ⟨nofun, fun _ => rfl⟩
  | some format =>
    have set : ofMembers [("diagnostics", .object [("format", .string name)])] =
        ⟨⟨Named.ofName? name, none⟩, none⟩ := rfl
    refine ⟨fun _ => ⟨_, rfl, ?_⟩, fun refused => absurd rfl refused⟩
    rw [set, named]
    rfl

/-- An options file whose known members have values of the right type is accepted exactly if none of
them is given twice and their names exist, and it sets what they say. The options of the command
line take the same names and set the same by them, and a name is what is said of it in lower case. -/
theorem read_field_by_field (text : String) (members : List (String × Datum))
    (written : (Datum.object members).WrittenAs text) (shaped : Shaped members) :
    ((∃ options, ofText text = .ok options) ↔ Admitted members) ∧
      (∀ options, ofText text = .ok options → options = ofMembers members) ∧
      (∀ name, SetBy [("output", .string name)] .output name) ∧
      (∀ name, SetBy [("diagnostics", .object [("format", .string name)])] .format name) ∧
      (∀ kind : OutputKind, kind.name.toList = kind.label.toList.map Char.toLower) ∧
      ∀ format : ReportFormat, format.name.toList = format.label.toList.map Char.toLower := by
  obtain ⟨accepted, refused⟩ := ofText_yields written shaped
  have only (options : Options) (read : ofText text = .ok options) :
      Admitted members ∧ options = ofMembers members := by
    by_cases admitted : Admitted members
    · rw [accepted admitted] at read
      exact ⟨admitted, (Except.ok.inj read).symm⟩
    · obtain ⟨fault, failed⟩ := refused admitted
      rw [failed] at read
      cases read
  refine ⟨⟨?_, fun admitted => ⟨_, accepted admitted⟩⟩, fun options read => (only options read).2,
    setBy_output, setBy_format, ?_, ?_⟩
  · rintro ⟨options, read⟩
    exact (only options read).1
  · intro kind
    cases kind <;> rfl
  · intro format
    cases format <;> rfl

theorem read_field_by_field_indented :
    let value : Json := .object [("out\tput", .array [.object [("output", .bool true)]]),
      ("output", .string "json"), ("diagnostics", .object [("color", .null), ("", .natural 7)])]
    let members := [("out\tput", .array [.object [("output", .bool true)]]),
      ("output", .string "json"),
      ("diagnostics", .object [("color", .null), ("", (Json.natural 7).datum)])]
    (Datum.object members).WrittenAs value.indented ∧ Shaped members ∧
      ofText value.indented = .ok ⟨.unset, some .json⟩ := by
  intro value members
  have written : (Datum.object members).WrittenAs value.indented := value.writtenAs .indented
  have shapedInside : ReportOptions.Shaped [("color", .null), ("", (Json.natural 7).datum)] := by
    simp [ReportOptions.Shaped, Datum.IsSwitch]
  have shaped : Shaped members := by simp [Shaped, members, Datum.IsName, shapedInside]
  have json : (Named.ofName? "json" : Option OutputKind).isSome := rfl
  have admitted : Admitted members := by
    simp [Admitted, ReportOptions.Admitted, members, Json.Once, json]
  obtain ⟨succeeds, options, -⟩ := read_field_by_field value.indented members written shaped
  obtain ⟨found, read⟩ := succeeds.mpr admitted
  refine ⟨written, shaped, ?_⟩
  rw [read, options found read]
  rfl

end Options

end ScriptFront
