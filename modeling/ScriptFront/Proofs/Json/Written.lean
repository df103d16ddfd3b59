import ScriptFront.Json.Value
import ScriptFront.Proofs.Json.Numerals

/-!
# What is written is JSON

In either layout the text of a value is JSON, and it says what `Json.datum` gives for the value
(`Json.spells`). The layouts differ in white space only.
-/
namespace ScriptFront.Json

mutual

/-- What the text of a value says. A number that is not finite has no text. -/
def datum : Json → Datum
  | null => .null
  | bool value => .bool value
  | natural value => .number (.ofRatio value 1)
  | real value => if value.isFinite then .number value else .null
  | string value => .string value
  | array items => .array (itemData items)
  | object members => .object (memberData members)

def itemData : List Json → List Datum
  | [] => []
  | item :: items => item.datum :: itemData items

def memberData : List (String × Json) → List (String × Datum)
  | [] => []
  | (key, value) :: members => (key, value.datum) :: memberData members

end

section Strings

variable {value text : List Char}

theorem hexNumber?_control {code : Nat} (control : code < 32) :
    hexNumber? ['0', '0', hexDigit (code / 16), hexDigit (code % 16)] = some code := by
  interval_cases code <;> rfl

theorem inscribes_escaped (c : Char) {after : List Char} (more : Inscribes value text after) :
    Inscribes (c :: value) (escaped c ++ text) after := by
  unfold escaped
  split
  next same =>
    subst same
    exact .escaped .quote more
  next notQuote =>
  split
  next same =>
    subst same
    exact .escaped .backslash more
  next notBackslash =>
  split
  next same =>
    subst same
    exact .escaped .backspace more
  split
  next same =>
    subst same
    exact .escaped .formFeed more
  split
  next same =>
    subst same
    exact .escaped .newLine more
  split
  next same =>
    subst same
    exact .escaped .carriageReturn more
  split
  next same =>
    subst same
    exact .escaped .tab more
  split
  next control =>
    have coded := Inscribes.coded rfl (hexNumber?_control control) (.inl (by omega)) more
    rwa [Char.ofNat_toNat] at coded
  next noControl => exact .plain notQuote notBackslash (Nat.le_of_not_lt noControl) more

theorem inscribes_quoted (value after : List Char) :
    Inscribes value (value.flatMap escaped ++ '"' :: after) after := by
  induction value with
  | nil => exact .done
  | cons c value ih =>
    rw [List.flatMap_cons, List.append_assoc]
    exact inscribes_escaped c ih

end Strings

namespace Layout

variable (layout : Layout)

/-- The white space before a part that is `depth` levels deep. -/
def gap (depth : Nat) : List Char :=
  match layout with
  | compact => []
  | indented => '\n' :: List.replicate (2 * depth) ' '

theorem breakBefore_eq (depth : Nat) (after : List Char) :
    layout.breakBefore depth after = layout.gap depth ++ after := by
  cases layout <;> rfl

theorem isBlank_gap (depth : Nat) : ∀ c ∈ layout.gap depth, isBlank c := by
  cases layout with
  | compact => simp [gap]
  | indented =>
    intro c among
    rcases List.mem_cons.mp among with rfl | indent
    · rfl
    · rw [List.eq_of_mem_replicate indent]
      rfl

theorem colonBefore_eq (after : List Char) :
    ∃ blanks, (∀ c ∈ blanks, isBlank c) ∧ layout.colonBefore after = ':' :: (blanks ++ after) := by
  cases layout with
  | compact => exact ⟨[], by simp, rfl⟩
  | indented => exact ⟨[' '], by simp [isBlank], rfl⟩

end Layout

theorem noBlanks : ∀ c ∈ ([] : List Char), isBlank c := by simp

section Parts

variable {layout : Layout} {depth : Nat} {datum : Datum} {write : List Char → List Char}

/-- An item on its place. -/
theorem spells_item (spells : ∀ after, Spells (.value datum) (write after) after)
    {behind : List Char} (blank : ∀ c ∈ behind, isBlank c) (after : List Char) :
    Spells (.padded datum) (layout.breakBefore depth (write (behind ++ after))) after := by
  rw [Layout.breakBefore_eq]
  exact .padded (layout.isBlank_gap depth) blank (spells _)

/-- A member on its place. -/
theorem spells_member (key : String) (spells : ∀ after, Spells (.value datum) (write after) after)
    {behind : List Char} (blank : ∀ c ∈ behind, isBlank c) (after : List Char) :
    Spells (.member key datum)
      (layout.breakBefore depth (quotedBefore key (layout.colonBefore (write (behind ++ after)))))
      after := by
  obtain ⟨blanks, blankSpace, colon⟩ := layout.colonBefore_eq (write (behind ++ after))
  have inscribes := inscribes_quoted key.toList (':' :: (blanks ++ write (behind ++ after)))
  have spelled := Spells.member (layout.isBlank_gap depth) noBlanks inscribes
    (.padded blankSpace blank (spells (behind ++ after)))
  rw [String.ofList_toList] at spelled
  rw [Layout.breakBefore_eq, colon]
  exact spelled

end Parts

mutual

/-- The text of a value is JSON, whatever comes behind it. -/
theorem spells (layout : Layout) (depth : Nat) : ∀ (value : Json) (after : List Char),
    Spells (.value value.datum) (value.writtenBefore layout depth after) after
  | null, after => .null
  | bool value, after => .bool
  | natural value, after => Spells.natural value after
  | real value, after => by
    unfold writtenBefore datum
    split
    next finite => exact .exchangeText finite after
    next => exact .null
  | string value, after => by
    have spells := Spells.string (inscribes_quoted value.toList after)
    rwa [String.ofList_toList] at spells
  | array [], after => .array (.noItems noBlanks)
  | array (item :: items), after =>
    .array (spells_items layout (depth + 1) depth (spells layout (depth + 1) item) items after)
  | object [], after => .object (.noMembers noBlanks)
  | object ((key, value) :: members), after =>
    .object (spells_members layout (depth + 1) depth key (spells layout (depth + 1) value)
      members after)

theorem spells_items (layout : Layout) (depth outer : Nat) {first : Datum}
    {write : List Char → List Char}
    (spellsFirst : ∀ after, Spells (.value first) (write after) after) :
    ∀ (items : List Json) (after : List Char),
    Spells (.items (first :: itemData items)) (layout.breakBefore depth (write
      (itemsBefore layout depth items (layout.breakBefore outer (']' :: after))))) after
  | [], after => by
    unfold itemsBefore
    rw [Layout.breakBefore_eq layout outer]
    exact .lastItem (spells_item spellsFirst (layout.isBlank_gap outer) _)
  | item :: items, after =>
    .nextItem (spells_item spellsFirst noBlanks _)
      (spells_items layout depth outer (spells layout depth item) items after)

theorem spells_members (layout : Layout) (depth outer : Nat) (key : String) {first : Datum}
    {write : List Char → List Char}
    (spellsFirst : ∀ after, Spells (.value first) (write after) after) :
    ∀ (members : List (String × Json)) (after : List Char),
    Spells (.members ((key, first) :: memberData members)) (layout.breakBefore depth
      (quotedBefore key (layout.colonBefore (write
        (membersBefore layout depth members (layout.breakBefore outer ('\x7d' :: after))))))) after
  | [], after => by
    unfold membersBefore
    rw [Layout.breakBefore_eq layout outer]
    exact .lastMember (spells_member key spellsFirst (layout.isBlank_gap outer) _)
  | (next, value) :: members, after =>
    .nextMember (spells_member key spellsFirst noBlanks _)
      (spells_members layout depth outer next (spells layout depth value) members after)

end

/-- Both layouts say the same. -/
theorem writtenAs (value : Json) (layout : Layout) :
    value.datum.WrittenAs (String.ofList (value.writtenBefore layout 0 [])) := by
  rw [Datum.WrittenAs, String.toList_ofList]
  exact .padded noBlanks noBlanks (spells layout 0 value [])

end ScriptFront.Json
