import ScriptFront.Json.Skip

/-!
# Reading records

A record is read from an object with a member for each of its fields, in any order, or from a list
of the fields in order. Members of other names are passed over; a field that is missing keeps the
value it had, except that a list must hold every field that is not optional. A choice among names is
read from a string, or from an object whose one member has the name for its key and `null` for its
value.
-/
namespace ScriptFront.Json

namespace Reader

variable {α σ : Type}

/-- Fails because something else than `expected` follows. A scalar is read to the end and shown; the
parts of a list or an object are not looked at. -/
def wrongType (expected : String) : Reader α := do
  let found ← show Reader Found from do
    match ← ahead with
    | 'n' :: _ => do
      word "null".toList
      return .null
    | 't' :: _ => do
      word "true".toList
      return .bool true
    | 'f' :: _ => do
      word "false".toList
      return .bool false
    | '-' :: _ => do
      drop 1
      number true
    | '"' :: _ => do
      drop 1
      return .string (← string true)
    | '[' :: _ => return .array
    | '\x7b' :: _ => return .object
    | text => if startsWithDigit text then number false else failUpon .expectedValue
  failBefore (.wrongType found expected)

/-- `null`, or a value. -/
def optional (reader : Reader α) : Reader (Option α) := do
  match ← next with
  | 'n' :: _ => do
    word "null".toList
    return none
  | _ => return some (← reader)

def boolean : Reader Bool := do
  match ← next with
  | [] => failBefore .endInValue
  | 't' :: _ => do
    word "true".toList
    return true
  | 'f' :: _ => do
    word "false".toList
    return false
  | _ => wrongType "a boolean"

/-- `null` and nothing else. -/
def nothing : Reader Unit := do
  match ← next with
  | [] => failBefore .endInValue
  | 'n' :: _ => word "null".toList
  | _ => wrongType "unit"

/-- The rest of a string that is one of the given names. -/
def named (choices : List (String × α)) : Reader α := do
  let name ← string true
  match choices.find? (·.1 == name) with
  | some choice => return choice.2
  | none => failBefore (.unknownName name (choices.map (·.1)))

/-- The rest of an object with one member, of which the key is one of the given names. -/
def wrappedName (choices : List (String × α)) : Reader α := do
  match ← next with
  | [] => failBefore .endInObject
  | '"' :: _ => do
    drop 1
    let choice ← named choices
    colon
    nothing
    match ← next with
    | [] => failBefore .endInObject
    | '\x7d' :: _ => do
      drop 1
      return choice
    | _ => failBefore .expectedValue
  | '\x7d' :: _ => failUpon .expectedValue
  | _ => failUpon .keyNotString

def choice (choices : List (String × α)) : Reader α := do
  match ← next with
  | [] => failBefore .endInValue
  | '"' :: _ => do
    drop 1
    named choices
  | '\x7b' :: _ => do
    drop 1
    wrappedName choices
  | _ => failUpon .expectedValue

end Reader

/-- A field of a record: how it is read, and what its value does to the record. -/
structure Field (σ : Type) where
  name : String
  /-- Whether a list may end in front of the field. -/
  optional : Bool
  read : Reader (σ → σ)

namespace Reader

variable {σ : Type}

/-- Whether a list goes on; the comma before the next part is taken. -/
def anotherPart (first : Bool) : Reader Bool := do
  match ← next with
  | [] => failBefore .endInList
  | ']' :: _ => return false
  | c :: _ =>
    if first then return true
    else if c = ',' then do
      drop 1
      match ← next with
      | [] => failBefore .endInValue
      | ']' :: _ => failUpon .trailingComma
      | _ => return true
    else failUpon .expectedListEnd

/-- The end of a list that has no further parts. -/
def listEnd : Reader Unit := do
  match ← next with
  | [] => failBefore .endInList
  | ']' :: _ => drop 1
  | ',' :: _ => do
    drop 1
    match ← next with
    | ']' :: _ => failUpon .trailingComma
    | _ => failUpon .trailingCharacters
  | _ => failUpon .trailingCharacters

/-- The fields from number `index` on, as parts of a list. -/
def listed (expected : String) (index : Nat) : List (Field σ) → σ → Reader σ
  | [], record => do
    listEnd
    return record
  | field :: fields, record => do
    if ← anotherPart (index == 0) then do
      let update ← field.read
      listed expected (index + 1) fields (update record)
    else if field.optional then listed expected (index + 1) fields record
    else do
      drop 1
      failBefore (.wrongLength index expected)

/-- Fails because a field has been read before. An end of the object that follows at once is
taken. -/
def repeated {α : Type} (name : String) : Reader α := do
  match ← next with
  | '\x7d' :: _ => do
    drop 1
    failBefore (.repeatedField name)
  | _ => failBefore (.repeatedField name)

/-- A member after the opening quote of its key: the key, and the record with the member's value. -/
def member (fields : List (Field σ)) (seen : List String) (record : σ) : Reader (String × σ) := do
  let key ← string true
  match fields.find? (·.name == key) with
  | none => do
    colon
    skip
    return (key, record)
  | some field =>
    if seen.contains key then repeated key
    else do
      colon
      let update ← field.read
      return (key, update record)

/-- Goes on to the next member of an object, after the opening quote of its key, or to the end. -/
def nextMember (first : Bool) (text : List Char) : Except Fault (Bool × List Char) :=
  match text.dropWhile isBlank with
  | [] => .error (.before .endInObject [])
  | c :: rest =>
    if c = '\x7d' then .ok (false, rest)
    else if first then
      if c = '"' then .ok (true, rest) else .error (.upon .keyNotString (c :: rest))
    else if c = ',' then
      match rest.dropWhile isBlank with
      | [] => .error (.before .endInValue [])
      | d :: after =>
        if d = '"' then .ok (true, after)
        else if d = '\x7d' then .error (.upon .trailingComma (d :: after))
        else .error (.upon .keyNotString (d :: after))
    else .error (.upon .expectedObjectEnd (c :: rest))

theorem nextMember_shrinks {first more : Bool} {text rest : List Char}
    (done : nextMember first text = .ok (more, rest)) : rest.length < text.length := by
  unfold nextMember at done
  split at done
  · cases done
  next c behind found =>
    have shorter := behind_blanks found
    split at done
    · cases done
      exact shorter
    split at done
    · split at done
      · cases done
        exact shorter
      · cases done
    split at done
    · split at done
      · cases done
      next d after inside =>
        split at done
        · cases done
          exact Nat.lt_trans (behind_blanks inside) shorter
        · split at done <;> cases done
    · cases done

/-- The members of an object from here on. -/
def membersFrom (fields : List (Field σ)) (first : Bool) (seen : List String) (record : σ)
    (text : List Char) : Except Fault (σ × List Char) :=
  match _opened : nextMember first text with
  | .error fault => .error fault
  | .ok (false, rest) => .ok (record, rest)
  | .ok (true, rest) =>
    match _read : (member fields seen record).run rest with
    | .error fault => .error fault
    | .ok (found, after) => membersFrom fields false (found.1 :: seen) found.2 after
termination_by text.length
decreasing_by
  exact Nat.lt_of_le_of_lt ((member fields seen record).shrinks _read) (nextMember_shrinks _opened)

theorem membersFrom_shrinks {fields : List (Field σ)} {first : Bool} {seen : List String}
    {record value : σ} {text rest : List Char}
    (done : membersFrom fields first seen record text = .ok (value, rest)) :
    rest.length ≤ text.length := by
  fun_induction membersFrom fields first seen record text with
  | case1 => cases done
  | case2 first seen record text after opened =>
    cases done
    exact Nat.le_of_lt (nextMember_shrinks opened)
  | case3 => cases done
  | case4 first seen record text between opened found after read onward =>
    exact Nat.le_trans (onward done) (Nat.le_trans ((member fields seen record).shrinks read)
      (Nat.le_of_lt (nextMember_shrinks opened)))

def members (fields : List (Field σ)) (record : σ) : Reader σ :=
  ⟨membersFrom fields true [] record, membersFrom_shrinks⟩

/-- A record of the given name, whose fields are set on a record that holds their defaults. -/
def record (name : String) (fields : List (Field σ)) (defaults : σ) : Reader σ := do
  match ← next with
  | [] => failBefore .endInValue
  | '[' :: _ => do
    drop 1
    listed (name ++ " with " ++ toString fields.length ++ " elements") 0 fields defaults
  | '\x7b' :: _ => do
    drop 1
    members fields defaults
  | _ => wrongType name

end Reader

/-- Reads a whole text, which holds nothing but white space after the value. -/
def read {α : Type} (reader : Reader α) (text : String) : Except PlacedFault α :=
  match reader.run text.toList with
  | .error fault => .error (.ofFault text.toList fault)
  | .ok (value, rest) =>
    match rest.dropWhile isBlank with
    | [] => .ok value
    | left => .error (.ofFault text.toList (.upon .trailingCharacters left))

end ScriptFront.Json
