import ScriptFront.Json.Record
import ScriptFront.Proofs.Json.Skip

/-!
# Reading records of the grammar

A record takes from an object what its fields make of the members with their names, and nothing
else. It is read if and only if no field is given twice and every field is content with its value
(`Reader.record_yields`).
-/
namespace ScriptFront.Json

namespace Reader

variable {α β σ : Type}

/-- Whether a reading succeeds under a condition and only then, with a value and in front of a
place, up to white space. -/
def Yields (result : Except Fault (α × List Char)) (accepted : Prop) (value : α)
    (after : List Char) : Prop :=
  (accepted → ∃ behind, (∀ c ∈ behind, isBlank c) ∧ result = .ok (value, behind ++ after)) ∧
    (¬ accepted → ∃ fault, result = .error fault)

/-- What a reader makes of the values of a domain. -/
def Gives (reader : Reader α) (domain accepts : Datum → Prop) (value : Datum → α) : Prop :=
  ∀ datum text after, domain datum → Spells (.padded datum) text after → Closes after →
    Yields (reader.run text) (accepts datum) (value datum) after

theorem Yields.blanks {result : Except Fault (α × List Char)} {accepted : Prop} {value : α}
    {blanks after : List Char} (yields : Yields result accepted value (blanks ++ after))
    (blank : ∀ c ∈ blanks, isBlank c) : Yields result accepted value after := by
  refine ⟨fun accepted => ?_, yields.2⟩
  obtain ⟨behind, blankBehind, done⟩ := yields.1 accepted
  refine ⟨behind ++ blanks, fun c among => ?_, by rw [done, List.append_assoc]⟩
  exact (List.mem_append.mp among).elim (blankBehind c) (blank c)

theorem Yields.congr {result : Except Fault (α × List Char)} {accepted accepted' : Prop}
    {value value' : α} {after : List Char} (yields : Yields result accepted value after)
    (same : accepted ↔ accepted') (equal : accepted → value = value') :
    Yields result accepted' value' after := by
  refine ⟨fun accepted => ?_, fun refused => yields.2 fun accepted => refused (same.mp accepted)⟩
  rw [← equal (same.mpr accepted)]
  exact yields.1 (same.mpr accepted)

theorem Yields.map {first : Reader α} {text after : List Char} {accepted : Prop} {value : α}
    (yields : Yields (first.run text) accepted value after) (f : α → β) :
    Yields ((first >>= fun found => pure (f found)).run text) accepted (f value) after := by
  refine ⟨fun accepted => ?_, fun refused => ?_⟩
  · obtain ⟨behind, blank, done⟩ := yields.1 accepted
    exact ⟨behind, blank, by simp [done]⟩
  · obtain ⟨fault, failed⟩ := yields.2 refused
    exact ⟨fault, by simp [failed]⟩

theorem Gives.map {reader : Reader α} {domain accepts : Datum → Prop} {value : Datum → α}
    (gives : reader.Gives domain accepts value) (f : α → β) :
    (reader >>= fun found => pure (f found)).Gives domain accepts (fun datum => f (value datum)) :=
  fun datum text after inDomain spells closes =>
    (gives datum text after inDomain spells closes).map f

end Reader

/-- What the values of a field mean for a record: which ones are looked at here, which of them are
accepted, and what they do to the record. -/
structure Meaning (σ : Type) where
  domain : Datum → Prop
  accepts : Datum → Prop
  update : Datum → σ → σ

section Members

variable {σ : Type} (fields : List (Field σ)) (meaning : String → Meaning σ)

/-- Whether a key is the name of a field. -/
def isKnown (key : String) : Bool := fields.any (·.name == key)

/-- The keys of the members that are fields. -/
def knownKeys (members : List (String × Datum)) : List String :=
  (members.map Prod.fst).filter (isKnown fields)

/-- Whether each of some keys occurs once at most. -/
def Once (keys : List String) (members : List (String × Datum)) : Prop :=
  ∀ key ∈ keys, (members.map Prod.fst).count key ≤ 1

/-- Whether no field is given twice, nor one that has been seen before. -/
def Fresh (seen : List String) (members : List (String × Datum)) : Prop :=
  (knownKeys fields members).Nodup ∧ ∀ key ∈ knownKeys fields members, key ∉ seen

/-- Whether every member that is a field has a value of the field's domain. -/
def Typed (members : List (String × Datum)) : Prop :=
  ∀ member ∈ members, isKnown fields member.1 → (meaning member.1).domain member.2

/-- Whether every member that is a field has a value that the field accepts. -/
def Accepted (members : List (String × Datum)) : Prop :=
  ∀ member ∈ members, isKnown fields member.1 → (meaning member.1).accepts member.2

/-- The record with the values of the members that are fields. -/
def updated (record : σ) (members : List (String × Datum)) : σ :=
  members.foldl (fun record member =>
    if isKnown fields member.1 then (meaning member.1).update member.2 record else record) record

variable {fields} in
theorem fresh_cons {seen : List String} {key : String} {datum : Datum}
    {members : List (String × Datum)} :
    Fresh fields seen ((key, datum) :: members) ↔
      (isKnown fields key → key ∉ seen) ∧ Fresh fields (key :: seen) members := by
  have known : ∀ other ∈ knownKeys fields members, isKnown fields other :=
    fun other among => (List.mem_filter.mp among).2
  by_cases isField : isKnown fields key
  · have keys : knownKeys fields ((key, datum) :: members) = key :: knownKeys fields members := by
      simp [knownKeys, isField]
    rw [Fresh, Fresh, keys, List.nodup_cons, List.forall_mem_cons]
    simp only [List.mem_cons, not_or, isField, true_imp_iff]
    constructor
    · rintro ⟨⟨new, nodup⟩, unseen, others⟩
      exact ⟨unseen, nodup, fun other among => ⟨fun same => new (same ▸ among), others other among⟩⟩
    · rintro ⟨unseen, nodup, others⟩
      exact ⟨⟨fun again => (others key again).1 rfl, nodup⟩, unseen,
        fun other among => (others other among).2⟩
  · have keys : knownKeys fields ((key, datum) :: members) = knownKeys fields members := by
      simp [knownKeys, isField]
    simp only [Fresh, keys, List.mem_cons, not_or, isField, Bool.false_eq_true, false_imp_iff,
      true_and]
    constructor
    · rintro ⟨nodup, others⟩
      exact ⟨nodup, fun other among =>
        ⟨fun same => isField (same ▸ known other among), others other among⟩⟩
    · rintro ⟨nodup, others⟩
      exact ⟨nodup, fun other among => (others other among).2⟩

variable {fields} in
theorem isKnown_iff {key : String} : isKnown fields key ↔ key ∈ fields.map Field.name := by
  simp [isKnown]

variable {fields} in
theorem nodup_knownKeys_iff {members : List (String × Datum)} :
    (knownKeys fields members).Nodup ↔ Once (fields.map Field.name) members := by
  rw [List.nodup_iff_count]
  constructor
  · intro once key known
    have count := once key
    rwa [knownKeys, List.count_filter (isKnown_iff.mpr known)] at count
  · intro once key
    by_cases known : isKnown fields key
    · rw [knownKeys, List.count_filter known]
      exact once key (isKnown_iff.mp known)
    · have absent : key ∉ knownKeys fields members :=
        fun among => known (List.mem_filter.mp among).2
      rw [List.count_eq_zero_of_not_mem absent]
      exact Nat.zero_le 1

variable {fields} in
theorem fresh_nil_iff {members : List (String × Datum)} :
    Fresh fields [] members ↔ Once (fields.map Field.name) members := by
  rw [Fresh, nodup_knownKeys_iff]
  simp

/-- What a field is set to, if it is given once at most. -/
theorem updated_field {β : Type} (key : String) (get : σ → β) (value : Datum → β)
    (known : isKnown fields key)
    (sets : ∀ datum record, get ((meaning key).update datum record) = value datum)
    (keeps : ∀ other, isKnown fields other → other ≠ key →
      ∀ datum record, get ((meaning other).update datum record) = get record)
    {members : List (String × Datum)} (nodup : (knownKeys fields members).Nodup) (record : σ) :
    get (updated fields meaning record members) =
      ((members.lookup key).map value).getD (get record) := by
  induction members generalizing record with
  | nil => rfl
  | cons head members ih =>
    obtain ⟨other, datum⟩ := head
    rw [updated, List.foldl_cons, ← updated, List.lookup_cons]
    by_cases same : key = other
    · subst same
      have keys : knownKeys fields ((key, datum) :: members) = key :: knownKeys fields members := by
        simp [knownKeys, known]
      rw [keys, List.nodup_cons] at nodup
      have absent : members.lookup key = none := by
        rw [List.lookup_eq_none_iff]
        intro member among
        refine bne_iff_ne.mpr fun again => nodup.1 ?_
        exact List.mem_filter.mpr ⟨List.mem_map.mpr ⟨member, among, again.symm⟩, known⟩
      simp [ih nodup.2, absent, known, sets]
    · have rest : (knownKeys fields members).Nodup :=
        nodup.sublist ((List.sublist_cons_self _ _).map _ |>.filter _)
      have kept :
          get (if isKnown fields other then (meaning other).update datum record else record) =
            get record := by
        split
        next isField => exact keeps other isField (Ne.symm same) datum record
        next => rfl
      have skipped : (key == other) = false := by simpa using same
      simp [ih rest, kept, skipped]

end Members

/-- What is read from a whole text. -/
theorem read_of_yields {α : Type} {reader : Reader α} {text : String} {accepted : Prop} {value : α}
    (yields : Reader.Yields (reader.run text.toList) accepted value []) :
    (accepted → read reader text = .ok value) ∧
      (¬ accepted → ∃ fault, read reader text = .error fault) := by
  constructor
  · intro accepts
    obtain ⟨behind, blank, done⟩ := yields.1 accepts
    have nothing : behind.dropWhile isBlank = [] := List.dropWhile_eq_nil_iff.mpr blank
    simp [read, done, nothing]
  · intro refused
    obtain ⟨fault, failed⟩ := yields.2 refused
    simp [read, failed]

namespace Reader

variable {σ : Type} {fields : List (Field σ)} {meaning : String → Meaning σ}

theorem membersFrom_eq (first : Bool) (seen : List String) (record : σ) (text : List Char) :
    membersFrom fields first seen record text =
      match nextMember first text with
      | .error fault => .error fault
      | .ok (false, rest) => .ok (record, rest)
      | .ok (true, rest) =>
        match (member fields seen record).run rest with
        | .error fault => .error fault
        | .ok (found, after) => membersFrom fields false (found.1 :: seen) found.2 after := by
  rw [membersFrom]
  split
  next failed => simp only [failed]
  next done => simp only [done]
  next more =>
    simp only [more]
    split <;> simp only [*]

theorem repeated_fails {α : Type} (name : String) (text : List Char) :
    ∃ fault, (repeated name : Reader α).run text = .error fault := by
  simp only [repeated, run_bind, run_next]
  split <;> exact ⟨_, rfl⟩

/-- The end of an object, behind a member or at once. -/
theorem nextMember_end {blanks after : List Char} (blank : ∀ c ∈ blanks, isBlank c) (first : Bool) :
    nextMember first (blanks ++ '\x7d' :: after) = .ok (false, after) := by
  have found : (blanks ++ '\x7d' :: after).dropWhile isBlank = '\x7d' :: after :=
    dropWhile_stretch blank (by simp [isBlank])
  simp [nextMember, found]

theorem nextMember_first {blanks after : List Char} (blank : ∀ c ∈ blanks, isBlank c) :
    nextMember true (blanks ++ '"' :: after) = .ok (true, after) := by
  have found : (blanks ++ '"' :: after).dropWhile isBlank = '"' :: after :=
    dropWhile_stretch blank (by simp [isBlank])
  simp [nextMember, found]

theorem nextMember_comma {blanks before after : List Char} (blank : ∀ c ∈ blanks, isBlank c)
    (blankBefore : ∀ c ∈ before, isBlank c) :
    nextMember false (blanks ++ ',' :: (before ++ '"' :: after)) = .ok (true, after) := by
  have comma : (blanks ++ ',' :: (before ++ '"' :: after)).dropWhile isBlank =
      ',' :: (before ++ '"' :: after) := dropWhile_stretch blank (by simp [isBlank])
  have found : (before ++ '"' :: after).dropWhile isBlank = '"' :: after :=
    dropWhile_stretch blankBefore (by simp [isBlank])
  simp [nextMember, comma, found]

/-- What the fields of a record make of the values of their domains. -/
def FieldsGive (fields : List (Field σ)) (meaning : String → Meaning σ) : Prop :=
  ∀ field ∈ fields, field.read.Gives (meaning field.name).domain (meaning field.name).accepts
    (meaning field.name).update

theorem member_yields (give : FieldsGive fields meaning) {key : String} {datum : Datum}
    {text after : List Char} (spells : Spells (.member key datum) text after)
    (closes : Closes after) (typed : isKnown fields key → (meaning key).domain datum)
    (seen : List String) (record : σ) :
    ∃ before inside, (∀ c ∈ before, isBlank c) ∧ text = before ++ '"' :: inside ∧
      Yields ((member fields seen record).run inside)
        (isKnown fields key → key ∉ seen ∧ (meaning key).accepts datum)
        (key, if isKnown fields key then (meaning key).update datum record else record) after := by
  cases spells with
  | @member _ before between key text rest after blankBefore blankBetween inscribes value =>
  refine ⟨before, text, blankBefore, rfl, ?_⟩
  have keyRead := string_run inscribes
  generalize String.ofList key = name at keyRead typed ⊢
  cases found : fields.find? (·.name == name) with
  | none =>
    have unknown : isKnown fields name = false := by
      simpa [isKnown, List.find?_eq_none] using found
    obtain ⟨behind, blank, skipped⟩ := value.skip_run closes.notNumber
    refine ⟨fun _ => ⟨behind, blank, ?_⟩, fun refused => absurd (by simp [unknown]) refused⟩
    simp [member, keyRead, found, colon_run blankBetween, skipped, unknown]
  | some field =>
    have isField : field ∈ fields := List.mem_of_find?_eq_some found
    have named : field.name = name := by simpa using List.find?_some found
    have known : isKnown fields name = true :=
      List.any_eq_true.mpr ⟨field, isField, by simpa using named⟩
    by_cases again : name ∈ seen
    · refine ⟨fun accepted => absurd again (accepted known).1, fun _ => ?_⟩
      have fails : ∃ fault, (repeated name : Reader (String × σ)).run (between ++ ':' :: rest) =
          .error fault := repeated_fails name _
      simpa [member, keyRead, found, again] using fails
    · have read := give field isField _ _ _ (named.symm ▸ typed known) value closes
      have onward : (member fields seen record).run text =
          (field.read >>= fun update => pure (name, update record)).run rest := by
        simp [member, keyRead, found, again, colon_run blankBetween]
      rw [onward, if_pos known, ← named]
      have mapped := read.map fun update => (field.name, update record)
      refine ⟨fun accepted => mapped.1 (accepted (named.symm ▸ known)).2, fun refused => ?_⟩
      exact mapped.2 fun accepts => refused fun _ => ⟨named.symm ▸ again, accepts⟩

/-- The end of an object. -/
theorem membersFrom_end {blanks : List Char} (blank : ∀ c ∈ blanks, isBlank c) (first : Bool)
    (seen : List String) (record : σ) (after : List Char) :
    Yields (membersFrom fields first seen record (blanks ++ '\x7d' :: after))
      (Fresh fields seen [] ∧ Accepted fields meaning []) (updated fields meaning record [])
      after := by
  refine ⟨fun _ => ⟨[], by simp, ?_⟩, fun refused => absurd ?_ refused⟩
  · rw [membersFrom_eq, nextMember_end blank]
    rfl
  · exact ⟨⟨.nil, by simp [knownKeys]⟩, by simp [Accepted]⟩

/-- A member, and the rest of the object after it. -/
theorem membersFrom_member {first : Bool} {seen : List String} {record : σ} {key : String}
    {datum : Datum} {more : List (String × Datum)} {text inside between after : List Char}
    (opened : nextMember first text = .ok (true, inside))
    (one : Yields ((member fields seen record).run inside)
      (isKnown fields key → key ∉ seen ∧ (meaning key).accepts datum)
      (key, if isKnown fields key then (meaning key).update datum record else record) between)
    (others : ∀ behind, (∀ c ∈ behind, isBlank c) → ∀ seen record,
      Yields (membersFrom fields false seen record (behind ++ between))
        (Fresh fields seen more ∧ Accepted fields meaning more)
        (updated fields meaning record more) after) :
    Yields (membersFrom fields first seen record text)
      (Fresh fields seen ((key, datum) :: more) ∧ Accepted fields meaning ((key, datum) :: more))
      (updated fields meaning record ((key, datum) :: more)) after := by
  rw [membersFrom_eq, opened, fresh_cons, Accepted, List.forall_mem_cons, updated, List.foldl_cons]
  by_cases admitted : isKnown fields key → key ∉ seen ∧ (meaning key).accepts datum
  · obtain ⟨behind, blank, read⟩ := one.1 admitted
    have rest := others behind blank (key :: seen)
      (if isKnown fields key then (meaning key).update datum record else record)
    simp only [read]
    refine ⟨fun accepted => rest.1 ⟨accepted.1.2, accepted.2.2⟩, fun refused => rest.2 ?_⟩
    exact fun accepted => refused ⟨⟨fun known => (admitted known).1, accepted.1⟩,
      fun known => (admitted known).2, accepted.2⟩
  · obtain ⟨fault, failed⟩ := one.2 admitted
    simp only [failed]
    refine ⟨fun accepted => absurd ?_ admitted, fun _ => ⟨fault, rfl⟩⟩
    exact fun known => ⟨accepted.1.1 known, accepted.2.1 known⟩

/-- The members of an object, from the first one or from the comma before one of them on. -/
theorem membersFrom_yields (give : FieldsGive fields meaning) {members : List (String × Datum)}
    {text after : List Char} (spells : Spells (.members members) text after)
    (typed : Typed fields meaning members) {first : Bool} {text' : List Char}
    (position : first = true ∧ text' = text ∨ first = false ∧ members ≠ [] ∧
      ∃ blanks, (∀ c ∈ blanks, isBlank c) ∧ text' = blanks ++ ',' :: text)
    (seen : List String) (record : σ) :
    Yields (membersFrom fields first seen record text')
      (Fresh fields seen members ∧ Accepted fields meaning members)
      (updated fields meaning record members) after := by
  induction members generalizing text text' first seen record with
  | nil =>
    cases spells with
    | noMembers blank =>
      rcases position with ⟨rfl, rfl⟩ | ⟨-, some, -⟩
      · exact membersFrom_end blank _ _ _ _
      · contradiction
  | cons head more ih =>
    obtain ⟨key, datum⟩ := head
    obtain ⟨typedHead, typedMore⟩ := List.forall_mem_cons.mp typed
    have opened {before inside : List Char} (blank : ∀ c ∈ before, isBlank c)
        (same : text = before ++ '"' :: inside) :
        nextMember first text' = .ok (true, inside) := by
      rcases position with ⟨rfl, rfl⟩ | ⟨rfl, -, blanks, blankComma, rfl⟩
      · rw [same, nextMember_first blank]
      · rw [same, nextMember_comma blankComma blank]
    cases spells with
    | lastMember last =>
      obtain ⟨before, inside, blank, same, one⟩ :=
        member_yields give last (closes_cons (by simp)) typedHead seen record
      exact membersFrom_member (opened blank same) one fun behind blank seen record =>
        membersFrom_end blank false seen record after
    | nextMember head rest =>
      obtain ⟨before, inside, blank, same, one⟩ :=
        member_yields give head (closes_cons (by simp)) typedHead seen record
      exact membersFrom_member (opened blank same) one fun behind blank seen record =>
        ih rest typedMore (.inr ⟨rfl, by simp, behind, blank, rfl⟩) seen record

/-- What a record takes from an object. -/
theorem record_yields (give : FieldsGive fields meaning) {name : String} {defaults : σ}
    {members : List (String × Datum)} {text after : List Char}
    (spells : Spells (.padded (.object members)) text after)
    (typed : Typed fields meaning members) :
    Yields ((record name fields defaults).run text)
      (Fresh fields [] members ∧ Accepted fields meaning members)
      (updated fields meaning defaults members) after := by
  cases spells with
  | padded blankBefore blankBehind inside =>
  have first := inside.dropWhile_value blankBefore
  cases inside with
  | object inside =>
  have read := membersFrom_yields give inside typed (.inl ⟨rfl, rfl⟩) [] defaults
  simpa [record, first, Reader.members] using read.blanks blankBehind

end Reader

end ScriptFront.Json
