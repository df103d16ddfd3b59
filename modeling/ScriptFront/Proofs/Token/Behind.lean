import ScriptFront.Proofs.Token.Munch

/-!
# What stands behind a token

What stands behind a token matters only as far as the token could go on there. No token but a string
goes on over white space, and a string ends with its quote. So another text can be put behind a
token, as long as all that it has before its first white space stood there already (`Spares`): the
same token is met (`Cursor.next_spared`).
-/
namespace ScriptFront

/-- Whether all that a token could take of the second text stands in front of the first one too. -/
def Spares (after after' : List Char) : Prop :=
  ∀ extra, extra <+: after' → (∀ c ∈ whiteSpace, c ∉ extra) → extra <+: after

theorem spares_nil (after : List Char) : Spares after [] := by
  intro extra isPrefix _
  exact (List.prefix_nil.mp isPrefix) ▸ List.nil_prefix

theorem spares_of_prefix {before after : List Char} {c : Char} (isPrefix : before <+: after)
    (white : c ∈ whiteSpace) (more : List Char) : Spares after (before ++ c :: more) := by
  intro extra within noWhite
  rcases List.prefix_or_prefix_of_prefix within (List.prefix_append ..) with short | long
  · exact short.trans isPrefix
  · obtain ⟨others, rfl⟩ := long
    cases others with
    | nil => simpa using isPrefix
    | cons d others =>
      have inner := (List.prefix_append_right_inj before).mp within
      obtain rfl : d = c := (List.cons_prefix_cons.mp inner).1
      exact absurd (by simp) (noWhite d white)

/-- The longest token stays the longest in front of the other text. -/
theorem Longest.spared {munch after after' : List Char} (longest : Longest (munch ++ after) munch)
    (spares : Spares after after') : Longest (munch ++ after') munch := by
  refine ⟨longest.isForm, List.prefix_append .., fun other isPrefix isForm => ?_⟩
  by_contra long
  obtain ⟨extra, rfl⟩ : munch <+: other :=
    List.prefix_of_prefix_length_le (List.prefix_append ..) isPrefix (by omega)
  have within : extra <+: after' := (List.prefix_append_right_inj munch).mp isPrefix
  obtain ⟨kind, form⟩ := longest.isForm
  obtain ⟨kind', form'⟩ := isForm
  by_cases isQuoted' : IsQuoted (munch ++ extra)
  · -- Both begin with a quote, so both are strings.
    obtain ⟨first, rest, rfl⟩ := form.exists_cons
    have isQuoted := (form.begins.of_quote isQuoted'.quote).1
    have same := isQuoted.eq_of_prefix isQuoted' (List.prefix_append ..)
    exact long (congrArg List.length same).ge
  · have before := spares extra within fun c white among =>
      form'.white_not_mem isQuoted' c white (List.mem_append_right _ among)
    exact long (longest.longest _ ((List.prefix_append_right_inj munch).mpr before) ⟨_, form'⟩)

/-- Where no token begins, none begins in front of the other text. -/
theorem no_form_spared {first : Char} {rest after' : List Char} (noQuote : first ≠ '"')
    (none : ∀ munch, munch <+: first :: rest → ¬ IsForm munch) (spares : Spares rest after') :
    ∀ munch, munch <+: first :: after' → ¬ IsForm munch := by
  rintro munch isPrefix ⟨kind, form⟩
  obtain ⟨more, rfl, within⟩ := form.cons_of_prefix isPrefix
  have notQuoted : ¬ IsQuoted (first :: more) := fun isQuoted => noQuote isQuoted.quote
  have before := spares more within fun c white among =>
    form.white_not_mem notQuoted c white (List.mem_cons_of_mem _ among)
  exact none _ (List.cons_prefix_cons.mpr ⟨rfl, before⟩) ⟨_, form⟩

namespace Front

variable {first : Char} {rest more after' : List Char}

theorem ofChars_rest (taken : (ofChars first rest).taken = first :: more) :
    rest = more ++ (ofChars first rest).after := by
  have split := ofChars_split first rest
  rw [taken] at split
  exact (List.cons.inj split).2

/-- What follows a token is what it leaves. -/
theorem ofChars_eq {found : Except ScanFault Kind} {taken after : List Char}
    (sameFound : (ofChars first rest).found = found)
    (sameTaken : (ofChars first rest).taken = taken) (split : first :: rest = taken ++ after) :
    ofChars first rest = ⟨found, taken, after⟩ := by
  have whole := ofChars_split first rest
  rw [sameTaken, split] at whole
  have left := List.append_cancel_left whole
  calc ofChars first rest
      = ⟨(ofChars first rest).found, (ofChars first rest).taken, (ofChars first rest).after⟩ := rfl
    _ = ⟨found, taken, after⟩ := by rw [sameFound, sameTaken, ← left]

/-- The token at the front stays the same, and so does an error but for a string left open. -/
theorem ofChars_spared (closed : (ofChars first rest).found ≠ .error .unterminatedString)
    (taken : (ofChars first rest).taken = first :: more)
    (spares : Spares (ofChars first rest).after after') :
    ofChars first (more ++ after') = ⟨(ofChars first rest).found, first :: more, after'⟩ := by
  have split := ofChars_split first rest
  rw [taken] at split
  cases munch_ofChars first rest with
  | openString found => exact absurd found closed
  | stray found noQuote single none =>
    obtain rfl : more = [] := by simpa [taken] using single
    have noQuote : first ≠ '"' := by simpa using noQuote
    have behind : (ofChars first rest).after = rest := (ofChars_rest taken).symm
    rw [behind] at spares
    have none' := no_form_spared noQuote none spares
    cases munch_ofChars first after' with
    | token kind _ _ longest => exact absurd longest.isForm (none' _ longest.isPrefix)
    | openString _ quote => exact absurd (Option.some.inj quote) noQuote
    | stray found' _ single' =>
      obtain ⟨others, taken'⟩ := ofChars_taken first after'
      obtain rfl : others = [] := by simpa [taken'] using single'
      exact ofChars_eq (found'.trans found.symm) taken' rfl
  | token kind found form longest =>
    rw [taken] at form longest
    rw [split] at longest
    have longest := longest.spared spares
    cases munch_ofChars first (more ++ after') with
    | openString _ _ _ none => exact absurd longest.isForm (none _ longest.isPrefix)
    | stray _ _ _ none => exact absurd longest.isForm (none _ longest.isPrefix)
    | token kind' found' form' longest' =>
      have taken' : (ofChars first (more ++ after')).taken = first :: more :=
        longest'.unique longest
      rw [taken'] at form'
      rw [form'.unique form, ← found] at found'
      exact ofChars_eq found' taken' rfl

end Front

namespace Cursor

/-- Whether a token begins with this character in front of these. -/
structure Opens (first : Char) (rest : List Char) : Prop where
  notFeed : first ≠ '\n'
  notBlank : isBlank first = false
  noComment : ¬ (first = '/' ∧ rest.head? = some '/')

theorem opens_of_pastTrivia {inComment : Bool} {text rest : List Char} {offset line : Nat}
    {first : Char} (left : (pastTrivia inComment text offset line).rest = first :: rest) :
    Opens first rest := by
  fun_induction pastTrivia inComment text offset line with
  | case1 => simp at left
  | case2 _ _ _ _ ih => exact ih left
  | case3 _ _ _ _ _ _ _ ih => exact ih left
  | case4 _ _ _ _ _ _ _ _ ih => exact ih left
  | case5 inComment c rest offset line notFeed notSkipped noComment =>
    obtain ⟨rfl, rfl⟩ := List.cons.inj left
    have notBlank : isBlank c = false := by
      rw [Bool.or_eq_true, not_or] at notSkipped
      simpa using notSkipped.2
    exact ⟨notFeed, notBlank, noComment⟩

theorem Opens.pastTrivia {first : Char} {rest : List Char} (opens : Opens first rest)
    (offset line : Nat) :
    pastTrivia false (first :: rest) offset line = ⟨first :: rest, offset, line⟩ := by
  rw [Cursor.pastTrivia, if_neg opens.notFeed, if_neg (by simp [opens.notBlank]),
    if_neg opens.noComment]

/-- No comment is made of a token. -/
theorem Opens.spared {first : Char} {more after after' : List Char}
    (opens : Opens first (more ++ after)) (spares : Spares after after') :
    Opens first (more ++ after') := by
  refine ⟨opens.notFeed, opens.notBlank, fun comment => opens.noComment ⟨comment.1, ?_⟩⟩
  cases more with
  | cons c more => exact comment.2
  | nil =>
    have slash : ['/'] <+: after' := by
      obtain ⟨rest, rfl⟩ := List.head?_eq_some_iff.mp comment.2
      exact ⟨rest, rfl⟩
    obtain ⟨rest, rfl⟩ := spares ['/'] slash (by simp [whiteSpace])
    rfl

/-- A token is met again in front of another text. -/
theorem next_spared {cursor cursor' : Cursor} {first : Char} {rest after' : List Char}
    {offset line : Nat} (left : cursor.skipTrivia.rest = first :: rest)
    (closed : (Front.ofChars first rest).found ≠ .error .unterminatedString)
    (spares : Spares (Front.ofChars first rest).after after')
    (arrives : cursor'.skipTrivia =
      pastTrivia false ((Front.ofChars first rest).taken ++ after') offset line) :
    cursor'.next =
      ({ cursor.next.1 with
          start := offset
          line := line + (Front.ofChars first rest).taken.count '\n' },
        ⟨after', offset + (Front.ofChars first rest).taken.length,
          line + (Front.ofChars first rest).taken.count '\n'⟩) := by
  obtain ⟨more, taken⟩ := Front.ofChars_taken first rest
  have opens : Opens first (more ++ (Front.ofChars first rest).after) :=
    opens_of_pastTrivia (left.trans (congrArg _ (Front.ofChars_rest taken)))
  have here : cursor'.skipTrivia = ⟨first :: (more ++ after'), offset, line⟩ := by
    rw [arrives, taken]
    exact (opens.spared spares).pastTrivia offset line
  rw [next_of_cons (congrArg Cursor.rest here), here, Front.ofChars_spared closed taken spares,
    next_of_cons left, taken]
  simp [Front.kind, Front.lexeme, taken]

end Cursor

end ScriptFront
