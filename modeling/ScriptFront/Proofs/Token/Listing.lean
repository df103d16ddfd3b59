import Mathlib.Data.List.Forall2
import ScriptFront.Proofs.Text.Stretch
import ScriptFront.Proofs.Token.Munch
import ScriptFront.Token.Listing

/-!
# Token listings are unambiguous

Nothing is escaped in a listing. The lexeme of a string may run over lines and look like entries
itself, and the line of a token is written only where it changes. The tokens can be read back all
the same (`listing_eq_iff`): the kind in front of a lexeme tells where the lexeme ends, since a
string ends with its second double quote and no other lexeme has an apostrophe in it
(`Token.Legible`), and a bar in the margin stands for the line of the token before, which is known
by then (`Token.entry_split`).
-/
namespace ScriptFront

namespace Kind

theorem ofName?_name (kind : Kind) : ofName? kind.name = some kind := by
  rcases kind with mark | _ | _ | _ | word | _ | _
  case mark => cases mark <;> decide +kernel
  case keyword => cases word <;> decide +kernel
  all_goals decide +kernel

theorem name_noBlank (kind : Kind) : ' ' ∉ kind.name.toList := by
  rcases kind with mark | _ | _ | _ | word | _ | _
  case mark => cases mark <;> decide
  case keyword => cases word <;> decide
  all_goals decide

end Kind

/-- Two tokens that say the same on the same line, wherever they start and however much they
cover. -/
structure Token.Agrees (token token' : Token) : Prop where
  kind : token.kind = token'.kind
  lexeme : token.lexeme = token'.lexeme
  line : token.line = token'.line

/-- Whether the end of the lexeme can be found in front of an apostrophe. -/
structure Token.Legible (token : Token) : Prop where
  string : token.kind = .stringLiteral → IsQuoted token.lexeme.toList
  other : token.kind ≠ .stringLiteral → '\'' ∉ token.lexeme.toList

theorem legible_tokenize {source : String} {token : Token} (among : token ∈ tokenize source) :
    token.Legible := by
  by_cases isEnd : token.isEnd
  · have kind : token.kind = .endOfInput := by simpa [Token.isEnd] using isEnd
    exact ⟨by simp [kind], by simp [lexeme_of_isEnd among isEnd]⟩
  by_cases isError : token.isError
  · have kind : token.kind = .error := by simpa [Token.isError] using isError
    obtain ⟨fault, lexeme⟩ := lexeme_of_isError among isError
    refine ⟨by simp [kind], fun _ => ?_⟩
    rw [lexeme]
    cases fault <;> decide
  · have form := form_lexeme among isEnd isError
    constructor
    · intro isString
      rw [isString] at form
      exact form.isQuoted
    · intro notString
      have notQuoted : ¬ IsQuoted token.lexeme.toList :=
        fun isQuoted => notString (form.unique (.string isQuoted))
      exact form.not_mem notQuoted (by decide) (by decide) fun mark => by cases mark <;> decide

namespace Token

variable {token token' : Token} {previous : Nat} {after after' : List Char}

theorem Legible.lexeme_split (legible : token.Legible) (legible' : token'.Legible)
    (kind : token.kind = token'.kind)
    (same : token.lexeme.toList ++ '\'' :: after = token'.lexeme.toList ++ '\'' :: after') :
    token.lexeme = token'.lexeme ∧ after = after' := by
  by_cases isString : token.kind = .stringLiteral
  · obtain ⟨body, quoted, noQuote⟩ := legible.string isString
    obtain ⟨body', quoted', noQuote'⟩ := legible'.string (kind ▸ isString)
    rw [quoted, quoted'] at same
    have bodies : body ++ '"' :: '\'' :: after = body' ++ '"' :: '\'' :: after' := by
      simpa using same
    obtain ⟨rfl, behind⟩ := split_at_stop noQuote noQuote' bodies
    exact ⟨String.toList_inj.mp (quoted.trans quoted'.symm), (List.cons.inj behind).2⟩
  · obtain ⟨lexeme, behind⟩ :=
      split_at_stop (legible.other isString) (legible'.other (kind ▸ isString)) same
    exact ⟨String.toList_inj.mp lexeme, behind⟩

/-- What the margin of an entry says: the line of the token, or that it is the line of the token
before. -/
def marginal (previous : Nat) (token : Token) : String :=
  if token.line = previous then "|" else toString token.line

theorem marginal_digits (changed : token.line ≠ previous) :
    ∀ c ∈ (marginal previous token).toList, c.isDigit := by
  rw [marginal, if_neg changed]
  exact isDigit_toString token.line

theorem marginal_noBlank (previous : Nat) (token : Token) :
    ' ' ∉ (marginal previous token).toList := by
  by_cases unchanged : token.line = previous
  · rw [marginal, if_pos unchanged]
    decide
  · intro among
    have digit := marginal_digits unchanged ' ' among
    simp at digit

theorem marginal_halts (rest : List Char) :
    Halts (· == ' ') ((marginal previous token).toList ++ rest) := by
  have some : (marginal previous token).toList ≠ [] := by
    unfold marginal
    split
    · decide
    · exact toString_ne_nil token.line
  obtain ⟨first, more, split⟩ := List.exists_cons_of_ne_nil some
  have noBlank : ' ' ∉ first :: more := split ▸ marginal_noBlank previous token
  rw [split, List.cons_append, halts_cons, beq_eq_false_iff_ne]
  exact (List.ne_of_not_mem_cons noBlank).symm

/-- The line of the token before and the margin together tell the line. -/
theorem line_of_marginal (same : marginal previous token = marginal previous token') :
    token.line = token'.line := by
  have bar : ¬ '|'.isDigit := by decide
  by_cases unchanged : token.line = previous
  · by_cases unchanged' : token'.line = previous
    · rw [unchanged, unchanged']
    · have digits := marginal_digits unchanged'
      rw [← same, marginal, if_pos unchanged] at digits
      exact absurd (digits '|' (by decide)) bar
  · by_cases unchanged' : token'.line = previous
    · have digits := marginal_digits unchanged
      rw [same, marginal, if_pos unchanged'] at digits
      exact absurd (digits '|' (by decide)) bar
    · rw [marginal, marginal, if_neg unchanged, if_neg unchanged'] at same
      rw [← digitsValue_toString token.line, same, digitsValue_toString]

theorem entry_toList (previous : Nat) (token : Token) :
    (entry previous token).toList =
      List.replicate (4 - (marginal previous token).length) ' ' ++
        ((marginal previous token).toList ++ ' ' :: (token.kind.name.toList ++
          ' ' :: '\'' :: (token.lexeme.toList ++ ['\'', '\n']))) := by
  have margin : (if token.line = previous then "   | " else
      alignRight 4 (toString token.line) ++ " ") =
        alignRight 4 (marginal previous token) ++ " " := by
    unfold marginal
    split
    · decide
    · rfl
  rw [entry, margin]
  simp [alignRight, spaces]

/-- What an entry says can be read off its beginning, once the line of the token before is known. -/
theorem entry_split (legible : token.Legible) (legible' : token'.Legible)
    (same : (entry previous token).toList ++ after = (entry previous token').toList ++ after') :
    token.Agrees token' ∧ after = after' := by
  have blank (count : Nat) : ∀ c ∈ List.replicate count ' ', c == ' ' := by simp
  rw [entry_toList, entry_toList] at same
  simp only [List.append_assoc, List.cons_append, List.nil_append] at same
  obtain ⟨-, margins⟩ := split_of_stretch (blank _) (blank _) (marginal_halts _)
    (marginal_halts _) same
  obtain ⟨marginals, names⟩ :=
    split_at_stop (marginal_noBlank previous token) (marginal_noBlank previous token') margins
  obtain ⟨kind, lexemes⟩ := name_split Kind.ofName?_name Kind.name_noBlank names
  obtain ⟨lexeme, ends⟩ := legible.lexeme_split legible' kind (List.cons.inj lexemes).2
  exact ⟨⟨kind, lexeme, line_of_marginal (String.toList_inj.mp marginals)⟩, (List.cons.inj ends).2⟩

theorem Agrees.entry (agrees : token.Agrees token') (previous : Nat) :
    entry previous token = entry previous token' := by
  rw [Token.entry, Token.entry, agrees.kind, agrees.lexeme, agrees.line]

end Token

/-- The entries of tokens behind a token of some line. -/
def entriesFrom (previous : Nat) (tokens : List Token) : List String :=
  List.zipWith Token.entry (previous :: tokens.map Token.line) tokens

theorem entriesFrom_cons (previous : Nat) (token : Token) (rest : List Token) :
    entriesFrom previous (token :: rest) = token.entry previous :: entriesFrom token.line rest :=
  rfl

theorem entriesFrom_congr {tokens tokens' : List Token}
    (agree : List.Forall₂ Token.Agrees tokens tokens') (previous : Nat) :
    entriesFrom previous tokens = entriesFrom previous tokens' := by
  induction agree generalizing previous with
  | nil => rfl
  | cons agrees _ ih =>
    rw [entriesFrom_cons, entriesFrom_cons, agrees.entry, agrees.line, ih]

/-- Entries are read one after the other, each with the line that the one before was found to
have. -/
theorem agree_of_entries {tokens tokens' : List Token} {previous : Nat}
    (legible : ∀ token ∈ tokens, token.Legible) (legible' : ∀ token ∈ tokens', token.Legible)
    (same : (entriesFrom previous tokens).flatMap String.toList =
      (entriesFrom previous tokens').flatMap String.toList) :
    List.Forall₂ Token.Agrees tokens tokens' := by
  induction tokens generalizing tokens' previous with
  | nil =>
    cases tokens' with
    | nil => exact .nil
    | cons token' rest' => simp [entriesFrom, Token.entry_toList] at same
  | cons token rest ih =>
    cases tokens' with
    | nil => simp [entriesFrom, Token.entry_toList] at same
    | cons token' rest' =>
      obtain ⟨here, later⟩ := List.forall_mem_cons.mp legible
      obtain ⟨here', later'⟩ := List.forall_mem_cons.mp legible'
      rw [entriesFrom_cons, entriesFrom_cons, List.flatMap_cons, List.flatMap_cons] at same
      obtain ⟨agrees, behind⟩ := Token.entry_split here here' same
      rw [agrees.line] at behind
      exact .cons agrees (ih later later' behind)

/-- The listings of two sources are the same if and only if their tokens are, one by one, in kind,
lexeme and line. -/
theorem listing_eq_iff (source source' : String) :
    listing source = listing source' ↔
      List.Forall₂ Token.Agrees (tokenize source) (tokenize source') := by
  constructor
  · intro same
    have texts := congrArg String.toList same
    rw [listing, listing, listingOf, listingOf, String.toList_join, String.toList_join] at texts
    exact agree_of_entries (fun _ => legible_tokenize) (fun _ => legible_tokenize) texts
  · intro agree
    exact congrArg String.join (entriesFrom_congr agree 0)

end ScriptFront
