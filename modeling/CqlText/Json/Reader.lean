import CqlText.Json.Quoted

/-!
# A reader for lists of JSON

A text is read token by token, and a list from the tokens between its commas. The plain storage
loads lists by this reader. The main statement is `tokens?_cons`, which reads one token at a time.
-/

namespace CqlText
namespace Json

/-- The first token of a text that does not start with a space, and the text after it. -/
def readToken (first : Char) (tail : Text) : Option (Token × Text) :=
  match first, tail with
  | '[', _ => some (.openList, tail)
  | ']', _ => some (.closeList, tail)
  | '{', _ => some (.openObject, tail)
  | '}', _ => some (.closeObject, tail)
  | ':', _ => some (.colon, tail)
  | ',', _ => some (.comma, tail)
  | 'n', 'u' :: 'l' :: 'l' :: rest => some (.scalar .null, rest)
  | '"', _ => (unquote? tail).map fun parts => (.scalar (.text parts.1), parts.2)
  | '0', _ => some (.scalar (.number 0), tail)
  | _, _ =>
      if first.isDigit then
        (Decimal.word? (first :: tail.takeWhile Char.isDigit)).map fun word =>
          (.scalar (.number word), tail.dropWhile Char.isDigit)
      else
        none

theorem readToken_length {first : Char} {tail rest : Text} {token : Token}
    (found : readToken first tail = some (token, rest)) : rest.length ≤ tail.length := by
  unfold readToken at found
  split at found
  case h_7 =>
    obtain ⟨_, rfl⟩ : _ ∧ _ = rest := by simpa using found
    simp only [List.length_cons]
    omega
  case h_8 =>
    obtain ⟨⟨content, after⟩, read, pair_eq⟩ := Option.map_eq_some_iff.mp found
    obtain ⟨_, rfl⟩ : _ ∧ after = rest := by simpa using pair_eq
    exact Nat.le_of_lt (unquoteOnto_length read)
  case h_10 =>
    split at found
    · obtain ⟨word, _, pair_eq⟩ := Option.map_eq_some_iff.mp found
      obtain ⟨_, rfl⟩ : _ ∧ tail.dropWhile Char.isDigit = rest := by simpa using pair_eq
      exact (List.dropWhile_suffix _).length_le
    · simp at found
  all_goals
    obtain ⟨_, rfl⟩ : _ ∧ tail = rest := by simpa using found
    exact Nat.le_refl _

/-- The tokens of a text, behind the reversed list of those already read. -/
def tokensOnto (passed : List Token) : Text → Option (List Token)
  | [] => some passed.reverse
  | first :: tail =>
      if isSpace first then
        tokensOnto passed tail
      else
        match _ : readToken first tail with
        | some (token, rest) => tokensOnto (token :: passed) rest
        | none => none
termination_by text => text.length
decreasing_by
  · exact Nat.lt_succ_self _
  · exact Nat.lt_succ_of_le (readToken_length (by assumption))

/-- The tokens of a text. -/
def tokens? (text : Text) : Option (List Token) :=
  tokensOnto [] text

theorem tokensOnto_append (passed earlier : List Token) (text : Text) :
    tokensOnto (passed ++ earlier) text = (tokensOnto passed text).map (earlier.reverse ++ ·) := by
  fun_induction tokensOnto passed text with
  | case1 passed => simp [tokensOnto]
  | case2 passed first tail space induction => rw [tokensOnto, if_pos space, induction]
  | case3 passed first tail noSpace token rest read induction =>
      rw [tokensOnto, if_neg noSpace]
      split <;> simp_all
  | case4 passed first tail noSpace read =>
      rw [tokensOnto, if_neg noSpace]
      split <;> simp_all

@[simp] theorem tokens?_nil : tokens? [] = some [] := by
  simp [tokens?, tokensOnto]

theorem tokens?_space {first : Char} (tail : Text) (space : isSpace first = true) :
    tokens? (first :: tail) = tokens? tail := by
  rw [tokens?, tokensOnto, if_pos space, tokens?]

/-- A text's tokens are its first token and those of the text after it. -/
theorem tokens?_cons {first : Char} (tail : Text) (noSpace : isSpace first = false) :
    tokens? (first :: tail) =
      (readToken first tail).bind fun parts => (tokens? parts.2).map (parts.1 :: ·) := by
  rw [tokens?, tokensOnto, if_neg (by simp [noSpace])]
  split
  · next token rest read => simpa [read, tokens?] using tokensOnto_append [] [token] rest
  · next read => simp [read]

/-- The tokens between two brackets. -/
def enclosed? : List Token → Option (List Token)
  | .openList :: tokens =>
      if tokens.getLast? = some .closeList then some tokens.dropLast else none
  | _ => none

/-- The element with given tokens. -/
def Item.ofTokens? : List Token → Option Item
  | [.scalar value] => some (.scalar value)
  | [.openObject, .scalar (.text label), .colon, .scalar value, .closeObject] =>
      some (.member label value)
  | _ => none

/-- The elements of a list with given tokens. -/
def elements? (tokens : List Token) : Option (List Item) :=
  match enclosed? tokens with
  | none => none
  | some [] => some []
  | some (token :: others) => (Fields.split .comma (token :: others)).mapM Item.ofTokens?

/-- The list that a text is one of. -/
def read? (text : Text) : Option (List Item) :=
  (tokens? text).bind elements?

theorem enclosed?_eq_some_iff {tokens inner : List Token} :
    enclosed? tokens = some inner ↔ tokens = .openList :: inner ++ [.closeList] := by
  constructor
  · intro found
    rw [enclosed?.eq_def] at found
    split at found
    · next tokens =>
      split at found
      · next last =>
        obtain rfl := Option.some.inj found
        obtain ⟨inner, rfl⟩ := List.getLast?_eq_some_iff.mp last
        simp
      · cases found
    · cases found
  · rintro rfl
    simp [enclosed?]

end Json
end CqlText
