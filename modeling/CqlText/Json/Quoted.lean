import CqlText.Json.Grammar

/-!
# Quoted text of JSON

A way to write characters inside quotes, which prefers letters to units, and a reader, which accepts
every escape and refuses bare control characters and unpaired surrogates.
-/

namespace CqlText
namespace Json

/-- What is written for a character inside quotes. -/
def escape (symbol : Char) : Text :=
  match symbol with
  | '"' => ['\\', '"']
  | '\\' => ['\\', '\\']
  | '\x08' => ['\\', 'b']
  | '\t' => ['\\', 't']
  | '\n' => ['\\', 'n']
  | '\x0c' => ['\\', 'f']
  | '\r' => ['\\', 'r']
  | _ =>
      if symbol.toNat < 0x20 then
        ['\\', 'u', '0', '0', Nat.digitChar (symbol.toNat / 16), Nat.digitChar (symbol.toNat % 16)]
      else
        [symbol]

/-- The character that an escape behind `\u` denotes, and the text after the escape. -/
def readUnit : Text → Option (Char × Text)
  | a :: b :: c :: d :: tail => do
      let unit ← unit? a b c d
      if unit < 0xD800 ∨ 0xE000 ≤ unit then
        return (Char.ofNat unit, tail)
      else if unit < 0xDC00 then
        match tail with
        | '\\' :: 'u' :: e :: f :: g :: h :: rest =>
            let second ← unit? e f g h
            if 0xDC00 ≤ second ∧ second < 0xE000 then
              return (Char.ofNat (0x10000 + 0x400 * (unit - 0xD800) + (second - 0xDC00)), rest)
            else
              none
        | _ => none
      else
        none
  | _ => none

/-- The character that an escape behind a backslash denotes, and the text after the escape. -/
def readEscape : Text → Option (Char × Text)
  | '"' :: tail => some ('"', tail)
  | '\\' :: tail => some ('\\', tail)
  | '/' :: tail => some ('/', tail)
  | 'b' :: tail => some ('\x08', tail)
  | 'f' :: tail => some ('\x0c', tail)
  | 'n' :: tail => some ('\n', tail)
  | 'r' :: tail => some ('\r', tail)
  | 't' :: tail => some ('\t', tail)
  | 'u' :: tail => readUnit tail
  | _ => none

/-- The character that starts a text inside quotes, and the text after it. -/
def readSymbol (first : Char) (tail : Text) : Option (Char × Text) :=
  if first = '\\' then
    readEscape tail
  else if first.toNat < 0x20 then
    none
  else
    some (first, tail)

theorem readUnit_length {text rest : Text} {symbol : Char}
    (found : readUnit text = some (symbol, rest)) : rest.length ≤ text.length := by
  unfold readUnit at found
  split at found
  · next a b c d tail =>
    simp only [Option.bind_eq_bind, Option.bind_eq_some_iff] at found
    obtain ⟨unit, _, found⟩ := found
    split at found
    · obtain ⟨_, rfl⟩ : _ ∧ tail = rest := by simpa using found
      simp only [List.length_cons]
      omega
    · split at found
      · split at found
        · next e f g h after =>
          simp only [Option.bind_eq_some_iff] at found
          obtain ⟨second, _, found⟩ := found
          split at found
          · obtain ⟨_, rfl⟩ : _ ∧ after = rest := by simpa using found
            simp only [List.length_cons]
            omega
          · simp at found
        · simp at found
      · simp at found
  · simp at found

theorem readEscape_length {text rest : Text} {symbol : Char}
    (found : readEscape text = some (symbol, rest)) : rest.length ≤ text.length := by
  unfold readEscape at found
  split at found
  case h_9 tail => exact Nat.le_succ_of_le (readUnit_length found)
  case h_10 => simp at found
  all_goals
    simp only [Option.some.injEq, Prod.mk.injEq] at found
    obtain ⟨_, rfl⟩ := found
    exact Nat.le_succ _

theorem readSymbol_length {first symbol : Char} {tail rest : Text}
    (found : readSymbol first tail = some (symbol, rest)) : rest.length ≤ tail.length := by
  unfold readSymbol at found
  split at found
  · exact readEscape_length found
  · split at found
    · simp at found
    · obtain ⟨_, rfl⟩ : _ ∧ tail = rest := by simpa using found
      exact Nat.le_refl _

/-- The rest of a quoted text and what follows its closing quote, behind the reversed characters
already read. -/
def unquoteOnto (passed : Text) : Text → Option (Text × Text)
  | [] => none
  | first :: tail =>
      if first = '"' then
        some (passed.reverse, tail)
      else
        match _ : readSymbol first tail with
        | some (symbol, rest) => unquoteOnto (symbol :: passed) rest
        | none => none
termination_by text => text.length
decreasing_by exact Nat.lt_succ_of_le (readSymbol_length (by assumption))

/-- The content of a quoted text, read behind its opening quote, and what follows the closing
quote. -/
def unquote? (text : Text) : Option (Text × Text) :=
  unquoteOnto [] text

theorem unquoteOnto_length {passed text content rest : Text}
    (found : unquoteOnto passed text = some (content, rest)) : rest.length < text.length := by
  fun_induction unquoteOnto passed text with
  | case1 => simp at found
  | case2 passed tail =>
      obtain ⟨_, rfl⟩ : _ ∧ tail = rest := by simpa using found
      exact Nat.lt_succ_self _
  | case3 passed first tail _ symbol after read induction =>
      exact Nat.lt_succ_of_lt (Nat.lt_of_lt_of_le (induction found) (readSymbol_length read))
  | case4 => simp at found

end Json
end CqlText
