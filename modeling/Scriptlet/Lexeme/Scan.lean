/-
# Cutting off one lexeme

Scanning looks at the first character of a text, which decides what the lexeme can be, and cuts
off the longest lexeme of that class. It knows nothing of positions. The text cut off and the rest
make up the text scanned, and the text cut off is never empty, so scanning on always ends.
-/

import Scriptlet.Lexeme.Lexicon

namespace Scriptlet

/-- Why no lexeme can be cut off a text. -/
inductive Fault
  /-- A string literal is not closed before the text ends. -/
  | unterminatedString
  /-- A symbol starts no lexeme. -/
  | unexpectedSymbol (symbol : Char)
  deriving DecidableEq

/-- A lexeme cut off the front of a text, and what is left of the text. -/
structure Cut where
  kind : Kind
  text : List Char
  value : List Char
  rest : List Char

namespace Cut

/-- A cut whose value is its text. -/
def plain (kind : Kind) (text rest : List Char) : Cut := ⟨kind, text, text, rest⟩

end Cut

/-- The inside of a string literal with its closing quote: its text, its value and what follows.
A backslash takes the next character with it; it is dropped before another backslash and before
the quote of this literal, and kept before anything else. -/
def closeQuoted (quote : Char) : List Char → Option (List Char × List Char × List Char)
  | [] => none
  | '\\' :: c :: rest =>
    (closeQuoted quote rest).map fun (text, value, after) =>
      ('\\' :: c :: text, (if c = '\\' ∨ c = quote then [c] else ['\\', c]) ++ value, after)
  | c :: rest =>
    if c = quote then some ([c], [], rest)
    else (closeQuoted quote rest).map fun (text, value, after) => (c :: text, c :: value, after)

/-- The longest run of digits with at most one point in it, and what follows. -/
def splitNumeral (source : List Char) : List Char × List Char :=
  let whole := source.takeWhile Char.isDigit
  match source.dropWhile Char.isDigit with
  | '.' :: after => (whole ++ '.' :: after.takeWhile Char.isDigit, after.dropWhile Char.isDigit)
  | after => (whole, after)

namespace Lexicon

variable (lexicon : Lexicon)

/-- The longest run of operator symbols. -/
def scanOperator (c : Char) (rest : List Char) : Except Fault Cut :=
  let after := (c :: rest).dropWhile lexicon.isOperatorSymbol
  match (c :: rest).takeWhile lexicon.isOperatorSymbol with
  | [] => .error (.unexpectedSymbol c)
  | [only] =>
    .ok (.plain (if only = lexicon.assignment then .equals else .operator) [only] after)
  | text => .ok (.plain .operator text after)

/-- A number, with its sign if it has one. A sign without a digit after it is an operator. -/
def scanNumber (c : Char) (rest : List Char) : Except Fault Cut :=
  if c = '+' ∨ c = '-' then
    if (rest.head?.map Char.isDigit).getD false then
      .ok (.plain .number (c :: (splitNumeral rest).1) (splitNumeral rest).2)
    else lexicon.scanOperator c rest
  else .ok (.plain .number (splitNumeral (c :: rest)).1 (splitNumeral (c :: rest)).2)

/-- The longest run of word symbols, with the kind the tables give it. -/
def scanWord (c : Char) (rest : List Char) : Cut :=
  let text := c :: rest.takeWhile lexicon.isWordSymbol
  .plain ((lexicon.wordKind? (String.ofList text)).getD .identifier) text
    (rest.dropWhile lexicon.isWordSymbol)

/-- Cuts one lexeme off the front of the text `c :: rest`. -/
def scan (c : Char) (rest : List Char) : Except Fault Cut :=
  match lexicon.classify c with
  | .quote =>
    match closeQuoted c rest with
    | some (text, value, after) => .ok ⟨.quoted, c :: text, value, after⟩
    | none => .error .unterminatedString
  | .blank =>
    .ok (.plain .whitespace (c :: rest.takeWhile Text.isBlank) (rest.dropWhile Text.isBlank))
  | .punctuation kind => .ok (.plain kind [c] rest)
  | .numeric => lexicon.scanNumber c rest
  | .operator => lexicon.scanOperator c rest
  | .word => .ok (lexicon.scanWord c rest)
  | .unknown => .error (.unexpectedSymbol c)

end Lexicon

/-! ## What is cut off -/

theorem closeQuoted_append {quote : Char} {source text value after : List Char}
    (h : closeQuoted quote source = some (text, value, after)) : text ++ after = source := by
  fun_induction closeQuoted quote source generalizing text value after with
  | case1 => cases h
  | case2 c rest ih =>
    obtain ⟨⟨text', value', after'⟩, h', e⟩ := Option.map_eq_some_iff.1 h
    cases e
    simp [ih h']
  | case3 rest =>
    cases h
    rfl
  | case4 c rest _ hc ih =>
    obtain ⟨⟨text', value', after'⟩, h', e⟩ := Option.map_eq_some_iff.1 h
    cases e
    simp [ih h']

theorem splitNumeral_append (source : List Char) :
    (splitNumeral source).1 ++ (splitNumeral source).2 = source := by
  have whole := List.takeWhile_append_dropWhile (p := Char.isDigit) (l := source)
  unfold splitNumeral
  split
  · next after e =>
    rw [e] at whole
    simpa [List.append_assoc] using whole
  · exact whole

/-- A numeral that starts with a digit starts with that digit. -/
theorem splitNumeral_ne_nil {c : Char} (h : c.isDigit = true) (rest : List Char) :
    (splitNumeral (c :: rest)).1 ≠ [] := by
  unfold splitNumeral
  split <;> simp [h]

namespace Lexicon

variable {lexicon : Lexicon} {c : Char} {rest : List Char} {cut : Cut}

theorem scanOperator_append (h : lexicon.scanOperator c rest = .ok cut) :
    cut.text ++ cut.rest = c :: rest ∧ cut.text ≠ [] := by
  have whole := List.takeWhile_append_dropWhile (p := lexicon.isOperatorSymbol) (l := c :: rest)
  unfold scanOperator at h
  split at h
  · cases h
  · next only e =>
    cases h
    rw [e] at whole
    exact ⟨whole, by simp [Cut.plain]⟩
  · next text hnil _ =>
    cases h
    exact ⟨whole, hnil⟩

theorem scanNumber_append (digit : c = '+' ∨ c = '-' ∨ c.isDigit = true)
    (h : lexicon.scanNumber c rest = .ok cut) :
    cut.text ++ cut.rest = c :: rest ∧ cut.text ≠ [] := by
  unfold scanNumber at h
  split at h
  · split at h
    · cases h
      exact ⟨by simp [Cut.plain, splitNumeral_append], by simp [Cut.plain]⟩
    · exact scanOperator_append h
  · next hsign =>
    cases h
    refine ⟨by simp [Cut.plain, splitNumeral_append], splitNumeral_ne_nil ?_ rest⟩
    rcases digit with h | h | h
    · exact absurd (Or.inl h) hsign
    · exact absurd (Or.inr h) hsign
    · exact h

/-- What is cut off and what is left make up the text, and something is cut off. -/
theorem scan_append (h : lexicon.scan c rest = .ok cut) :
    cut.text ++ cut.rest = c :: rest ∧ cut.text ≠ [] := by
  unfold scan at h
  split at h
  · split at h
    · next text value after e =>
      cases h
      exact ⟨by simp [closeQuoted_append e], by simp⟩
    · cases h
  · cases h
    exact ⟨by simp [Cut.plain], by simp [Cut.plain]⟩
  · cases h
    exact ⟨by simp [Cut.plain], by simp [Cut.plain]⟩
  · next e =>
    refine scanNumber_append ?_ h
    unfold classify at e
    grind
  · exact scanOperator_append h
  · cases h
    exact ⟨by simp [scanWord, Cut.plain], by simp [scanWord, Cut.plain]⟩
  · cases h

/-- Scanning leaves less than it was given. -/
theorem length_rest_lt (h : lexicon.scan c rest = .ok cut) :
    cut.rest.length < (c :: rest).length := by
  obtain ⟨whole, nonempty⟩ := scan_append h
  have := List.length_pos_iff.2 nonempty
  rw [← whole, List.length_append]
  omega

end Lexicon

end Scriptlet
