/-
# Writing string literals

Every string can be written as a literal, with either quote: a backslash is put in front of each
backslash and of each quote of that sort. The literal is read back as one lexeme whose value is the
string, whatever follows it. What begins with a quote and is no literal has no end: if each
backslash is paired off with the character behind it, from left to right, no quote is left to close
it.
-/

import Scriptlet.Proofs.Boundaries
import Scriptlet.Proofs.Scanning

namespace Scriptlet

/-! ## The inside of a literal -/

/-- The inside of the literal of a text: what would close it or change its meaning is escaped. -/
def escapeQuoted (quote : Char) (text : List Char) : List Char :=
  text.flatMap fun c => if c = '\\' ∨ c = quote then ['\\', c] else [c]

/-- The literal of a string. -/
def quotedLiteral (quote : Char) (value : String) : String :=
  String.ofList (quote :: (escapeQuoted quote value.toList ++ [quote]))

/-- Whether a text can be read, from left to right, with each backslash paired off with the
character behind it, so that no backslash is left at the end. -/
inductive PairsOff : List Char → Prop
  | nil : PairsOff []
  | single {c rest} (hc : c ≠ '\\') (hrest : PairsOff rest) : PairsOff (c :: rest)
  | pair {c rest} (hrest : PairsOff rest) : PairsOff ('\\' :: c :: rest)

/-- Whether a character stands in a text where no backslash is paired off with it. -/
def StandsUnpaired (c : Char) (text : List Char) : Prop :=
  ∃ before after, text = before ++ c :: after ∧ PairsOff before

theorem escapeQuoted_cons (quote c : Char) (rest : List Char) :
    escapeQuoted quote (c :: rest) =
      (if c = '\\' ∨ c = quote then ['\\', c] else [c]) ++ escapeQuoted quote rest :=
  List.flatMap_cons

variable {quote : Char}

/-! ## Closing a literal -/

theorem closeQuoted_quote (hquote : quote ≠ '\\') (rest : List Char) :
    closeQuoted quote (quote :: rest) = some ([quote], [], rest) := by
  rw [closeQuoted, if_pos rfl]
  exact fun _ _ h => absurd h hquote

theorem closeQuoted_backslash (quote c : Char) (rest : List Char) :
    closeQuoted quote ('\\' :: c :: rest) =
      (closeQuoted quote rest).map fun (text, value, after) =>
        ('\\' :: c :: text, (if c = '\\' ∨ c = quote then [c] else ['\\', c]) ++ value, after) := by
  rw [closeQuoted]

theorem closeQuoted_other {c : Char} (hbackslash : c ≠ '\\') (hc : c ≠ quote) (rest : List Char) :
    closeQuoted quote (c :: rest) =
      (closeQuoted quote rest).map fun (text, value, after) => (c :: text, c :: value, after) := by
  rw [closeQuoted, if_neg hc]
  exact fun _ _ h => absurd h hbackslash

/-- What has been escaped is closed by the quote behind it and read back. -/
theorem closeQuoted_escapeQuoted (hquote : quote ≠ '\\') (text after : List Char) :
    closeQuoted quote (escapeQuoted quote text ++ quote :: after) =
      some (escapeQuoted quote text ++ [quote], text, after) := by
  induction text with
  | nil => exact closeQuoted_quote hquote after
  | cons c rest ih =>
      rw [escapeQuoted_cons]
      by_cases hc : c = '\\' ∨ c = quote
      · simp [if_pos hc, closeQuoted_backslash, ih]
      · simp only [not_or] at hc
        simp [hc.1, hc.2, closeQuoted_other, ih]

/-- A literal is closed if and only if its quote stands unpaired behind the one that opens it. -/
theorem isSome_closeQuoted_iff (hquote : quote ≠ '\\') {text : List Char} :
    (closeQuoted quote text).isSome ↔ StandsUnpaired quote text := by
  constructor
  · intro hsome
    fun_induction closeQuoted quote text with
    | case1 => cases hsome
    | case2 c rest ih =>
        obtain ⟨before, after, rfl, hbefore⟩ := ih (by simpa using hsome)
        exact ⟨'\\' :: c :: before, after, rfl, .pair hbefore⟩
    | case3 rest => exact ⟨[], rest, rfl, .nil⟩
    | case4 c rest hescape hc ih =>
        have hbackslash : c ≠ '\\' := by
          rintro rfl
          -- A backslash that is the last character leaves nothing to close the literal.
          cases rest with
          | nil => cases hsome
          | cons d others => exact hescape d others rfl rfl
        obtain ⟨before, after, rfl, hbefore⟩ := ih (by simpa using hsome)
        exact ⟨c :: before, after, rfl, .single hbackslash hbefore⟩
  · rintro ⟨before, after, rfl, hbefore⟩
    induction hbefore with
    | nil => simp [closeQuoted_quote hquote]
    | @single c rest hc _ ih =>
        by_cases hclose : c = quote
        · simp [hclose, closeQuoted_quote hquote]
        · simpa [closeQuoted_other hc hclose] using ih
    | pair _ ih => simpa [closeQuoted_backslash] using ih

/-! ## Scanning a literal -/

namespace Lexicon

variable {lexicon : Lexicon}

/-- What begins with a quote is scanned up to the quote that closes it. -/
theorem scan_of_isQuote (hquote : isQuote quote = true) (rest : List Char) :
    lexicon.scan quote rest =
      match closeQuoted quote rest with
      | some (text, value, after) => .ok ⟨.quoted, quote :: text, value, after⟩
      | none => .error .unterminatedString := by
  have hclass : lexicon.classify quote = .quote := by simp [classify, hquote]
  cases hclosed : closeQuoted quote rest with
  | none => simp [scan, hclass, hclosed]
  | some parts => simp [scan, hclass, hclosed]

theorem scan_quotedLiteral (hquote : isQuote quote = true) (value : String) (rest : List Char) :
    lexicon.scan quote (escapeQuoted quote value.toList ++ quote :: rest) =
      .ok ⟨.quoted, (quotedLiteral quote value).toList, value.toList, rest⟩ := by
  rw [scan_of_isQuote hquote, closeQuoted_escapeQuoted (ne_backslash_of_isQuote hquote),
    quotedLiteral, String.toList_ofList]

theorem scan_eq_unterminatedString_iff (hquote : isQuote quote = true) {rest : List Char} :
    lexicon.scan quote rest = .error .unterminatedString ↔ ¬ StandsUnpaired quote rest := by
  rw [scan_of_isQuote hquote, ← isSome_closeQuoted_iff (ne_backslash_of_isQuote hquote)]
  cases closeQuoted quote rest <;> simp

end Lexicon

/-- Every string can be written as a literal. Wherever it stands and whatever follows it, a literal
is read as one lexeme that has the literal for its text and the string for its value, and reading
goes on behind it. Where a quote is to be read, a string without an end is reported if and only if
no quote of that sort stands unpaired behind it. -/
theorem Cursor.readings_literal (hquote : isQuote quote = true) (lexicon : Lexicon)
    (position : Position) :
    (∀ (value : String) (rest : List Char),
      readings lexicon ⟨(quotedLiteral quote value).toList ++ rest, position⟩ =
        .ok ⟨.quoted, quotedLiteral quote value, value, position⟩ ::
          readings lexicon ⟨rest, position.after (quotedLiteral quote value).toList⟩) ∧
    ∀ rest : List Char,
      (next? lexicon ⟨quote :: rest, position⟩).map Prod.fst =
          some (.error ⟨.unterminatedString, position⟩) ↔
        ¬ StandsUnpaired quote rest := by
  constructor
  · intro value rest
    have hsource : (quotedLiteral quote value).toList ++ rest =
        quote :: (escapeQuoted quote value.toList ++ quote :: rest) := by
      rw [quotedLiteral, String.toList_ofList, List.cons_append, List.append_assoc,
        List.singleton_append]
    rw [hsource, readings_of_next? (next?_of_ok (Lexicon.scan_quotedLiteral hquote value rest)),
      Cut.lexeme, String.ofList_toList, String.ofList_toList]
  · intro rest
    rw [← @Lexicon.scan_eq_unterminatedString_iff _ lexicon hquote]
    cases hscan : lexicon.scan quote rest with
    | error fault => simp [next?_of_error hscan]
    | ok cut => simp [next?_of_ok hscan]

/-- An apostrophe and a backslash are escaped, a double quote is not; and a backslash takes the
last quote of a text with it. -/
theorem Cursor.readings_literal_apostrophe :
    isQuote '\'' = true ∧
      quotedLiteral '\'' "it's \"a\\b\"" = "'it\\'s \"a\\\\b\"'" ∧
      Lexicon.stock.readings "'it\\'s \"a\\\\b\"'" =
        [.ok ⟨.quoted, "'it\\'s \"a\\\\b\"'", "it's \"a\\b\"", .start⟩] ∧
      (next? Lexicon.stock ⟨['\'', 'a', '\\', '\''], .start⟩).map Prod.fst =
        some (.error ⟨.unterminatedString, .start⟩) := by
  obtain ⟨hliteral, hunterminated⟩ :=
    @readings_literal '\'' rfl Lexicon.stock .start
  refine ⟨rfl, rfl, ?_, (hunterminated _).2 ?_⟩
  · have h := hliteral "it's \"a\\b\"" []
    have hend : ∀ position, readings Lexicon.stock ⟨[], position⟩ = [] :=
      fun _ => readings_of_next?_eq_none rfl
    rw [hend] at h
    exact h
  · rw [← isSome_closeQuoted_iff (by decide)]
    decide

end Scriptlet
