/-
# What cannot be scanned

The symbol tables fit together: every character of every script has a class, and with it a way to
scan what it starts. Two things only cannot be scanned, a string that is never closed and a sign
that stands neither for an operator nor in front of a digit. So a lexicon whose operator symbols
include both signs cuts up every source in which no string is left open.
-/

import Scriptlet.Proofs.Labels
import Scriptlet.Proofs.Literals
import Scriptlet.Proofs.Symbols

namespace Scriptlet

namespace Lexicon

/-- The texts that cannot be scanned, by their first character and what follows it, each with the
fault that is found. -/
inductive Spoils (lexicon : Lexicon) : Char → List Char → Fault → Prop
  | openString {quote rest} (hquote : isQuote quote = true) (hopen : ¬ StandsUnpaired quote rest) :
      Spoils lexicon quote rest .unterminatedString
  | bareSign {sign rest} (hsign : sign = '+' ∨ sign = '-')
      (hsymbol : lexicon.isOperatorSymbol sign = false)
      (hnext : ∀ d ∈ rest.head?, d.isDigit = false) :
      Spoils lexicon sign rest (.unexpectedSymbol sign)

/-- Whether a string of the source is never closed: after some lexemes there is a quote to be read,
and no quote of that sort stands unpaired behind it. -/
def LeavesOpen (lexicon : Lexicon) (source : String) : Prop :=
  ∃ before quote rest, before.map .ok <+: lexicon.readings source ∧
    source.toList = Lexeme.texts before ++ quote :: rest ∧ isQuote quote = true ∧
      ¬ StandsUnpaired quote rest

variable {lexicon : Lexicon} {c : Char} {rest : List Char}

/-! ## The classes of characters -/

theorem isWordStart_of_classify (hclass : lexicon.classify c = .word) :
    lexicon.isWordStart c = true := by
  unfold classify at hclass
  grind

/-! ## Faults of a text -/

/-- A sign that is neither an operator symbol nor in front of a digit cannot be scanned. -/
theorem scan_of_bareSign (hsign : c = '+' ∨ c = '-') (hsymbol : lexicon.isOperatorSymbol c = false)
    (hnext : ∀ d ∈ rest.head?, d.isDigit = false) :
    lexicon.scan c rest = .error (.unexpectedSymbol c) := by
  have hclass : lexicon.classify c = .numeric := by rcases hsign with rfl | rfl <;> rfl
  have hdigit : ¬ (rest.head?.map Char.isDigit).getD false = true := by
    cases rest with
    | nil => simp
    | cons d more => simpa using hnext d rfl
  simp only [scan, hclass, scanNumber, if_pos hsign, if_neg hdigit, scanOperator,
    List.takeWhile_cons, hsymbol, Bool.false_eq_true, if_false]

/-- Without signs among the operator symbols a difference cannot be written with a blank. -/
example : { stock with operatorSymbols := "=" }.scan '-' [' ', '1'] =
    .error (.unexpectedSymbol '-') := rfl

theorem scan_eq_error_iff {fault : Fault} :
    lexicon.scan c rest = .error fault ↔ lexicon.Spoils c rest fault := by
  constructor
  · intro hscan
    rcases fault_of_scan hscan with ⟨rfl, hquote⟩ | ⟨rfl, hsign, hsymbol, hnext⟩
    · exact .openString hquote ((scan_eq_unterminatedString_iff hquote).1 hscan)
    · exact .bareSign hsign hsymbol hnext
  · rintro (⟨hquote, hopen⟩ | ⟨hsign, hsymbol, hnext⟩)
    · exact (scan_eq_unterminatedString_iff hquote).2 hopen
    · exact scan_of_bareSign hsign hsymbol hnext

/-- What no fault is found in is scanned, whatever its first character is. -/
theorem exists_scan_of_not_spoils (h : ∀ fault, ¬ lexicon.Spoils c rest fault) :
    ∃ cut, lexicon.scan c rest = .ok cut := by
  cases hscan : lexicon.scan c rest with
  | error fault => exact absurd (scan_eq_error_iff.1 hscan) (h fault)
  | ok cut => exact ⟨cut, rfl⟩

/-! ## Faults of a source -/

variable {source : String}

/-- A fault is found behind the lexemes that have been read. -/
theorem exists_spoils_of_readings {before : List Lexeme} {later : List Reading} {e : LexError}
    (h : lexicon.readings source = before.map .ok ++ .error e :: later) :
    ∃ c rest, source.toList = Lexeme.texts before ++ c :: rest ∧
      e.position = Position.start.after (Lexeme.texts before) ∧ lexicon.Spoils c rest e.fault := by
  obtain ⟨_, after, hsource, hnext⟩ := Cursor.exists_next?_of_readings h
  obtain ⟨c, rest, rfl, ⟨fault, hscan, he⟩ | ⟨_, _, hlexeme, _⟩⟩ :=
    Cursor.exists_scan_of_next? hnext
  · cases he
    exact ⟨c, rest, hsource, rfl, scan_eq_error_iff.1 hscan⟩
  · cases hlexeme

/-- A string is left open if and only if the fault of an unterminated string is found. -/
theorem leavesOpen_iff : lexicon.LeavesOpen source ↔
    ∃ position, .error ⟨.unterminatedString, position⟩ ∈ lexicon.readings source := by
  constructor
  · rintro ⟨before, quote, rest, ⟨later, hreadings⟩, hsource, hquote, hopen⟩
    cases later with
    | nil =>
        -- the lexemes would be the whole source, and the quote would not be there
        have hcuts : Cuts lexicon source.toList .start before none := .of_readings hreadings.symm
        obtain ⟨left, hleft, hnone⟩ := hcuts.exists_rest
        rw [hsource, hnone rfl] at hleft
        simp at hleft
    | cons reading later =>
        obtain ⟨left, after, hleft, hnext⟩ := Cursor.exists_next?_of_readings hreadings.symm
        obtain rfl := List.append_cancel_left (hsource.symm.trans hleft)
        have hscan : lexicon.scan quote rest = .error .unterminatedString :=
          scan_eq_error_iff.2 (.openString hquote hopen)
        rw [Cursor.next?_of_error hscan] at hnext
        cases hnext
        exact ⟨_, hreadings ▸ List.mem_append_right _ List.mem_cons_self⟩
  · rintro ⟨position, hfault⟩
    obtain ⟨lexemes, fault?, -, hreadings⟩ := lexicon.exists_cuts_start source
    have hlast : fault? = some ⟨.unterminatedString, position⟩ := by
      rw [hreadings] at hfault
      simpa using hfault
    subst hlast
    obtain ⟨c, rest, hsource, -, hspoils⟩ := exists_spoils_of_readings hreadings
    cases hspoils with
    | openString hquote hopen =>
        exact ⟨lexemes, c, rest, ⟨_, hreadings.symm⟩, hsource, hquote, hopen⟩

/-- With both signs among the operator symbols an open string is all that can be wrong. -/
theorem exists_lexemes_iff_not_leavesOpen (hplus : lexicon.isOperatorSymbol '+' = true)
    (hminus : lexicon.isOperatorSymbol '-' = true) :
    (∃ lexemes, lexicon.lexemes source = .ok lexemes ∧ Lexeme.texts lexemes = source.toList) ↔
      ¬ lexicon.LeavesOpen source := by
  constructor
  · rintro ⟨lexemes, hlexemes, -⟩ hopen
    obtain ⟨position, hfault⟩ := leavesOpen_iff.1 hopen
    rw [lexicon.lexemes_eq_ok_iff.1 hlexemes] at hfault
    simp at hfault
  · intro hclosed
    obtain ⟨lexemes, fault?, hcuts, hreadings⟩ := lexicon.exists_cuts_start source
    cases fault? with
    | none =>
        obtain ⟨rest, hrest, hnone⟩ := hcuts.exists_rest
        refine ⟨lexemes, lexicon.lexemes_eq_ok_iff.2 (by simpa using hreadings), ?_⟩
        rw [hrest, hnone rfl, List.append_nil]
    | some e =>
        obtain ⟨fault, position⟩ := e
        obtain ⟨c, rest, hsource, -, hspoils⟩ := exists_spoils_of_readings hreadings
        cases hspoils with
        | openString hquote hopen =>
            exact absurd ⟨lexemes, c, rest, ⟨_, hreadings.symm⟩, hsource, hquote, hopen⟩ hclosed
        | bareSign hsign hsymbol =>
            rcases hsign with rfl | rfl
            · cases hplus.symm.trans hsymbol
            · cases hminus.symm.trans hsymbol

/-- A fault of a source is an open string, found at its quote, or a sign that is no operator symbol
and has no digit behind it, found where the sign stands. Everything else is scanned: there is no
character that starts no lexeme, what is taken for a word starts with a character that may start
one, and the punctuation characters are those that have a kind of their own. So with both signs
among the operator symbols a source is cut into lexemes to its end if and only if it leaves no
string open. -/
theorem faults_of_source (lexicon : Lexicon) (source : String) :
    (∀ e, .error e ∈ lexicon.readings source → ∃ front c rest, source.toList = front ++ c :: rest ∧
      e.position = Position.start.after front ∧ lexicon.Spoils c rest e.fault) ∧
    (∀ c rest position, (∀ fault, ¬ lexicon.Spoils c rest fault) →
      ∃ cut : Cut, Cursor.next? lexicon ⟨c :: rest, position⟩ =
        some (.ok (cut.lexeme position), ⟨cut.rest, position.after cut.text⟩)) ∧
    (∀ c, lexicon.classify c ≠ .unknown) ∧
    (∀ c, lexicon.classify c = .word → lexicon.isWordStart c = true) ∧
    (∀ c, isPunctuation c = (Kind.ofPunctuation? c).isSome) ∧
    (lexicon.isOperatorSymbol '+' = true → lexicon.isOperatorSymbol '-' = true →
      ((∃ lexemes, lexicon.lexemes source = .ok lexemes ∧
        Lexeme.texts lexemes = source.toList) ↔ ¬ lexicon.LeavesOpen source)) := by
  refine ⟨fun e he => ?_, fun c rest position h => ?_, classify_ne_unknown,
    fun _ => isWordStart_of_classify, isPunctuation_eq_isSome, exists_lexemes_iff_not_leavesOpen⟩
  · obtain ⟨lexemes, fault?, -, hreadings⟩ := lexicon.exists_cuts_start source
    have hlast : fault? = some e := by
      rw [hreadings] at he
      simpa using he
    subst hlast
    obtain ⟨c, rest, hfault⟩ := exists_spoils_of_readings hreadings
    exact ⟨_, c, rest, hfault⟩
  · obtain ⟨cut, hscan⟩ := exists_scan_of_not_spoils h
    exact ⟨cut, Cursor.next?_of_ok hscan⟩

end Lexicon

end Scriptlet
