/-
# Symbols that stand alone

The operators of a valid dialect are made up of operator symbols, and its assignment symbol is one
of them. To be read back when it stands alone a symbol needs more. The scanner looks at the first
character and takes it for a quote, white space, punctuation or a digit before it takes it for an
operator, and a sign with a digit after it for a number. A symbol that begins in none of these ways
is cut off whole and as what it has been registered for; any other symbol never is.
-/

import Scriptlet.Dialect.Basic
import Scriptlet.Proofs.Numerals
import Scriptlet.Proofs.Scanning

namespace Scriptlet

/-- Whether a text begins like an operator: its first character belongs to none of the classes that
are looked at first, and is no sign with a digit after it. -/
def BeginsOperator : List Char → Prop
  | [] => False
  | c :: rest =>
    isQuote c = false ∧ Text.isBlank c = false ∧ isPunctuation c = false ∧ c.isDigit = false ∧
      (c = '+' ∨ c = '-' → (rest.head?.map Char.isDigit).getD false = false)

instance : DecidablePred BeginsOperator
  | [] => inferInstanceAs (Decidable False)
  | _ :: _ => inferInstanceAs (Decidable (_ ∧ _ ∧ _ ∧ _ ∧ _))

namespace Lexicon

/-- Whether a symbol, standing alone, is read as one lexeme of a kind. -/
def ReadsAlone (lexicon : Lexicon) (symbol : String) (kind : Kind) : Prop :=
  ∃ lexeme, lexicon.readings symbol = [.ok lexeme] ∧ lexeme.kind = kind ∧ lexeme.text = symbol

variable {lexicon : Lexicon} {c : Char} {rest : List Char} {cut : Cut}

/-- A run of operator symbols is cut off whole. -/
theorem scanOperator_eq_of_forall (h : ∀ d ∈ c :: rest, lexicon.isOperatorSymbol d = true) :
    lexicon.scanOperator c rest = .ok (.plain
      (if c :: rest = [lexicon.assignment] then .equals else .operator) (c :: rest) []) := by
  have htake : (c :: rest).takeWhile lexicon.isOperatorSymbol = c :: rest :=
    List.takeWhile_eq_self_iff.2 h
  have hdrop : (c :: rest).dropWhile lexicon.isOperatorSymbol = [] :=
    List.dropWhile_eq_nil_iff.2 h
  unfold scanOperator
  rw [htake, hdrop]
  cases rest <;> simp

/-- What begins like an operator is scanned as one. -/
theorem scan_of_beginsOperator (hbegins : BeginsOperator (c :: rest))
    (hc : lexicon.isOperatorSymbol c = true) :
    lexicon.scan c rest = lexicon.scanOperator c rest := by
  obtain ⟨hquote, hblank, hpunctuation, hdigit, hsign⟩ := hbegins
  have hkind : Kind.ofPunctuation? c = none := by
    simpa [isPunctuation_eq_isSome] using hpunctuation
  by_cases hsigned : c = '+' ∨ c = '-'
  · have hclass : lexicon.classify c = .numeric := by
      have : c = '+' ∨ c = '-' ∨ c.isDigit = true := hsigned.imp_right .inl
      simp [classify, hquote, hblank, hkind, this]
    simp only [scan, hclass, scanNumber, if_pos hsigned, hsign hsigned, Bool.false_eq_true,
      if_false]
  · have hclass : lexicon.classify c = .operator := by
      rw [not_or] at hsigned
      simp [classify, hquote, hblank, hkind, hsigned, hdigit, hc]
    simp only [scan, hclass]

/-- What is cut off as an operator begins like one. The cases are the classes of the first
character; all but numbers and operators decide the kind alone. -/
theorem beginsOperator_of_scan (hc : lexicon.isOperatorSymbol c = true)
    (hscan : lexicon.scan c rest = .ok cut) (hkind : cut.kind ∈ [.equals, .operator]) :
    BeginsOperator (c :: rest) := by
  have hkinds := kind_of_scan hscan
  cases hclass : lexicon.classify c with
  | quote | blank =>
      rw [hclass] at hkinds
      simp [hkinds] at hkind
  | punctuation kind =>
      have hpunctuation := mem_of_ofPunctuation? (ofPunctuation?_of_classify hclass)
      rw [hclass] at hkinds
      subst hkinds
      simp only [List.mem_cons, List.not_mem_nil, or_false] at hpunctuation hkind
      rcases hkind with hkind | hkind <;> simp [hkind] at hpunctuation
  | numeric =>
      obtain ⟨hquote, hblank, hpunctuation⟩ : isQuote c = false ∧ Text.isBlank c = false ∧
          Kind.ofPunctuation? c = none := by
        unfold classify at hclass
        grind
      have hnumber : lexicon.scanNumber c rest = .ok cut := by rwa [scan, hclass] at hscan
      unfold scanNumber at hnumber
      split at hnumber
      · next hsign =>
          split at hnumber
          · cases hnumber
            simp [Cut.plain] at hkind
          · next hdigit =>
              have hc : c.isDigit = false := by rcases hsign with rfl | rfl <;> rfl
              exact ⟨hquote, hblank, by simp [isPunctuation_eq_isSome, hpunctuation], hc,
                fun _ => Bool.not_eq_true _ ▸ hdigit⟩
      · cases hnumber
        simp [Cut.plain] at hkind
  | operator =>
      obtain ⟨hquote, hblank, hpunctuation, hnumeric⟩ : isQuote c = false ∧
          Text.isBlank c = false ∧ Kind.ofPunctuation? c = none ∧
            ¬ (c = '+' ∨ c = '-' ∨ c.isDigit = true) := by
        unfold classify at hclass
        grind
      simp only [not_or, Bool.not_eq_true] at hnumeric
      exact ⟨hquote, hblank, by simp [isPunctuation_eq_isSome, hpunctuation], hnumeric.2.2,
        fun hsign => by simp [hnumeric] at hsign⟩
  | word =>
      unfold classify at hclass
      grind
  | unknown => exact absurd hclass (classify_ne_unknown c)

/-- A text is read as one lexeme if that lexeme is cut off it and nothing is left. -/
theorem readings_eq_singleton_iff {symbol : String} {lexeme : Lexeme}
    (hsymbol : symbol.toList = c :: rest) :
    lexicon.readings symbol = [.ok lexeme] ↔
      ∃ cut, lexicon.scan c rest = .ok cut ∧ cut.rest = [] ∧ cut.lexeme .start = lexeme := by
  rw [readings, Cursor.ofString, hsymbol]
  constructor
  · intro h
    have hcuts : Cuts lexicon (c :: rest) .start [lexeme] none := .of_readings h
    cases hcuts with
    | lexeme hscan hrest =>
        obtain ⟨left, hleft, hnone⟩ := hrest.exists_rest
        exact ⟨_, hscan, hleft.trans (hnone rfl), rfl⟩
  · rintro ⟨cut, hscan, hrest, rfl⟩
    have hdone : Cuts lexicon cut.rest (Position.start.after cut.text) [] none := hrest ▸ .done
    exact (Cuts.lexeme hscan hdone).readings_eq

/-- A symbol made up of operator symbols is read, standing alone, as one operator or as the
assignment if it begins like an operator, and otherwise as neither. -/
theorem readsAlone_iff {symbol : String} {kind : Kind} (hnonempty : symbol ≠ "")
    (hsymbols : ∀ d ∈ symbol.toList, lexicon.isOperatorSymbol d = true)
    (hkind : kind = if symbol = String.singleton lexicon.assignment then .equals else .operator) :
    lexicon.ReadsAlone symbol kind ↔ BeginsOperator symbol.toList := by
  obtain ⟨c, rest, hsymbol⟩ := List.exists_cons_of_ne_nil (mt String.toList_eq_nil_iff.1 hnonempty)
  rw [hsymbol] at hsymbols ⊢
  have hc := hsymbols c List.mem_cons_self
  simp only [ReadsAlone, readings_eq_singleton_iff hsymbol]
  constructor
  · rintro ⟨lexeme, ⟨cut, hscan, -, rfl⟩, hcut, -⟩
    refine beginsOperator_of_scan hc hscan ?_
    have hlexeme : cut.kind = kind := hcut
    rw [hlexeme, hkind]
    split <;> simp
  · intro hbegins
    have hscan := scan_of_beginsOperator hbegins hc
    rw [scanOperator_eq_of_forall hsymbols] at hscan
    refine ⟨_, ⟨_, hscan, rfl, rfl⟩, ?_, ?_⟩
    · have hassignment : c :: rest = [lexicon.assignment] ↔
          symbol = String.singleton lexicon.assignment := by
        rw [← hsymbol, ← String.toList_inj, String.toList_singleton]
      rw [hkind]
      exact if_congr hassignment rfl rfl
    · rw [Cut.lexeme, Cut.plain, ← hsymbol, String.ofList_toList]

end Lexicon

namespace Dialect

variable {dialect : Dialect}

theorem validate_eq_ok_iff : dialect.validate = .ok () ↔
    dialect.lexicon.isOperatorSymbol dialect.lexicon.assignment = true ∧
      ∀ symbol ∈ dialect.operators.symbols, dialect.isLexable symbol = true := by
  unfold validate
  cases hassignment : dialect.lexicon.isOperatorSymbol dialect.lexicon.assignment with
  | false => simp
  | true =>
      cases hfind : dialect.operators.symbols.find? (!dialect.isLexable ·) with
      | none => simpa using hfind
      | some symbol =>
          have hmem := List.mem_of_find?_eq_some hfind
          have hsymbol := List.find?_some hfind
          simp only [Bool.not_eq_true'] at hsymbol
          simpa using ⟨symbol, hmem, hsymbol⟩

theorem isLexable_iff {symbol : String} : dialect.isLexable symbol = true ↔
    symbol ≠ "" ∧ symbol ≠ String.singleton dialect.lexicon.assignment ∧
      ∀ d ∈ symbol.toList, dialect.lexicon.isOperatorSymbol d = true := by
  simp [isLexable, and_assoc]

/-- The symbols of a valid dialect are read back, standing alone, exactly if they begin like
operators: an operator as one operator, and the assignment symbol as an assignment. -/
theorem readsAlone_of_validate (h : dialect.validate = .ok ()) :
    (∀ symbol ∈ dialect.operators.symbols,
      dialect.lexicon.ReadsAlone symbol .operator ↔ BeginsOperator symbol.toList) ∧
    (dialect.lexicon.ReadsAlone (String.singleton dialect.lexicon.assignment) .equals ↔
      BeginsOperator [dialect.lexicon.assignment]) := by
  obtain ⟨hassignment, hsymbols⟩ := validate_eq_ok_iff.1 h
  constructor
  · intro symbol hsymbol
    obtain ⟨hnonempty, hother, hrun⟩ := isLexable_iff.1 (hsymbols symbol hsymbol)
    exact Lexicon.readsAlone_iff hnonempty hrun (if_neg hother).symm
  · have hrun : ∀ d ∈ (String.singleton dialect.lexicon.assignment).toList,
        dialect.lexicon.isOperatorSymbol d = true := by
      simpa using hassignment
    have halone := Lexicon.readsAlone_iff String.singleton_ne_empty hrun (if_pos rfl).symm
    rwa [String.toList_singleton] at halone

/-- A dialect with an operator that steps by one. The digit is one of its operator symbols. -/
def stepping (level : Level) : Dialect :=
  ⟨{ Lexicon.stock with operatorSymbols := "+-=1" }, .ofList [("+1", level), ("-", level)]⟩

theorem validate_stepping : (stepping 0).validate = .ok () := by
  decide

theorem readsAlone_of_validate_stepping :
    (stepping 0).lexicon.ReadsAlone "-" .operator ∧
      ¬ (stepping 0).lexicon.ReadsAlone "+1" .operator ∧
      (stepping 0).lexicon.ReadsAlone "=" .equals := by
  obtain ⟨hsymbols, hassignment⟩ := readsAlone_of_validate validate_stepping
  refine ⟨(hsymbols "-" (by decide)).2 (by decide), ?_, hassignment.2 (by decide)⟩
  rw [hsymbols "+1" (by decide)]
  decide

/-- The operator of the dialect that steps by one is read as a number. -/
theorem not_forall_readsAlone : ¬ ∀ dialect : Dialect, dialect.validate = .ok () →
    (∀ symbol ∈ dialect.operators.symbols, dialect.lexicon.ReadsAlone symbol .operator) ∧
      dialect.lexicon.ReadsAlone (String.singleton dialect.lexicon.assignment) .equals := by
  intro h
  obtain ⟨lexeme, hreadings, hkind, -⟩ := (h (stepping 0) validate_stepping).1 "+1" (by decide)
  have hsymbol : "+1".toList = '+' :: ['1'] := rfl
  obtain ⟨cut, hscan, -, rfl⟩ := (Lexicon.readings_eq_singleton_iff hsymbol).1 hreadings
  have hnumber : (stepping 0).lexicon.scan '+' ['1'] = .ok (.plain .number ['+', '1'] []) := rfl
  cases hscan.symm.trans hnumber
  cases hkind

end Dialect

end Scriptlet
