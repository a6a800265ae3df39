/-
# Lexicons

The symbol tables a source is cut with. Quotes, white space and punctuation are fixed; a lexicon
chooses the operator symbols, the one of them that stands for assignment, and the words with a
kind of their own. Reserved words are matched exactly, literal words whatever their case.
-/

import Std.Data.TreeMap
import Scriptlet.Lexeme.Kind
import Scriptlet.Text.Blank
import Scriptlet.Text.LowerCase

namespace Scriptlet

/-- Words that have a kind of their own. -/
abbrev WordTable := Std.TreeMap String Kind

/-- The symbol tables a source is cut with. -/
structure Lexicon where
  /-- The characters that make up operators. -/
  operatorSymbols : String
  /-- The operator symbol that, alone, stands for assignment. -/
  assignment : Char
  /-- Reserved words, matched as they are written. -/
  keywords : WordTable
  /-- Literal words, matched in lower case. -/
  literals : WordTable

/-- The two characters that open and close a string literal. -/
def isQuote (c : Char) : Bool := c == '"' || c == '\''

/-- The characters that are lexemes by themselves. -/
def isPunctuation (c : Char) : Bool := ['{', '}', '(', ')', ';', ','].contains c

/-- The characters that are lexemes by themselves are those that have a kind by themselves. -/
theorem isPunctuation_eq_isSome (c : Char) :
    isPunctuation c = (Kind.ofPunctuation? c).isSome := by
  unfold Kind.ofPunctuation?
  split <;> simp_all [isPunctuation]

namespace Lexicon

/-- The tables of the stock language. -/
def stock : Lexicon where
  operatorSymbols := "+-.^*&/|=<>!%"
  assignment := '='
  keywords := Std.TreeMap.ofList
    [("if", Kind.ifWord), ("else", Kind.elseWord), ("elseif", Kind.elseifWord),
      ("while", Kind.whileWord), ("let", Kind.letWord)]
  literals := Std.TreeMap.ofList [("true", Kind.trueWord), ("false", Kind.falseWord)]

variable (lexicon : Lexicon)

/-- Whether a character is part of operators. -/
def isOperatorSymbol (c : Char) : Bool := lexicon.operatorSymbols.toList.contains c

/-- Whether a character may stand inside a word: it belongs to no other class. -/
def isWordSymbol (c : Char) : Bool :=
  !isQuote c && !Text.isBlank c && !isPunctuation c && !lexicon.isOperatorSymbol c

/-- Whether a word may start with a character. -/
def isWordStart (c : Char) : Bool := lexicon.isWordSymbol c && !c.isDigit

/-- The kind of a complete word, if it has one of its own; reserved words come first. -/
def wordKind? (word : String) : Option Kind :=
  lexicon.keywords[word]? <|> lexicon.literals[Text.lowerCase word]?

/-- What a lexeme that starts with a character can be. -/
inductive SymbolClass
  | quote
  | blank
  | punctuation (kind : Kind)
  | numeric
  | operator
  | word
  /-- No lexeme starts with it. -/
  | unknown

/-- What a lexeme that starts with this character can be. The fixed classes win over the chosen
ones; signs and digits are looked at as numbers first. -/
def classify (c : Char) : SymbolClass :=
  if isQuote c then .quote
  else if Text.isBlank c then .blank
  else match Kind.ofPunctuation? c with
    | some kind => .punctuation kind
    | none =>
      if c = '+' ∨ c = '-' ∨ c.isDigit then .numeric
      else if lexicon.isOperatorSymbol c then .operator
      else if lexicon.isWordStart c then .word
      else .unknown

variable {lexicon}

/-- A character that belongs to no other class may start a word. -/
theorem classify_ne_unknown (c : Char) : lexicon.classify c ≠ .unknown := by
  have hpunctuation := isPunctuation_eq_isSome c
  unfold classify
  grind [isWordStart, isWordSymbol]

end Lexicon

end Scriptlet
