/-
# Kinds of lexemes

A kind is what the grammar sees of a lexeme. Every kind has a stable name, under which it appears
in routes, in listings and in dialect files.
-/

namespace Scriptlet

/-- What sort of lexeme a piece of source text is. -/
inductive Kind
  | quoted
  | identifier
  | whitespace
  | parenOpen
  | parenClose
  | braceOpen
  | braceClose
  | semiColon
  | comma
  | number
  | operator
  | equals
  | ifWord
  | elseWord
  | elseifWord
  | whileWord
  | letWord
  | trueWord
  | falseWord
  deriving DecidableEq

namespace Kind

/-- The stable name of a kind. -/
def name : Kind → String
  | quoted => "quoted"
  | identifier => "identifier"
  | whitespace => "whitespace"
  | parenOpen => "paren-open"
  | parenClose => "paren-close"
  | braceOpen => "brace-open"
  | braceClose => "brace-close"
  | semiColon => "semi-colon"
  | comma => "comma"
  | number => "number"
  | operator => "operator"
  | equals => "equals"
  | ifWord => "if"
  | elseWord => "else"
  | elseifWord => "elseif"
  | whileWord => "while"
  | letWord => "let"
  | trueWord => "true"
  | falseWord => "false"

instance : ToString Kind := ⟨name⟩

/-- Every kind. -/
def all : List Kind :=
  [quoted, identifier, whitespace, parenOpen, parenClose, braceOpen, braceClose, semiColon, comma,
    number, operator, equals, ifWord, elseWord, elseifWord, whileWord, letWord, trueWord,
    falseWord]

/-- The kind of a given name. -/
def ofName? (name : String) : Option Kind := all.find? (·.name == name)

theorem ofName?_name (kind : Kind) : ofName? kind.name = some kind := by
  cases kind <;> decide

/-- The kind of a character that is a lexeme by itself. -/
def ofPunctuation? : Char → Option Kind
  | '{' => some braceOpen
  | '}' => some braceClose
  | '(' => some parenOpen
  | ')' => some parenClose
  | ';' => some semiColon
  | ',' => some comma
  | _ => none

end Kind

end Scriptlet
