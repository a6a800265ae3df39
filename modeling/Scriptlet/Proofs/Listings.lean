/-
# Listings lose nothing

A listing shows every lexeme on a line of its own. The quotes of the last column keep the line feeds
of the source out of the lines, and no other column contains a double quote; so the last column can
be found and read back, and what is read back is the source, piece by piece. The first column tells
the position, which has the pieces on the lines before it as its offset.
-/

import Mathlib.Algebra.GroupWithZero.Nat
import Mathlib.Data.List.Forall2
import Scriptlet.Command.Run
import Scriptlet.Proofs.Boundaries
import Scriptlet.Proofs.Offsets
import Scriptlet.Proofs.Unquoting

namespace Scriptlet

namespace Command

/-! ## Reading a line -/

/-- The text in the last column of a line, which starts with the first double quote. -/
def textOfLine? (line : String) : Option String :=
  Text.unquote? (String.ofList (line.toList.dropWhile (· ≠ '"')))

/-- The position in the first column of a line, behind some blanks. -/
def positionOfLine? (line : String) : Option Position :=
  let place := line.toList.dropWhile (· = ' ')
  match place.dropWhile Char.isDigit with
  | ':' :: rest =>
    some ⟨Nat.ofDigitChars 10 (place.takeWhile Char.isDigit) 0,
      Nat.ofDigitChars 10 (rest.takeWhile Char.isDigit) 0⟩
  | _ => none

/-- A line that shows a lexeme: it ends in the text of the lexeme between quotes, and text and
position can be read off it. -/
structure Shows (line : String) (lexeme : Lexeme) : Prop where
  oneLine : '\n' ∉ line.toList
  ending : ∃ front, line = front ++ Text.quote lexeme.text
  text : textOfLine? line = some lexeme.text
  position : positionOfLine? line = some lexeme.position

/-! ## The line of a lexeme -/

/-- The columns in front of the text of a lexeme. -/
def columns (lexeme : Lexeme) : String :=
  padLeft 4 (toString lexeme.position.line) ++ ":"
    ++ padRight 4 (toString lexeme.position.column) ++ " " ++ padRight 12 lexeme.kind.name ++ " "

/-- The line of a lexeme without the line feed that ends it. -/
def shownLine (lexeme : Lexeme) : String := columns lexeme ++ Text.quote lexeme.text

theorem listing_eq (lexemes : List Lexeme) :
    listing lexemes = String.join ((lexemes.map shownLine).map (· ++ "\n")) := by
  rw [listing, List.map_map]
  rfl

theorem toList_padLeft (width : Nat) (text : String) :
    ∃ blanks, (padLeft width text).toList = List.replicate blanks ' ' ++ text.toList :=
  ⟨width - text.length, by simp [padLeft]⟩

theorem toList_padRight (width : Nat) (text : String) :
    ∃ blanks, (padRight width text).toList = text.toList ++ List.replicate blanks ' ' :=
  ⟨width - text.length, by simp [padRight]⟩

/-- The columns are blanks, digits and the name of a kind, around one colon. -/
theorem toList_columns (lexeme : Lexeme) : ∃ left between right,
    (columns lexeme).toList =
      List.replicate left ' ' ++ (Nat.toDigits 10 lexeme.position.line ++ ':' ::
        (Nat.toDigits 10 lexeme.position.column ++ (List.replicate between ' ' ++ ' ' ::
          (lexeme.kind.name.toList ++ (List.replicate right ' ' ++ [' ']))))) := by
  obtain ⟨left, hleft⟩ := toList_padLeft 4 (toString lexeme.position.line)
  obtain ⟨between, hbetween⟩ := toList_padRight 4 (toString lexeme.position.column)
  obtain ⟨right, hright⟩ := toList_padRight 12 lexeme.kind.name
  refine ⟨left, between, right, ?_⟩
  simp only [columns, String.toList_append, hleft, hbetween, hright]
  simp

theorem isDigit_of_mem_toDigits {c : Char} {n : Nat} (hc : c ∈ Nat.toDigits 10 n) :
    c.isDigit = true :=
  Nat.isDigit_of_mem_toDigits (by decide) (by decide) hc

theorem notMem_toDigits {c : Char} (hc : c.isDigit = false) (n : Nat) : c ∉ Nat.toDigits 10 n :=
  fun hmem => by cases hc.symm.trans (isDigit_of_mem_toDigits hmem)

/-- No column but the last has a double quote or a line feed in it. -/
theorem notMem_columns {c : Char} (hc : c = '"' ∨ c = '\n') (lexeme : Lexeme) :
    c ∉ (columns lexeme).toList := by
  have hname : ∀ kind : Kind, '"' ∉ kind.name.toList ∧ '\n' ∉ kind.name.toList := by
    intro kind
    cases kind <;> decide
  obtain ⟨left, between, right, hcolumns⟩ := toList_columns lexeme
  rw [hcolumns]
  rcases hc with rfl | rfl
  · simp [hname, notMem_toDigits]
  · simp [hname, notMem_toDigits]

theorem textOfLine?_shownLine (lexeme : Lexeme) :
    textOfLine? (shownLine lexeme) = some lexeme.text := by
  have hcolumns : ∀ c ∈ (columns lexeme).toList, decide (c ≠ '"') = true := fun c hc =>
    decide_eq_true fun hquote => notMem_columns (.inl rfl) lexeme (hquote ▸ hc)
  have hquote : (Text.quote lexeme.text).toList.dropWhile (· ≠ '"') =
      (Text.quote lexeme.text).toList := by
    simp [Text.quote]
  rw [textOfLine?, shownLine, String.toList_append, List.dropWhile_append_of_pos hcolumns, hquote,
    String.ofList_toList, Text.unquote?_quote]

theorem positionOfLine?_shownLine (lexeme : Lexeme) :
    positionOfLine? (shownLine lexeme) = some lexeme.position := by
  obtain ⟨left, between, right, hcolumns⟩ := toList_columns lexeme
  have hnumber : ∀ (n : Nat) (rest : List Char),
      ∀ d ∈ (Nat.toDigits 10 n ++ rest).head?, decide (d = ' ') = false := by
    intro n rest d hd
    obtain ⟨first, more, hdigits⟩ := List.exists_cons_of_ne_nil (@Nat.toDigits_ne_nil n 10)
    rw [hdigits] at hd
    cases hd
    have hfirst := isDigit_of_mem_toDigits (hdigits ▸ List.mem_cons_self)
    exact decide_eq_false fun hblank => by cases hblank ▸ hfirst
  have hblanks : ∀ d ∈ List.replicate left ' ', decide (d = ' ') = true := by simp
  have hcolon : ∀ rest, ∀ d ∈ (':' :: rest).head?, d.isDigit = false := by simp
  have hblank : ∀ rest, ∀ d ∈ (List.replicate between ' ' ++ ' ' :: rest).head?,
      d.isDigit = false := by
    cases between <;> simp [List.replicate_succ]
  have hdigits : ∀ n, ∀ d ∈ Nat.toDigits 10 n, d.isDigit = true := fun _ _ =>
    isDigit_of_mem_toDigits
  simp only [positionOfLine?, shownLine, String.toList_append, hcolumns, List.append_assoc,
    List.cons_append]
  rw [dropWhile_append_of_stop hblanks (hnumber _ _),
    dropWhile_append_of_stop (hdigits _) (hcolon _),
    takeWhile_append_of_stop (hdigits _) (hcolon _)]
  change some (Position.mk (Nat.ofDigitChars 10 (Nat.toDigits 10 _) 0)
    (Nat.ofDigitChars 10 (List.takeWhile _ _) 0)) = _
  rw [takeWhile_append_of_stop (hdigits _) (hblank _), Nat.ofDigitChars_ten_toDigits,
    Nat.ofDigitChars_ten_toDigits]

/-- Every lexeme is shown by its line. -/
theorem shows_shownLine (lexeme : Lexeme) : Shows (shownLine lexeme) lexeme where
  oneLine := by
    rw [shownLine, String.toList_append, List.mem_append, not_or]
    exact ⟨notMem_columns (.inr rfl) lexeme, Text.newline_notMem_quote lexeme.text⟩
  ending := ⟨columns lexeme, rfl⟩
  text := textOfLine?_shownLine lexeme
  position := positionOfLine?_shownLine lexeme

/-- A line feed is shown as an escape. -/
example : shownLine ⟨.quoted, "'\n'", "\n", ⟨1, 2⟩⟩ = "   1:2    quoted       \"'\\n'\"" := by
  decide +kernel

/-! ## The lines of a source -/

theorem mapM_textOfLine? (lexemes : List Lexeme) :
    (lexemes.map shownLine).mapM textOfLine? = some (lexemes.map Lexeme.text) := by
  induction lexemes with
  | nil => rfl
  | cons lexeme rest ih =>
      rw [List.map_cons, List.mapM_cons, textOfLine?_shownLine, ih]
      rfl

theorem forall₂_shows (lexemes : List Lexeme) :
    List.Forall₂ Shows (lexemes.map shownLine) lexemes := by
  rw [List.forall₂_map_left_iff, List.forall₂_same]
  exact fun lexeme _ => shows_shownLine lexeme

theorem sum_utf8ByteSize (lexemes : List Lexeme) :
    ((lexemes.map Lexeme.text).map String.utf8ByteSize).sum = Lexeme.byteLength lexemes := by
  induction lexemes with
  | nil => rfl
  | cons lexeme rest ih => simp only [List.map_cons, List.sum_cons, ih, Lexeme.byteLength]

variable {lexicon : Lexicon} {source : String} {lexemes : List Lexeme}

theorem scanSource_file (dialect : Dialect) (path source : String) :
    scanSource dialect path (some (.file (some source))) =
      (dialect.lexicon.lexemes source).mapError fun e => .source (.of source (.scan e)) := rfl

/-- The texts of the lexemes make up a source that is cut to its end. -/
theorem join_texts (h : lexicon.lexemes source = .ok lexemes) :
    String.join (lexemes.map Lexeme.text) = source := by
  have hcuts : Cuts lexicon source.toList .start lexemes none :=
    .of_readings ((lexicon.lexemes_eq_ok_iff.1 h).trans (List.append_nil _).symm)
  obtain ⟨rest, hrest, hnone⟩ := hcuts.exists_rest
  rw [← String.toList_inj, String.toList_join, hrest, hnone rfl, List.append_nil,
    List.flatMap_map]
  rfl

/-- A lexeme stands behind the bytes of the lexemes before it. -/
theorem offset?_of_lexemes {before after : List Lexeme} {lexeme : Lexeme}
    (h : lexicon.lexemes source = .ok (before ++ lexeme :: after)) :
    Source.offset? source lexeme.position = some (Lexeme.byteLength before) := by
  have hreadings : lexicon.readings source = before.map .ok ++ .ok lexeme :: after.map .ok := by
    rw [lexicon.lexemes_eq_ok_iff.1 h, List.map_append, List.map_cons]
  obtain ⟨rest, _, hrest, hnext⟩ := Cursor.exists_next?_of_readings hreadings
  have hposition : lexeme.position = Position.start.after (Lexeme.texts before) :=
    Cursor.position_of_next? hnext
  refine Source.offset?_eq_some_iff.2 ⟨String.ofList (Lexeme.texts before), String.ofList rest,
    ?_, ?_, ?_⟩
  · rw [← String.ofList_append, ← String.toList_inj, String.toList_ofList]
    exact hrest
  · rw [Source.utf8ByteSize_ofList, Lexeme.byteLength_texts]
  · rw [String.toList_ofList, hposition]

/-- The listing of a source that can be cut up has one line for each lexeme, in order, and nothing
fails. What is read back from the last columns makes up the source, and the position in front of
each line has as its offset the bytes that are read back from the lines before it. -/
theorem listing_lossless {files : Files} {dialectFile : Option String} {dialect : Dialect}
    {file : String} (hdialect : loadDialect files dialectFile = .ok dialect)
    (hfile : files file = some (.file (some source)))
    (hlexemes : dialect.lexicon.lexemes source = .ok lexemes) (route : Bool) :
    ∃ lines : List String,
      Arguments.run files ⟨dialectFile, route, .tokens file false⟩ =
        .success (String.join (lines.map (· ++ "\n"))) ∧
      List.Forall₂ Shows lines lexemes ∧
      (lines.mapM textOfLine?).map String.join = some source ∧
      ∀ before line after, lines = before ++ line :: after → ∃ texts position,
        before.mapM textOfLine? = some texts ∧ positionOfLine? line = some position ∧
          Source.offset? source position = some (texts.map String.utf8ByteSize).sum := by
  refine ⟨lexemes.map shownLine, ?_, forall₂_shows lexemes, ?_, ?_⟩
  · have hscan : scanSource dialect file (files file) = .ok lexemes := by
      rw [hfile, scanSource_file, hlexemes]
      rfl
    rw [Arguments.run, hdialect]
    simp only [perform, hscan, listing_eq, Bool.false_eq_true, if_false]
  · rw [mapM_textOfLine?, Option.map_some, join_texts hlexemes]
  · intro before line after hlines
    obtain ⟨first, others, rfl, rfl, hothers⟩ := List.map_eq_append_iff.1 hlines
    obtain ⟨lexeme, later, rfl, rfl, rfl⟩ := List.map_eq_cons_iff.1 hothers
    refine ⟨_, _, mapM_textOfLine? first, positionOfLine?_shownLine lexeme, ?_⟩
    rw [sum_utf8ByteSize, offset?_of_lexemes hlexemes]

/-- A tab and a line feed are shown on two lines. -/
theorem listing_lossless_lineFeed : ∃ lines : List String,
    Arguments.run (fun _ => some (.file (some "\t'\n'"))) ⟨none, false, .tokens "a.jsl" false⟩ =
      .success (String.join (lines.map (· ++ "\n"))) ∧
    List.Forall₂ Shows lines
      [.plain .whitespace "\t" ⟨1, 1⟩, ⟨.quoted, "'\n'", "\n", ⟨1, 2⟩⟩] ∧
    (lines.mapM textOfLine?).map String.join = some "\t'\n'" := by
  have hblank : Lexicon.stock.scan '\t' ['\'', '\n', '\''] =
      .ok (.plain .whitespace ['\t'] ['\'', '\n', '\'']) := rfl
  have hquoted : Lexicon.stock.scan '\'' ['\n', '\''] =
      .ok ⟨.quoted, ['\'', '\n', '\''], ['\n'], []⟩ := rfl
  have hcuts : Cuts Lexicon.stock "\t'\n'".toList .start _ none :=
    .lexeme hblank (.lexeme hquoted .done)
  have hlexemes := Lexicon.stock.lexemes_eq_ok_iff.2 (hcuts.readings_eq.trans (List.append_nil _))
  obtain ⟨lines, hrun, hshows, hjoin, -⟩ := @listing_lossless _ _
    (fun _ => some (.file (some "\t'\n'"))) none .stock "a.jsl" rfl rfl hlexemes false
  exact ⟨lines, hrun, hshows, hjoin⟩

end Command

end Scriptlet
