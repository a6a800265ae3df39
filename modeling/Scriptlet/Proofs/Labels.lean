/-
# Labels of parse errors

A diagnosis finds the place of an error again from a line, a column and a number of characters, and
knows nothing of how the source was cut. It hits what the error is about nevertheless: the lexeme
that is rejected, the first character of the lexeme after which a statement should have ended, or
the character at which scanning stopped. Every error of a parse is about one of these.
-/

import Scriptlet.Proofs.Boundaries
import Scriptlet.Proofs.Earliest
import Scriptlet.Proofs.Numerals
import Scriptlet.Proofs.Offsets

namespace Scriptlet

/-! ## Stretches of a source -/

/-- A span that covers the text `marked` of a source, where it stands after `front`. -/
structure Span.Covers (span : Span) (source front marked : String) : Prop where
  whole : ∃ back, source = front ++ marked ++ back
  offset : span.offset = front.utf8ByteSize
  length : span.length = marked.utf8ByteSize
  nonempty : 0 < span.length
  starts : String.Pos.Raw.IsValid source ⟨span.offset⟩
  ends : String.Pos.Raw.IsValid source ⟨span.offset + span.length⟩

/-- An error whose place and width are those of the text `marked` of a source. -/
structure ParseError.StandsAt (e : ParseError) (source front marked : String) : Prop where
  whole : ∃ back, source = front ++ marked ++ back
  nonempty : marked ≠ ""
  position : e.position? = some (Position.start.after front.toList)
  width : e.width = marked.length

variable {source front marked : String} {e : ParseError}

theorem Span.covers_of_eq_append {back label : String} (hsource : source = front ++ marked ++ back)
    (hmarked : marked ≠ "") :
    Span.Covers ⟨front.utf8ByteSize, marked.utf8ByteSize, label⟩ source front marked := by
  refine ⟨⟨back, hsource⟩, rfl, rfl, ?_, ?_, ?_⟩
  · exact Nat.pos_of_ne_zero (mt String.utf8ByteSize_eq_zero_iff.1 hmarked)
  · rw [hsource, String.append_assoc]
    exact String.Pos.Raw.isValid_iff_exists_append.2 ⟨front, marked ++ back, rfl, rfl⟩
  · refine String.Pos.Raw.isValid_iff_exists_append.2 ⟨front ++ marked, back, hsource, ?_⟩
    exact String.Pos.Raw.ext String.utf8ByteSize_append.symm

/-- An error is labelled where it stands. -/
theorem ParseError.StandsAt.exists_span (h : e.StandsAt source front marked) :
    ∃ span, e.span? source = some span ∧ span.Covers source front marked := by
  obtain ⟨⟨back, hsource⟩, hmarked, hposition, hwidth⟩ := h
  have hcovers := @Span.covers_of_eq_append _ _ _ back e.label hsource hmarked
  refine ⟨_, ?_, hcovers⟩
  have hlocate : Source.locate? (Position.start.after front.toList) .start source.toList =
      some (front.utf8ByteSize, marked.toList ++ back.toList) := by
    rw [hsource, String.toList_append, String.toList_append, List.append_assoc,
      Source.locate?_after, Source.byteLength_toList]
  have htake : (marked.toList ++ back.toList).take e.width = marked.toList := by
    rw [hwidth, ← String.length_toList, List.take_left]
  have hlength : max (Source.byteLength marked.toList) 1 = marked.utf8ByteSize := by
    rw [Source.byteLength_toList]
    exact Nat.max_eq_left hcovers.nonempty
  simp only [span?, hposition, hlocate, htake, hlength, Option.bind_eq_bind, Option.bind_some,
    Option.pure_def]

/-! ## What is read where -/

namespace Lexicon

variable {lexicon : Lexicon} {c : Char} {rest : List Char}

theorem fault_of_scanOperator {fault : Fault}
    (hscan : lexicon.scanOperator c rest = .error fault) :
    fault = .unexpectedSymbol c ∧ lexicon.isOperatorSymbol c = false := by
  unfold scanOperator at hscan
  split at hscan
  · next hnone =>
      cases hscan
      refine ⟨rfl, ?_⟩
      by_contra hsymbol
      simp [hsymbol] at hnone
  · cases hscan
  · cases hscan

theorem fault_of_scanNumber {fault : Fault} (hscan : lexicon.scanNumber c rest = .error fault) :
    fault = .unexpectedSymbol c ∧ (c = '+' ∨ c = '-') ∧ lexicon.isOperatorSymbol c = false ∧
      ∀ d ∈ rest.head?, d.isDigit = false := by
  unfold scanNumber at hscan
  split at hscan
  · next hsign =>
      split at hscan
      · cases hscan
      · next hdigit =>
          obtain ⟨hfault, hsymbol⟩ := fault_of_scanOperator hscan
          refine ⟨hfault, hsign, hsymbol, fun d hd => ?_⟩
          simpa [Option.mem_def.1 hd] using hdigit
  · cases hscan

/-- A text cannot be scanned if its first quote is not closed, or if it starts with a sign that is
neither an operator nor in front of a digit. -/
theorem fault_of_scan {fault : Fault} (hscan : lexicon.scan c rest = .error fault) :
    fault = .unterminatedString ∧ isQuote c = true ∨
      fault = .unexpectedSymbol c ∧ (c = '+' ∨ c = '-') ∧ lexicon.isOperatorSymbol c = false ∧
        ∀ d ∈ rest.head?, d.isDigit = false := by
  unfold scan at hscan
  split at hscan
  · next hclass =>
      split at hscan
      · cases hscan
      · cases hscan
        exact .inl ⟨rfl, isQuote_of_classify hclass⟩
  · cases hscan
  · cases hscan
  · exact .inr (fault_of_scanNumber hscan)
  · next hclass =>
      -- what is classified as an operator can be scanned as one
      have hsymbol := (fault_of_scanOperator hscan).2
      unfold classify at hclass
      grind
  · cases hscan
  · next hclass => exact absurd hclass (classify_ne_unknown c)

/-- A reading of a source that is made after the text `front`. -/
def ReadsAfter (lexicon : Lexicon) (source front : String) (reading : Reading) : Prop :=
  ∃ before later, lexicon.readings source = before.map .ok ++ reading :: later ∧
    front.toList = Lexeme.texts before

/-- Every reading is made after some text. -/
theorem exists_readsAfter {reading : Reading} (h : reading ∈ lexicon.readings source) :
    ∃ front, lexicon.ReadsAfter source front reading := by
  obtain ⟨lexemes, fault?, -, hreadings⟩ := lexicon.exists_cuts_start source
  have hsplit : ∃ (before : List Lexeme) (later : List Reading),
      lexicon.readings source = before.map .ok ++ reading :: later := by
    rw [hreadings] at h ⊢
    rcases List.mem_append.1 h with hlexeme | hfault
    · obtain ⟨lexeme, hmem, rfl⟩ := List.mem_map.1 hlexeme
      obtain ⟨before, after, rfl⟩ := List.append_of_mem hmem
      exact ⟨before, after.map .ok ++ (fault?.map .error).toList, by simp⟩
    · rw [Option.mem_toList] at hfault
      exact ⟨lexemes, [], by rw [Option.mem_def.1 hfault, Option.toList_some]⟩
  obtain ⟨before, later, hbefore⟩ := hsplit
  exact ⟨String.ofList (Lexeme.texts before), before, later, hbefore, String.toList_ofList⟩

/-- What is read after a text is scanned from what is left there. -/
theorem ReadsAfter.exists_scan {reading : Reading} (h : lexicon.ReadsAfter source front reading) :
    ∃ c rest, source = front ++ String.ofList (c :: rest) ∧
      ((∃ fault, lexicon.scan c rest = .error fault ∧
          reading = .error ⟨fault, Position.start.after front.toList⟩) ∨
        ∃ cut, lexicon.scan c rest = .ok cut ∧
          reading = .ok (cut.lexeme (Position.start.after front.toList))) := by
  obtain ⟨before, later, hreadings, hfront⟩ := h
  obtain ⟨left, after, hleft, hnext⟩ := Cursor.exists_next?_of_readings hreadings
  obtain ⟨c, rest, hrest, hscan⟩ := Cursor.exists_scan_of_next? hnext
  refine ⟨c, rest, ?_, ?_⟩
  · rw [← String.toList_inj, String.toList_append, String.toList_ofList, hfront, ← hrest]
    exact hleft
  · rw [hfront]
    exact hscan.imp_right fun ⟨cut, hcut, hreading, _⟩ => ⟨cut, hcut, hreading⟩

/-- A lexeme stands where it is read, and an operator has its text for its value. -/
theorem ReadsAfter.lexeme {lexeme : Lexeme} (h : lexicon.ReadsAfter source front (.ok lexeme)) :
    (∃ back, source = front ++ lexeme.text ++ back) ∧ lexeme.text ≠ "" ∧
      lexeme.position = Position.start.after front.toList ∧
      (lexeme.kind = .operator → lexeme.value = lexeme.text) := by
  obtain ⟨c, rest, hsource, ⟨_, _, hfault⟩ | ⟨cut, hscan, hlexeme⟩⟩ := h.exists_scan
  · cases hfault
  · cases hlexeme
    obtain ⟨hwhole, hnonempty⟩ := scan_append hscan
    refine ⟨⟨String.ofList cut.rest, ?_⟩, ?_, rfl, fun hkind => ?_⟩
    · rw [hsource, ← hwhole, String.ofList_append, ← String.append_assoc]
      rfl
    · intro hempty
      exact hnonempty (by rw [← Cut.toList_text_lexeme cut, hempty]; rfl)
    · refine congrArg String.ofList (value_of_scan hscan fun hclass => ?_)
      have hquoted := kind_of_scan hscan
      rw [hclass] at hquoted
      exact absurd (hquoted.symm.trans hkind) (by decide)

/-- A fault stands where its first character is read. -/
theorem ReadsAfter.fault {e : LexError} (h : lexicon.ReadsAfter source front (.error e)) :
    ∃ c, (∃ back, source = front ++ String.singleton c ++ back) ∧
      e.position = Position.start.after front.toList ∧
      (e.fault = .unterminatedString ∧ isQuote c = true ∨
        e.fault = .unexpectedSymbol c ∧ (c = '+' ∨ c = '-')) := by
  obtain ⟨c, rest, hsource, ⟨fault, hscan, hfault⟩ | ⟨_, _, hlexeme⟩⟩ := h.exists_scan
  · cases hfault
    refine ⟨c, ⟨String.ofList rest, ?_⟩, rfl, ?_⟩
    · rw [hsource, String.append_assoc, String.append_right_inj, ← String.toList_inj]
      simp
    · exact (fault_of_scan hscan).imp_right fun h => ⟨h.1, h.2.1⟩
  · cases hlexeme

end Lexicon

/-! ## What errors are about -/

open Grammar

/-- What an error of a source is about, as a text that stands after `front`. -/
inductive ParseError.Marks (lexicon : Lexicon) (source front : String) :
    ParseError → String → Prop
  | unexpectedToken {lexeme route} (hread : lexicon.ReadsAfter source front (.ok lexeme)) :
      Marks lexicon source front (.unexpectedToken lexeme route) lexeme.text
  | invalidNumber {lexeme} (hread : lexicon.ReadsAfter source front (.ok lexeme))
      (hkind : lexeme.kind = .number) :
      Marks lexicon source front (.invalidNumber lexeme.text lexeme.position) lexeme.text
  | unknownOperator {lexeme} (hread : lexicon.ReadsAfter source front (.ok lexeme))
      (hkind : lexeme.kind = .operator) :
      Marks lexicon source front (.unknownOperator lexeme.value lexeme.position) lexeme.text
  /-- The first character of the last lexeme that is no white space. -/
  | unterminatedStatement {lexeme c} (hread : lexicon.ReadsAfter source front (.ok lexeme))
      (hlast : (lexemes (lexicon.readings source)).getLast? = some lexeme)
      (hfirst : lexeme.text.toList.head? = some c) :
      Marks lexicon source front (.unterminatedStatement lexeme.position) (.singleton c)
  /-- The quote that opens a string. -/
  | unterminatedString {quote position}
      (hread : lexicon.ReadsAfter source front (.error ⟨.unterminatedString, position⟩))
      (hquote : isQuote quote = true) :
      Marks lexicon source front (.scan ⟨.unterminatedString, position⟩) (.singleton quote)
  /-- The sign that is rejected. -/
  | unexpectedSymbol {symbol position}
      (hread : lexicon.ReadsAfter source front (.error ⟨.unexpectedSymbol symbol, position⟩))
      (hsign : symbol = '+' ∨ symbol = '-') :
      Marks lexicon source front (.scan ⟨.unexpectedSymbol symbol, position⟩) (.singleton symbol)

namespace Dialect

variable {dialect : Dialect}

/-- An error that is about a reading marks its text, and stands there. -/
theorem exists_marks_of_isAbout {reading : Reading} (habout : e.IsAbout reading)
    (hread : dialect.lexicon.ReadsAfter source front reading) :
    ∃ marked, e.Marks dialect.lexicon source front marked ∧ e.StandsAt source front marked := by
  have hwidth : ∀ {text : String}, text ≠ "" → max text.length 1 = text.length := by
    intro text htext
    exact Nat.max_eq_left (Nat.pos_of_ne_zero (mt String.length_eq_zero_iff.1 htext))
  cases reading with
  | ok lexeme =>
      obtain ⟨hwhole, hnonempty, hposition, hvalue⟩ := hread.lexeme
      cases e with
      | unexpectedToken rejected route =>
          obtain rfl : rejected = lexeme := habout
          exact ⟨_, .unexpectedToken hread, hwhole, hnonempty, congrArg some hposition,
            hwidth hnonempty⟩
      | invalidNumber text position =>
          obtain ⟨hkind, rfl, rfl⟩ := habout
          exact ⟨_, .invalidNumber hread hkind, hwhole, hnonempty, congrArg some hposition,
            hwidth hnonempty⟩
      | unknownOperator symbol position =>
          obtain ⟨hkind, rfl, rfl⟩ := habout
          refine ⟨_, .unknownOperator hread hkind, hwhole, hnonempty, congrArg some hposition, ?_⟩
          rw [ParseError.width, hvalue hkind]
          exact hwidth hnonempty
      | _ => cases habout
  | error fault =>
      obtain ⟨c, hwhole, hposition, hfault⟩ := hread.fault
      cases e with
      | scan e =>
          obtain rfl : e = fault := habout
          obtain ⟨kind, position⟩ := e
          have hstands : ParseError.StandsAt (.scan ⟨kind, position⟩) source front (.singleton c) :=
            ⟨hwhole, by simp, congrArg some hposition, by simp [ParseError.width]⟩
          rcases hfault with ⟨rfl, hquote⟩ | ⟨rfl, hsign⟩
          · exact ⟨_, .unterminatedString hread hquote, hstands⟩
          · exact ⟨_, .unexpectedSymbol hread hsign, hstands⟩
      | _ => cases habout

/-- A statement that is not ended marks the first character of the last lexeme. -/
theorem exists_marks_of_getLast? {last : Lexeme}
    (hread : dialect.lexicon.ReadsAfter source front (.ok last))
    (hlast : (lexemes (dialect.lexicon.readings source)).getLast? = some last) :
    ∃ marked,
      (ParseError.unterminatedStatement last.position).Marks dialect.lexicon source front marked ∧
      (ParseError.unterminatedStatement last.position).StandsAt source front marked := by
  obtain ⟨⟨back, hwhole⟩, hnonempty, hposition, -⟩ := hread.lexeme
  cases htext : last.text.toList with
  | nil => exact absurd (String.toList_eq_nil_iff.1 htext) hnonempty
  | cons c rest =>
      refine ⟨.singleton c, .unterminatedStatement hread hlast (by rw [htext]; rfl),
        ⟨String.ofList rest ++ back, ?_⟩, by simp, congrArg some hposition,
        by simp [ParseError.width]⟩
      rw [hwhole, ← String.toList_inj]
      simp [htext]

/-- Every failure of a parse marks a text of the source, and stands there. -/
theorem exists_marks_of_parse (h : dialect.parse source = .error e) :
    ∃ front marked, e.Marks dialect.lexicon source front marked ∧
      e.StandsAt source front marked := by
  have hfront : ∀ {reading : Reading},
      reading ∈ (dialect.lexicon.readings source).filter matters →
        ∃ front, dialect.lexicon.ReadsAfter source front reading :=
    fun hreading => Lexicon.exists_readsAfter (List.mem_of_mem_filter hreading)
  rcases exists_stop h with ⟨before, item, after, hreadings, hfails, -⟩ |
    ⟨earlier, last, hreadings, rfl, -⟩
  · obtain ⟨front, hread⟩ := @hfront item (by simp [hreadings])
    exact ⟨front, exists_marks_of_isAbout hfails.rejects.isAbout hread⟩
  · obtain ⟨front, hread⟩ := @hfront (.ok last) (by simp [hreadings])
    have hlast : (lexemes (dialect.lexicon.readings source)).getLast? = some last := by
      rw [← (filter_matters_eq_iff.1 hreadings).2]
      simp
    exact ⟨front, exists_marks_of_getLast? hread hlast⟩

/-- Every failure of a parse is labelled exactly on what it is about. -/
theorem exists_covers_of_parse (h : dialect.parse source = .error e) :
    ∃ span front marked, (Diagnosis.of source e).span = some span ∧
      span.Covers source front marked ∧ e.Marks dialect.lexicon source front marked := by
  obtain ⟨front, marked, hmarks, hstands⟩ := exists_marks_of_parse h
  obtain ⟨span, hspan, hcovers⟩ := hstands.exists_span
  exact ⟨span, front, marked, hspan, hcovers, hmarks⟩

/-- The quote that is not closed in the source of a number, a wide blank and a quote. -/
def openQuote : ParseError := .scan ⟨.unterminatedString, ⟨1, 3⟩⟩

theorem parse_openQuote : stock.parse "1\u3000'" = .error openQuote := by
  have hnumber : stock.lexicon.scan '1' ['\u3000', '\''] =
      .ok (.plain .number ['1'] ['\u3000', '\'']) := rfl
  have hblank : stock.lexicon.scan '\u3000' ['\''] =
      .ok (.plain .whitespace ['\u3000'] ['\'']) := rfl
  have hquote : stock.lexicon.scan '\'' [] = .error .unterminatedString := rfl
  have hcuts : Cuts stock.lexicon "1\u3000'".toList .start _ (some ⟨.unterminatedString, ⟨1, 3⟩⟩) :=
    .lexeme hnumber (.lexeme hblank (.fault hquote))
  have hreadings : stock.lexicon.readings "1\u3000'" = _ := hcuts.readings_eq
  have hliteral : Move .start .number .number := .literal (by decide) (by decide)
  rw [parse, hreadings, parseReadings_eq]
  exact congrArg (Except.bind · _) (run_cons_of_ok isAt_start hliteral rfl _)

theorem exists_covers_of_parse_openQuote :
    stock.parse "1\u3000'" = .error openQuote ∧
      ∃ span front marked, (Diagnosis.of "1\u3000'" openQuote).span = some span ∧
        span.Covers "1\u3000'" front marked ∧
        openQuote.Marks stock.lexicon "1\u3000'" front marked :=
  ⟨parse_openQuote, exists_covers_of_parse parse_openQuote⟩

end Dialect

end Scriptlet
