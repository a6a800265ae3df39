/-
# Positions and offsets

A position is told by lines and columns, an offset by bytes. Both grow with every character that is
read, so each of them tells where in a source one is, and a look-up by position finds the offset
that has been reached with it: the two are inverse to each other on the places that a source has,
and no other position has an offset.
-/

import Scriptlet.Diagnosis
import Scriptlet.Proofs.Scanning

namespace Scriptlet

namespace Position

/-- Whether a position comes before another one in the order of reading. -/
def Precedes (first second : Position) : Prop :=
  first.line < second.line ∨ first.line = second.line ∧ first.column < second.column

theorem Precedes.trans {first second third : Position} (h : first.Precedes second)
    (h' : second.Precedes third) : first.Precedes third := by
  unfold Precedes at *
  omega

theorem Precedes.ne {first second : Position} (h : first.Precedes second) : first ≠ second := by
  rintro rfl
  unfold Precedes at h
  omega

theorem precedes_advance (position : Position) (c : Char) :
    position.Precedes (position.advance c) := by
  unfold advance
  split
  · exact .inl (Nat.lt_succ_self _)
  · exact .inr ⟨rfl, Nat.lt_succ_self _⟩

/-- Reading on moves the position on. -/
theorem precedes_after (position : Position) {text : List Char} (htext : text ≠ []) :
    position.Precedes (position.after text) := by
  induction text generalizing position with
  | nil => contradiction
  | cons c rest ih =>
      rw [after_cons]
      by_cases hrest : rest = []
      · rw [hrest]
        exact position.precedes_advance c
      · exact (position.precedes_advance c).trans (ih _ hrest)

end Position

namespace Source

/-! ## Bytes -/

@[simp]
theorem byteLength_append (first second : List Char) :
    byteLength (first ++ second) = byteLength first + byteLength second := by
  induction first with
  | nil => simp [byteLength]
  | cons c rest ih => rw [List.cons_append, byteLength, byteLength, ih, Nat.add_assoc]

theorem byteLength_pos {text : List Char} (htext : text ≠ []) : 0 < byteLength text := by
  obtain ⟨c, rest, rfl⟩ := List.exists_cons_of_ne_nil htext
  exact Nat.add_pos_left c.utf8Size_pos _

/-- Bytes are counted as the string with the same characters counts them. -/
theorem utf8ByteSize_ofList (text : List Char) :
    (String.ofList text).utf8ByteSize = byteLength text := by
  induction text with
  | nil => rfl
  | cons c rest ih =>
      have hcons : String.ofList (c :: rest) = String.singleton c ++ String.ofList rest := by
        rw [← String.toList_inj]
        simp
      rw [hcons, String.utf8ByteSize_append, String.utf8ByteSize_singleton, ih, byteLength]

theorem byteLength_toList (text : String) : byteLength text.toList = text.utf8ByteSize := by
  rw [← utf8ByteSize_ofList, String.ofList_toList]

/-- Beginnings of one text that are equally long are the same. -/
theorem eq_of_isPrefix {text first second : List Char} (hfirst : first <+: text)
    (hsecond : second <+: text) (h : byteLength first = byteLength second) : first = second := by
  have hlonger : ∀ {front whole : List Char}, front <+: whole →
      byteLength front = byteLength whole → front = whole := by
    rintro front - ⟨more, rfl⟩ hlength
    rw [byteLength_append] at hlength
    cases more with
    | nil => rw [List.append_nil]
    | cons c rest =>
        have := byteLength_pos (List.cons_ne_nil c rest)
        omega
  rcases List.prefix_or_prefix_of_prefix hfirst hsecond with hle | hle
  · exact hlonger hle h
  · exact (hlonger hle h.symm).symm

/-! ## Looking a position up -/

/-- A position that has been reached is found where it was reached. -/
theorem locate?_after (cursor : Position) (front left : List Char) :
    locate? (cursor.after front) cursor (front ++ left) = some (byteLength front, left) := by
  induction front generalizing cursor with
  | nil => cases left <;> simp [locate?, byteLength]
  | cons c rest ih =>
      have hne := (cursor.precedes_after (List.cons_ne_nil c rest)).ne
      rw [List.cons_append, locate?, if_neg hne, Position.after_cons, ih]
      rfl

/-- A position that is found has been reached. -/
theorem exists_of_locate? {target cursor : Position} {text left : List Char} {offset : Nat}
    (h : locate? target cursor text = some (offset, left)) :
    ∃ front, text = front ++ left ∧ byteLength front = offset ∧ cursor.after front = target := by
  induction text generalizing cursor offset with
  | nil =>
      rw [locate?, Option.ite_none_right_eq_some] at h
      obtain ⟨htarget, heq⟩ := h
      cases heq
      exact ⟨[], rfl, rfl, htarget⟩
  | cons c rest ih =>
      rw [locate?] at h
      split at h
      · next htarget =>
          cases h
          exact ⟨[], rfl, rfl, htarget⟩
      · obtain ⟨⟨offset', left'⟩, hrest, heq⟩ := Option.map_eq_some_iff.1 h
        cases heq
        obtain ⟨front, rfl, rfl, rfl⟩ := ih hrest
        exact ⟨c :: front, rfl, rfl, rfl⟩

/-- The offset of a position is the length of what has been read when it is reached. -/
theorem offset?_eq_some_iff {source : String} {position : Position} {offset : Nat} :
    offset? source position = some offset ↔
      ∃ front back, source = front ++ back ∧ front.utf8ByteSize = offset ∧
        Position.start.after front.toList = position := by
  rw [offset?, Option.map_eq_some_iff]
  constructor
  · rintro ⟨⟨offset', left⟩, hlocate, rfl⟩
    obtain ⟨front, hsource, rfl, rfl⟩ := exists_of_locate? hlocate
    refine ⟨String.ofList front, String.ofList left, ?_, utf8ByteSize_ofList front, ?_⟩
    · rw [← String.toList_inj, hsource]
      simp
    · rw [String.toList_ofList]
  · rintro ⟨front, back, rfl, rfl, rfl⟩
    rw [String.toList_append, locate?_after]
    exact ⟨_, rfl, byteLength_toList front⟩

theorem isValid_of_offset? {source : String} {position : Position} {offset : Nat}
    (h : offset? source position = some offset) : String.Pos.Raw.IsValid source ⟨offset⟩ := by
  obtain ⟨front, back, rfl, rfl, -⟩ := offset?_eq_some_iff.1 h
  exact String.Pos.Raw.isValid_iff_exists_append.2 ⟨front, back, rfl, rfl⟩

/-- No two positions of a source have the same offset. -/
theorem eq_of_offset? {source : String} {first second : Position} {offset : Nat}
    (hfirst : offset? source first = some offset) (hsecond : offset? source second = some offset) :
    first = second := by
  obtain ⟨front, back, rfl, hlength, rfl⟩ := offset?_eq_some_iff.1 hfirst
  obtain ⟨front', back', hsource, hlength', rfl⟩ := offset?_eq_some_iff.1 hsecond
  congr 1
  refine eq_of_isPrefix ⟨back.toList, String.toList_append.symm⟩
    ⟨back'.toList, by rw [hsource, String.toList_append]⟩ ?_
  rw [byteLength_toList, byteLength_toList, hlength, hlength']

end Source

/-! ## The cursor of the scanner -/

/-- Where a lexeme starts, or would have started without a fault. -/
def Reading.position : Reading → Position
  | .ok lexeme => lexeme.position
  | .error e => e.position

namespace Cuts

variable {lexicon : Lexicon} {text : List Char} {position : Position} {lexemes : List Lexeme}
  {fault? : Option LexError}

theorem eq_or_precedes (h : Cuts lexicon text position lexemes fault?) :
    ∀ reading ∈ Cursor.readings lexicon ⟨text, position⟩,
      reading.position = position ∨ position.Precedes reading.position := by
  intro reading hreading
  induction h with
  | done =>
      rw [Cursor.readings_of_next?_eq_none rfl] at hreading
      cases hreading
  | fault hscan =>
      rw [Cursor.readings_of_next? (Cursor.next?_of_error hscan),
        Cursor.readings_of_next?_eq_none rfl, List.mem_singleton] at hreading
      exact .inl (hreading ▸ rfl)
  | @lexeme _ _ position cut _ _ hscan _ ih =>
      rw [Cursor.readings_of_next? (Cursor.next?_of_ok hscan), List.mem_cons] at hreading
      rcases hreading with rfl | hlater
      · exact .inl rfl
      · have hprecedes := position.precedes_after (Lexicon.scan_append hscan).2
        rcases ih hlater with hplace | hplace
        · exact .inr (hplace ▸ hprecedes)
        · exact .inr (hprecedes.trans hplace)

/-- Readings are made in the order of their positions. -/
theorem pairwise_precedes (h : Cuts lexicon text position lexemes fault?) :
    (Cursor.readings lexicon ⟨text, position⟩).Pairwise fun earlier later =>
      earlier.position.Precedes later.position := by
  induction h with
  | done =>
      rw [Cursor.readings_of_next?_eq_none rfl]
      exact .nil
  | fault hscan =>
      rw [Cursor.readings_of_next? (Cursor.next?_of_error hscan),
        Cursor.readings_of_next?_eq_none rfl]
      exact List.pairwise_singleton ..
  | @lexeme _ _ position cut _ _ hscan hrest ih =>
      rw [Cursor.readings_of_next? (Cursor.next?_of_ok hscan), List.pairwise_cons]
      refine ⟨fun later hlater => ?_, ih⟩
      have hprecedes := position.precedes_after (Lexicon.scan_append hscan).2
      rcases hrest.eq_or_precedes later hlater with hplace | hplace
      · exact hplace ▸ hprecedes
      · exact hprecedes.trans hplace

end Cuts

/-- The bytes that lexemes take up. -/
def Lexeme.byteLength : List Lexeme → Nat
  | [] => 0
  | lexeme :: rest => lexeme.text.utf8ByteSize + byteLength rest

theorem Lexeme.byteLength_texts (lexemes : List Lexeme) :
    Source.byteLength (texts lexemes) = byteLength lexemes := by
  induction lexemes with
  | nil => rfl
  | cons lexeme rest ih =>
      rw [texts_cons, Source.byteLength_append, Source.byteLength_toList, ih, byteLength]

namespace Cursor

variable {lexicon : Lexicon} {cursor : Cursor} {reading : Reading}

/-- What is read is cut off where the cursor stands. -/
theorem exists_scan_of_next? {after : Cursor}
    (h : cursor.next? lexicon = some (reading, after)) :
    ∃ c rest, cursor.rest = c :: rest ∧
      ((∃ fault, lexicon.scan c rest = .error fault ∧
          reading = .error ⟨fault, cursor.position⟩) ∨
        ∃ cut, lexicon.scan c rest = .ok cut ∧ reading = .ok (cut.lexeme cursor.position) ∧
          after = ⟨cut.rest, cursor.position.after cut.text⟩) := by
  unfold next? at h
  split at h
  · cases h
  · next c rest hrest =>
      refine ⟨c, rest, hrest, ?_⟩
      split at h
      · next fault hscan =>
          cases h
          exact .inl ⟨fault, hscan, rfl⟩
      · next cut hscan =>
          cases h
          exact .inr ⟨cut, hscan, rfl, rfl⟩

/-- Each reading is made where the texts of the lexemes before it end. -/
theorem exists_next?_of_readings {before : List Lexeme} {later : List Reading}
    (h : cursor.readings lexicon = before.map .ok ++ reading :: later) :
    ∃ rest after, cursor.rest = Lexeme.texts before ++ rest ∧
      next? lexicon ⟨rest, cursor.position.after (Lexeme.texts before)⟩ =
        some (reading, after) := by
  induction before generalizing cursor with
  | nil =>
      cases hnext : cursor.next? lexicon with
      | none =>
          rw [readings_of_next?_eq_none hnext] at h
          cases h
      | some result =>
          rw [readings_of_next? hnext] at h
          cases h
          exact ⟨cursor.rest, result.2, rfl, hnext⟩
  | cons lexeme others ih =>
      rcases hnext : cursor.next? lexicon with - | ⟨first, left⟩
      · rw [readings_of_next?_eq_none hnext] at h
        cases h
      · rw [readings_of_next? hnext, List.map_cons, List.cons_append, List.cons.injEq] at h
        obtain ⟨rfl, hothers⟩ := h
        obtain ⟨c, rest, hrest, ⟨_, _, hfault⟩ | ⟨cut, hscan, hlexeme, rfl⟩⟩ :=
          exists_scan_of_next? hnext
        · cases hfault
        · cases hlexeme
          obtain ⟨last, after, hlast, hreading⟩ := ih hothers
          dsimp only at hlast hreading
          refine ⟨last, after, ?_, ?_⟩
          · rw [hrest, ← (Lexicon.scan_append hscan).1, hlast, Lexeme.texts_cons,
              Cut.toList_text_lexeme, List.append_assoc]
          · rw [Lexeme.texts_cons, Cut.toList_text_lexeme, Position.after_append]
            exact hreading

theorem position_of_next? {after : Cursor} (h : cursor.next? lexicon = some (reading, after)) :
    Reading.position reading = cursor.position := by
  obtain ⟨_, _, _, ⟨_, _, rfl⟩ | ⟨_, _, rfl, _⟩⟩ := exists_scan_of_next? h <;> rfl

end Cursor

namespace Lexicon

/-- The cursor of the scanner and the look-up of offsets are inverse to each other. A reading stands
at the bytes of the lexemes before it. A position has an offset if and only if it is reached by
reading a beginning of the source, and the offset is the length of that beginning. So offsets are
boundaries of characters, and no two positions have the same one. -/
theorem offset?_inverse_cursor (lexicon : Lexicon) (source : String) :
    (∀ before reading later, lexicon.readings source = before.map .ok ++ reading :: later →
      Source.offset? source (Reading.position reading) = some (Lexeme.byteLength before)) ∧
    (∀ position offset, Source.offset? source position = some offset ↔
      ∃ front back, source = front ++ back ∧ front.utf8ByteSize = offset ∧
        Position.start.after front.toList = position) ∧
    (∀ position offset, Source.offset? source position = some offset →
      String.Pos.Raw.IsValid source ⟨offset⟩ ∧ offset ≤ source.utf8ByteSize) ∧
    ∀ first second offset, Source.offset? source first = some offset →
      Source.offset? source second = some offset → first = second := by
  refine ⟨fun before reading later hreadings => ?_, fun _ _ => Source.offset?_eq_some_iff,
    fun position offset h => ?_, fun _ _ _ => Source.eq_of_offset?⟩
  · obtain ⟨rest, after, hrest, hreading⟩ := Cursor.exists_next?_of_readings hreadings
    rw [Cursor.position_of_next? hreading, Source.offset?, ← Lexeme.byteLength_texts]
    have hsource : source.toList = Lexeme.texts before ++ rest := hrest
    rw [hsource]
    exact congrArg (Option.map Prod.fst) (Source.locate?_after _ _ _)
  · have hvalid := Source.isValid_of_offset? h
    exact ⟨hvalid, hvalid.le_rawEndPos⟩

/-- Two letters of two bytes each stand between the line feed and the third column. -/
theorem offset?_inverse_cursor_wide : Source.offset? "ab\nϝЄ x" ⟨2, 3⟩ = some 7 :=
  ((offset?_inverse_cursor stock "ab\nϝЄ x").2.1 _ _).2
    ⟨"ab\nϝЄ", " x", by decide, by decide, by decide⟩

end Lexicon

end Scriptlet
