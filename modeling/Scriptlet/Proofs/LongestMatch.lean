/-
# Lexemes are as long as they can be

What is cut off as a lexeme is one by itself: scanned alone, it is read as the same lexeme. And it
is the longest beginning of what was left that is one. The scanner decides by the characters of the
lexeme and stops at the one behind it, and it finds the same characters in the lexeme alone, and in
front of any part of what follows.
-/

import Scriptlet.Proofs.Boundaries
import Scriptlet.Proofs.Offsets
import Scriptlet.Proofs.Symbols

namespace Scriptlet

namespace Lexicon

variable {lexicon : Lexicon} {c : Char} {rest more : List Char} {cut : Cut}

/-- A lexeme ends in the same way in front of every beginning of what follows it. -/
theorem endsAlike_of_isPrefix (hmore : more <+: rest) : lexicon.EndsAlike c rest more := by
  obtain ⟨last, rfl⟩ := hmore
  intro d hd
  obtain ⟨others, rfl⟩ := List.head?_eq_some_iff.1 hd
  exact .inl rfl

/-- A lexeme is read first from itself with any beginning of what follows it, and nothing else is
read if that beginning is empty. -/
theorem readings_text_append_eq_singleton_iff (hscan : lexicon.scan c rest = .ok cut)
    (hmore : more <+: cut.rest) {other : Lexeme} :
    lexicon.readings (String.ofList cut.text ++ String.ofList more) = [.ok other] ↔
      more = [] ∧ other = cut.lexeme .start := by
  obtain ⟨inner, htext, -⟩ := exists_text_of_scan hscan
  have hsource : (String.ofList cut.text ++ String.ofList more).toList = c :: (inner ++ more) := by
    rw [← String.ofList_append, String.toList_ofList, htext, List.cons_append]
  have hagain : lexicon.scan c (inner ++ more) = .ok { cut with rest := more } :=
    scan_of_endsAlike hscan htext (endsAlike_of_isPrefix hmore)
  rw [readings_eq_singleton_iff hsource, hagain]
  constructor
  · rintro ⟨_, hsame, hnothing, rfl⟩
    cases hsame
    exact ⟨hnothing, rfl⟩
  · rintro ⟨hnothing, rfl⟩
    exact ⟨_, rfl, hnothing, rfl⟩

variable {source : String} {before : List Lexeme} {lexeme : Lexeme} {later : List Reading}

/-- Every lexeme of a source, scanned alone, is read as that one lexeme, and no longer text that the
source goes on with where the lexeme starts is read, alone, as one lexeme. -/
theorem longest_match (h : lexicon.readings source = before.map .ok ++ .ok lexeme :: later) :
    ∃ rest, source.toList = Lexeme.texts before ++ (lexeme.text.toList ++ rest) ∧
      lexicon.readings lexeme.text = [.ok { lexeme with position := .start }] ∧
      ∀ more, more <+: rest → more ≠ [] → ∀ other,
        lexicon.readings (lexeme.text ++ String.ofList more) ≠ [.ok other] := by
  obtain ⟨left, after, hleft, hnext⟩ := Cursor.exists_next?_of_readings h
  obtain ⟨c, rest, rfl, ⟨_, _, hfault⟩ | ⟨cut, hscan, hlexeme, -⟩⟩ :=
    Cursor.exists_scan_of_next? hnext
  · cases hfault
  · cases hlexeme
    have hreadings : ∀ {more : List Char} {other : Lexeme}, more <+: cut.rest →
        (lexicon.readings ((cut.lexeme (Position.start.after (Lexeme.texts before))).text
          ++ String.ofList more) = [.ok other] ↔ more = [] ∧ other = cut.lexeme .start) :=
      fun hmore => readings_text_append_eq_singleton_iff hscan hmore
    refine ⟨cut.rest, ?_, ?_, fun more hmore hsome other hother => ?_⟩
    · rw [Cut.toList_text_lexeme, (scan_append hscan).1]
      exact hleft
    · have halone := (hreadings List.nil_prefix).2 ⟨rfl, rfl⟩
      rwa [String.ofList_nil, String.append_empty] at halone
    · exact hsome ((hreadings hmore).1 hother).1

/-- The number ends at the second point, though a number may have a point. -/
theorem longest_match_points :
    stock.readings "1.2.3" = [.ok (.plain .number "1.2" ⟨1, 1⟩), .ok (.plain .operator "." ⟨1, 4⟩),
        .ok (.plain .number "3" ⟨1, 5⟩)] ∧
      stock.readings "1.2" = [.ok (.plain .number "1.2" .start)] ∧
      ∀ other, stock.readings ("1.2" ++ ".3") ≠ [.ok other] := by
  have hone : stock.scan '1' ['.', '2', '.', '3'] =
      .ok (.plain .number ['1', '.', '2'] ['.', '3']) := rfl
  have hpoint : stock.scan '.' ['3'] = .ok (.plain .operator ['.'] ['3']) := rfl
  have hthree : stock.scan '3' [] = .ok (.plain .number ['3'] []) := rfl
  have hcuts : Cuts stock "1.2.3".toList .start _ none :=
    .lexeme hone (.lexeme hpoint (.lexeme hthree .done))
  have hreadings := hcuts.readings_eq
  obtain ⟨rest, hrest, halone, hlonger⟩ := @longest_match stock "1.2.3" [] _ _ hreadings
  obtain rfl : ['.', '3'] = rest := @List.append_cancel_left _ ['1', '.', '2'] _ _ hrest
  exact ⟨hreadings, halone, hlonger _ List.prefix_rfl (by simp)⟩

end Lexicon

end Scriptlet
