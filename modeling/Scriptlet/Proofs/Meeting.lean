/-
# Where two texts meet

A lexeme that ends before its text does is cut off in the same way when the text goes on. So only
the last lexeme of a text can change when another text follows, and one that separates statements
does not: a semicolon stands by itself, and white space takes in no more than white space. What two
such texts are cut into is what both are cut into, one after the other, white space aside.
-/

import Scriptlet.Proofs.Boundaries
import Scriptlet.Proofs.Moving

namespace Scriptlet

/-! ## Texts that go on -/

/-- A cut of a text that goes on. -/
def Cut.goOn (cut : Cut) (more : List Char) : Cut := { cut with rest := cut.rest ++ more }

namespace Lexicon

variable {lexicon : Lexicon} {c : Char} {rest : List Char} {cut : Cut}

/-- A lexeme that ends before its text is cut off in the same way when the text goes on. -/
theorem scan_append_more (hscan : lexicon.scan c rest = .ok cut) (hrest : cut.rest ≠ [])
    (more : List Char) : lexicon.scan c (rest ++ more) = .ok (cut.goOn more) := by
  obtain ⟨inner, htext, rfl⟩ := exists_text_of_scan hscan
  rw [List.append_assoc]
  refine scan_of_endsAlike hscan htext fun d hd => .inl ?_
  rwa [List.head?_append_of_ne_nil _ hrest] at hd

/-! ## What separates statements -/

theorem classify_of_isBlank (hblank : Text.isBlank c = true) : lexicon.classify c = .blank := by
  have hquote : isQuote c = false := by
    by_contra hquote
    simp only [isQuote, Bool.not_eq_false, Bool.or_eq_true, beq_iff_eq] at hquote
    rcases hquote with rfl | rfl <;> cases hblank
  simp [classify, hquote, hblank]

/-- White space is cut off as far as it goes. -/
theorem scan_of_isBlank (hblank : Text.isBlank c = true) (rest : List Char) :
    lexicon.scan c rest = .ok
      (.plain .whitespace (c :: rest.takeWhile Text.isBlank) (rest.dropWhile Text.isBlank)) := by
  rw [scan, classify_of_isBlank hblank]

theorem whitespace_of_isBlank (hblank : Text.isBlank c = true)
    (hscan : lexicon.scan c rest = .ok cut) :
    cut.kind = .whitespace ∧ ∀ d ∈ cut.text, Text.isBlank d = true := by
  cases hscan.symm.trans (scan_of_isBlank hblank rest)
  exact ⟨rfl, List.forall_mem_cons.2 ⟨hblank, fun _ => List.mem_takeWhile_imp⟩⟩

theorem isBlank_of_scan (hwords : lexicon.HasNoWord .whitespace)
    (hscan : lexicon.scan c rest = .ok cut) (hkind : cut.kind = .whitespace) :
    Text.isBlank c = true := by
  have hkinds := kind_of_scan hscan
  cases hclass : lexicon.classify c with
  | blank => exact isBlank_of_classify hclass
  | punctuation kind =>
      have hpunctuation := mem_of_ofPunctuation? (ofPunctuation?_of_classify hclass)
      rw [hclass] at hkinds
      simp [← hkinds, hkind] at hpunctuation
  | word => exact absurd hclass (hwords.classify_ne_word (by decide) hscan hkind)
  | quote | numeric | operator | unknown => simp [hclass, hkind] at hkinds

/-- A semicolon is a lexeme whatever follows. -/
theorem scan_of_semiColon (hwords : lexicon.HasNoWord .semiColon)
    (hscan : lexicon.scan c rest = .ok cut) (hkind : cut.kind = .semiColon) (other : List Char) :
    lexicon.scan c other = .ok (.plain .semiColon [c] other) := by
  have hkinds := kind_of_scan hscan
  cases hclass : lexicon.classify c with
  | punctuation kind =>
      rw [hclass] at hkinds
      obtain rfl : kind = .semiColon := hkinds.symm.trans hkind
      rw [scan, hclass]
  | word => exact absurd hclass (hwords.classify_ne_word (by decide) hscan hkind)
  | quote | blank | numeric | operator | unknown => simp [hclass, hkind] at hkinds

end Lexicon

/-! ## Cutting up two texts as one -/

/-- Lexemes without white space. -/
def Lexeme.significant (lexemes : List Lexeme) : List Lexeme :=
  lexemes.filter fun lexeme => lexeme.kind ≠ .whitespace

theorem Lexeme.significant_cons (lexeme : Lexeme) (rest : List Lexeme) :
    significant (lexeme :: rest) = significant [lexeme] ++ significant rest :=
  List.filter_append [lexeme] rest

namespace Cuts

open Lexeme

variable {lexicon : Lexicon} {text more : List Char} {position : Position}
  {lexemes others : List Lexeme} {fault? : Option LexError}

/-- White space that a text begins with makes no difference to its other lexemes. -/
theorem exists_dropWhile (h : Cuts lexicon text position lexemes fault?) :
    ∃ others, Cuts lexicon (text.dropWhile Text.isBlank)
        (position.after (text.takeWhile Text.isBlank)) others fault? ∧
      significant others = significant lexemes := by
  cases text with
  | nil => exact ⟨lexemes, h, rfl⟩
  | cons c rest =>
      by_cases hblank : Text.isBlank c = true
      · have hscan := @Lexicon.scan_of_isBlank lexicon c hblank rest
        rw [List.dropWhile_cons_of_pos hblank, List.takeWhile_cons_of_pos hblank]
        cases h with
        | fault hfault => cases hfault.symm.trans hscan
        | lexeme hcut hrest =>
            cases hcut.symm.trans hscan
            refine ⟨_, hrest, ?_⟩
            rw [significant_cons]
            rfl
      · rw [List.dropWhile_cons_of_neg hblank, List.takeWhile_cons_of_neg hblank]
        exact ⟨lexemes, h, rfl⟩

theorem append_lexeme (hsemiColon : lexicon.HasNoWord .semiColon)
    (hwhitespace : lexicon.HasNoWord .whitespace) {c : Char} {rest : List Char} {cut : Cut}
    (hscan : lexicon.scan c rest = .ok cut) (hend : cut.rest = [])
    (hkind : cut.kind ∈ [.semiColon, .whitespace])
    (hmore : Cuts lexicon more (position.after cut.text) others fault?) :
    ∃ all, Cuts lexicon (c :: (rest ++ more)) position all fault? ∧
      significant all = significant [cut.lexeme position] ++ significant others := by
  simp only [List.mem_cons, List.not_mem_nil, or_false] at hkind
  rcases hkind with hkind | hkind
  · have hscans := Lexicon.scan_of_semiColon hsemiColon hscan hkind
    cases hscan.symm.trans (hscans rest)
    obtain rfl : rest = [] := hend
    exact ⟨_, .lexeme (hscans more) hmore, significant_cons _ _⟩
  · have hblank := Lexicon.isBlank_of_scan hwhitespace hscan hkind
    cases hscan.symm.trans (Lexicon.scan_of_isBlank hblank rest)
    have hrest : ∀ d ∈ rest, Text.isBlank d = true := List.dropWhile_eq_nil_iff.1 hend
    have htake : rest.takeWhile Text.isBlank = rest := List.takeWhile_eq_self_iff.2 hrest
    have hscans := @Lexicon.scan_of_isBlank lexicon c hblank (rest ++ more)
    rw [List.takeWhile_append_of_pos hrest, List.dropWhile_append_of_pos hrest] at hscans
    obtain ⟨left, hleft, hsignificant⟩ := hmore.exists_dropWhile
    simp only [Cut.plain, htake, ← Position.after_append] at hleft
    refine ⟨_, .lexeme hscans hleft, ?_⟩
    rw [significant_cons, hsignificant]
    rfl

/-- A text that ends with what separates statements can be followed by any text. -/
theorem append (hsemiColon : lexicon.HasNoWord .semiColon)
    (hwhitespace : lexicon.HasNoWord .whitespace) (h : Cuts lexicon text position lexemes none)
    (hlast : ∀ last ∈ lexemes.getLast?, last.kind ∈ [.semiColon, .whitespace])
    (hmore : Cuts lexicon more (position.after text) others fault?) :
    ∃ all, Cuts lexicon (text ++ more) position all fault? ∧
      significant all = significant lexemes ++ significant others := by
  generalize hnone : none = noFault at h
  induction h with
  | done => exact ⟨others, hmore, rfl⟩
  | fault => cases hnone
  | @lexeme c rest position cut lexemes fault hscan hrest ih =>
      subst hnone
      rw [← (Lexicon.scan_append hscan).1, Position.after_append] at hmore
      by_cases hend : cut.rest = []
      · rw [hend] at hrest hmore
        cases hrest
        exact append_lexeme hsemiColon hwhitespace hscan hend (hlast _ rfl) hmore
      · have hlater : ∀ last ∈ lexemes.getLast?, last.kind ∈ [.semiColon, .whitespace] := by
          intro last hlexemes
          apply hlast last
          rw [List.getLast?_cons, hlexemes]
          rfl
        obtain ⟨all, hall, hsignificant⟩ := ih hlater hmore rfl
        refine ⟨_, .lexeme (Lexicon.scan_append_more hscan hend more) hall, ?_⟩
        rw [significant_cons, hsignificant, significant_cons _ lexemes, List.append_assoc]
        rfl

end Cuts

end Scriptlet
