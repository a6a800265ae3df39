/-
# Where lexemes end

The scanner stops at the first character that cannot belong to a lexeme, and looks no further. So a
lexeme is cut off in the same way in front of every text that begins with the same character, or
with white space, which ends all lexemes but white space as long as it makes up no operators.
-/

import Scriptlet.Proofs.Numerals

namespace Scriptlet

/-! ## Runs of characters -/

section

variable {p : Char → Bool} {text other : List Char}

theorem takeWhile_append_of_stop (htext : ∀ d ∈ text, p d = true)
    (hother : ∀ d ∈ other.head?, p d = false) : (text ++ other).takeWhile p = text := by
  rw [List.takeWhile_append_of_pos htext]
  cases other with
  | nil => simp
  | cons d rest => simp [hother d rfl]

theorem dropWhile_append_of_stop (htext : ∀ d ∈ text, p d = true)
    (hother : ∀ d ∈ other.head?, p d = false) : (text ++ other).dropWhile p = other := by
  rw [List.dropWhile_append_of_pos htext]
  cases other with
  | nil => rfl
  | cons d rest => simp [hother d rfl]

theorem of_mem_head?_dropWhile {d : Char} (hd : d ∈ (text.dropWhile p).head?) : p d = false := by
  have hhead := List.head?_dropWhile_not p text
  rw [Option.mem_def.1 hd] at hhead
  exact hhead

end

/-! ## String literals and numbers -/

theorem ne_backslash_of_isQuote {quote : Char} (hquote : isQuote quote = true) : quote ≠ '\\' := by
  rintro rfl
  cases hquote

/-- A string literal ends with its quote, whatever follows. -/
theorem closeQuoted_of_rest {quote : Char} (hquote : isQuote quote = true)
    {source text value after : List Char} (h : closeQuoted quote source = some (text, value, after))
    (other : List Char) : closeQuoted quote (text ++ other) = some (text, value, other) := by
  fun_induction closeQuoted quote source generalizing text value after with
  | case1 => cases h
  | case2 c rest ih =>
      obtain ⟨⟨text', value', after'⟩, h', e⟩ := Option.map_eq_some_iff.1 h
      cases e
      rw [List.cons_append, List.cons_append, closeQuoted, ih h']
      rfl
  | case3 rest =>
      cases h
      rw [List.cons_append, closeQuoted, if_pos rfl]
      · rfl
      · exact fun _ _ hbackslash => absurd hbackslash (ne_backslash_of_isQuote hquote)
  | case4 c rest hescape hc ih =>
      obtain ⟨⟨text', value', after'⟩, h', e⟩ := Option.map_eq_some_iff.1 h
      cases e
      have hbackslash : c ≠ '\\' := by
        rintro rfl
        cases rest with
        | nil => cases h'
        | cons d others => exact hescape d others rfl rfl
      rw [List.cons_append, closeQuoted, if_neg hc, ih h']
      · rfl
      · exact fun _ _ h => absurd h hbackslash

/-- A number ends in front of what is neither a digit nor a point, and where it has ended before. -/
theorem splitNumeral_of_stop {source other : List Char}
    (hother : ∀ d ∈ other.head?, d ∈ (splitNumeral source).2.head? ∨
      d.isDigit = false ∧ d ≠ '.') :
    splitNumeral ((splitNumeral source).1 ++ other) = ((splitNumeral source).1, other) := by
  have hdigits : ∀ {text : List Char}, ∀ d ∈ text.takeWhile Char.isDigit, d.isDigit = true :=
    fun _ => List.mem_takeWhile_imp
  unfold splitNumeral at hother ⊢
  split at hother
  · next after hpoint =>
      have hstop : ∀ d ∈ other.head?, d.isDigit = false := fun d hd =>
        (hother d hd).elim of_mem_head?_dropWhile And.left
      have hfront : ∀ d ∈ ('.' :: (after.takeWhile Char.isDigit ++ other)).head?,
          d.isDigit = false := by
        simp
      simp only [List.append_assoc, List.cons_append,
        takeWhile_append_of_stop hdigits hfront, dropWhile_append_of_stop hdigits hfront,
        takeWhile_append_of_stop hdigits hstop, dropWhile_append_of_stop hdigits hstop]
  · next after hpoint =>
      have hstop : ∀ d ∈ other.head?, d.isDigit = false := fun d hd =>
        (hother d hd).elim of_mem_head?_dropWhile And.left
      simp only [takeWhile_append_of_stop hdigits hstop, dropWhile_append_of_stop hdigits hstop]
      split
      · rcases hother '.' rfl with hold | ⟨-, hnone⟩
        · obtain ⟨more, hmore⟩ := List.head?_eq_some_iff.1 hold
          exact absurd hmore (hpoint more)
        · contradiction
      · rfl

/-! ## Lexemes -/

namespace Lexicon

section

variable (lexicon : Lexicon)

/-- Whether a lexeme that starts with `c` ends in front of `other` if it does so in front of `old`:
the two texts begin in the same way, or `other` begins with white space, which is no operator symbol
and which the lexeme does not consist of. -/
def EndsAlike (c : Char) (old other : List Char) : Prop :=
  ∀ d ∈ other.head?, d ∈ old.head? ∨
    Text.isBlank d = true ∧ lexicon.isOperatorSymbol d = false ∧ Text.isBlank c = false

end

variable {lexicon : Lexicon} {c : Char} {rest inner old other : List Char} {cut : Cut}

/-- A lexeme has the character in it that it starts with. -/
theorem exists_text_of_scan (hscan : lexicon.scan c rest = .ok cut) :
    ∃ inner, cut.text = c :: inner ∧ rest = inner ++ cut.rest := by
  obtain ⟨hwhole, hnonempty⟩ := scan_append hscan
  obtain ⟨first, inner, htext⟩ := List.exists_cons_of_ne_nil hnonempty
  rw [htext, List.cons_append, List.cons.injEq] at hwhole
  obtain ⟨rfl, hrest⟩ := hwhole
  exact ⟨inner, htext, hrest.symm⟩

/-- What no blank character passes is stopped by what ends alike. -/
theorem EndsAlike.stop (h : lexicon.EndsAlike c old other) {p : Char → Bool}
    (hold : ∀ d ∈ old.head?, p d = false)
    (hblank : ∀ d, Text.isBlank d = true → lexicon.isOperatorSymbol d = false →
      Text.isBlank c = false → p d = false) : ∀ d ∈ other.head?, p d = false := by
  intro d hd
  rcases h d hd with hsame | ⟨hspace, hsymbol, hc⟩
  · exact hold d hsame
  · exact hblank d hspace hsymbol hc

theorem isDigit_of_isBlank {d : Char} (hblank : Text.isBlank d = true) : d.isDigit = false := by
  by_contra hdigit
  rw [Bool.not_eq_false, Char.isDigit_iff_toNat] at hdigit
  have hapart : ∀ run ∈ Text.blanks, run.2 < '0'.toNat ∨ '9'.toNat < run.1 := by decide
  obtain ⟨run, hrun, hfrom, hto⟩ := (Text.Ranges.contains_iff _ _).1 hblank
  have := hapart run hrun
  omega

theorem isWordSymbol_of_isBlank {d : Char} (hblank : Text.isBlank d = true) :
    lexicon.isWordSymbol d = false := by
  simp [isWordSymbol, hblank]

theorem scanOperator_of_endsAlike (hscan : lexicon.scanOperator c rest = .ok cut)
    (htext : cut.text = c :: inner) (hother : lexicon.EndsAlike c cut.rest other) :
    lexicon.scanOperator c (inner ++ other) = .ok { cut with rest := other } := by
  have hcut : cut.text = (c :: rest).takeWhile lexicon.isOperatorSymbol ∧
      cut.rest = (c :: rest).dropWhile lexicon.isOperatorSymbol := by
    unfold scanOperator at hscan
    split at hscan <;> cases hscan <;> simp_all [Cut.plain]
  have hsymbols : ∀ d ∈ c :: inner, lexicon.isOperatorSymbol d = true := fun d hd =>
    List.mem_takeWhile_imp (hcut.1 ▸ htext ▸ hd)
  have hstop : ∀ d ∈ other.head?, lexicon.isOperatorSymbol d = false :=
    hother.stop (fun d hd => of_mem_head?_dropWhile (hcut.2 ▸ hd)) fun _ _ hsymbol _ => hsymbol
  unfold scanOperator at hscan ⊢
  rw [← List.cons_append, takeWhile_append_of_stop hsymbols hstop,
    dropWhile_append_of_stop hsymbols hstop]
  rw [← hcut.1, htext] at hscan
  split at hscan <;> cases hscan <;> simp_all [Cut.plain]

theorem splitNumeral_of_endsAlike {source : List Char}
    (hother : lexicon.EndsAlike c (splitNumeral source).2 other) :
    splitNumeral ((splitNumeral source).1 ++ other) = ((splitNumeral source).1, other) := by
  refine splitNumeral_of_stop fun d hd => (hother d hd).imp_right fun ⟨hblank, _⟩ => ?_
  exact ⟨isDigit_of_isBlank hblank, fun hpoint => by cases hpoint ▸ hblank⟩

theorem scanNumber_of_endsAlike (hscan : lexicon.scanNumber c rest = .ok cut)
    (htext : cut.text = c :: inner) (hother : lexicon.EndsAlike c cut.rest other) :
    lexicon.scanNumber c (inner ++ other) = .ok { cut with rest := other } := by
  have hhead : ∀ {text : List Char}, (∀ d ∈ text.head?, d.isDigit = false) ↔
      ¬ (text.head?.map Char.isDigit).getD false = true := by
    rintro (_ | ⟨d, text⟩) <;> simp
  unfold scanNumber at hscan ⊢
  split at hscan
  · next hsign =>
      rw [if_pos hsign]
      split at hscan
      · next hdigit =>
          cases hscan
          obtain rfl := (List.cons.inj htext).2
          rw [splitNumeral_of_endsAlike hother, if_pos]
          · rfl
          · cases rest with
            | nil => cases hdigit
            | cons d more =>
                obtain ⟨first, others, hfirst, hfirstDigit⟩ :=
                  (Number.isNumeral_splitNumeral hdigit more).exists_cons
                rw [hfirst]
                exact hfirstDigit
      · next hdigit =>
          rw [if_neg (hhead.1 ?_)]
          · exact scanOperator_of_endsAlike hscan htext hother
          · have hwhole := (scanOperator_append hscan).1
            rw [htext, List.cons_append, List.cons.injEq] at hwhole
            rw [← hwhole.2] at hdigit
            cases inner with
            | nil =>
                exact hother.stop (hhead.2 hdigit) fun _ hblank _ _ => isDigit_of_isBlank hblank
            | cons d more => exact hhead.2 hdigit
  · next hsign =>
      cases hscan
      rw [if_neg hsign, ← List.cons_append, ← htext]
      exact congrArg (fun split => Except.ok (Cut.plain .number split.1 split.2))
        (splitNumeral_of_endsAlike hother)

theorem scanWord_of_endsAlike (htext : (lexicon.scanWord c rest).text = c :: inner)
    (hother : lexicon.EndsAlike c (lexicon.scanWord c rest).rest other) :
    lexicon.scanWord c (inner ++ other) = { lexicon.scanWord c rest with rest := other } := by
  obtain rfl := (List.cons.inj htext).2
  have hstop := hother.stop (fun d hd => of_mem_head?_dropWhile hd)
    fun _ hblank _ _ => isWordSymbol_of_isBlank hblank
  have hsymbols : ∀ d ∈ rest.takeWhile lexicon.isWordSymbol, lexicon.isWordSymbol d = true :=
    fun _ => List.mem_takeWhile_imp
  unfold scanWord
  rw [takeWhile_append_of_stop hsymbols hstop, dropWhile_append_of_stop hsymbols hstop]
  rfl

theorem isQuote_of_classify (hclass : lexicon.classify c = .quote) : isQuote c = true := by
  unfold classify at hclass
  grind

theorem isBlank_of_classify (hclass : lexicon.classify c = .blank) : Text.isBlank c = true := by
  unfold classify at hclass
  grind

/-- A lexeme is cut off in the same way in front of every text where it ends alike. -/
theorem scan_of_endsAlike (hscan : lexicon.scan c rest = .ok cut) (htext : cut.text = c :: inner)
    (hother : lexicon.EndsAlike c cut.rest other) :
    lexicon.scan c (inner ++ other) = .ok { cut with rest := other } := by
  unfold scan at hscan ⊢
  split at hscan
  · next hclass =>
      split at hscan
      · next text value after hclose =>
          cases hscan
          obtain rfl := (List.cons.inj htext).2
          rw [closeQuoted_of_rest (isQuote_of_classify hclass) hclose]
      · cases hscan
  · next hclass =>
      cases hscan
      obtain rfl := (List.cons.inj htext).2
      have hc := isBlank_of_classify hclass
      have hstop := hother.stop (fun d hd => of_mem_head?_dropWhile hd)
        fun _ _ _ hother => by cases hc.symm.trans hother
      have hblank : ∀ d ∈ rest.takeWhile Text.isBlank, Text.isBlank d = true :=
        fun _ => List.mem_takeWhile_imp
      rw [takeWhile_append_of_stop hblank hstop, dropWhile_append_of_stop hblank hstop]
      rfl
  · cases hscan
    obtain rfl := (List.cons.inj htext).2
    rfl
  · exact scanNumber_of_endsAlike hscan htext hother
  · exact scanOperator_of_endsAlike hscan htext hother
  · cases hscan
    exact congrArg Except.ok (scanWord_of_endsAlike htext hother)
  · cases hscan

end Lexicon

end Scriptlet
