/-
# Numbers that are scanned denote

The scanner and the reader of numbers agree: what is cut off as a number has digits, at most one
point, and a sign at most in front, and every such text denotes. Only a dialect that gives the kind
of numbers to a word can bring a number about that does not.
-/

import Mathlib.Data.List.TakeWhile
import Scriptlet.Lexeme.Scan
import Scriptlet.Number.Read

namespace Scriptlet

/-! ## The shape of numbers -/

namespace Number

/-- An unsigned number: some digits, and perhaps a point with or without digits after it. -/
inductive IsNumeral : List Char → Prop
  | whole {digits} (hdigits : ∀ c ∈ digits, c.isDigit = true) (hsome : digits ≠ []) :
      IsNumeral digits
  | point {digits fraction} (hdigits : ∀ c ∈ digits, c.isDigit = true) (hsome : digits ≠ [])
      (hfraction : ∀ c ∈ fraction, c.isDigit = true) : IsNumeral (digits ++ '.' :: fraction)

theorem isNumeral_splitNumeral {c : Char} (hc : c.isDigit = true) (rest : List Char) :
    IsNumeral (splitNumeral (c :: rest)).1 := by
  have hdigits : ∀ {text : List Char}, ∀ d ∈ text.takeWhile Char.isDigit, d.isDigit = true :=
    fun _ hd => List.all_eq_true.1 List.all_takeWhile _ hd
  have hsome : (c :: rest).takeWhile Char.isDigit ≠ [] := by simp [hc]
  unfold splitNumeral
  split
  · exact .point hdigits hsome hdigits
  · exact .whole hdigits hsome

theorem IsNumeral.readDecimal? {text : List Char} (h : IsNumeral text) :
    (readDecimal? text).isSome := by
  cases h with
  | whole hdigits hsome =>
      have htake : text.takeWhile Char.isDigit = text := List.takeWhile_eq_self_iff.2 hdigits
      have hdrop : text.dropWhile Char.isDigit = [] := List.dropWhile_eq_nil_iff.2 hdigits
      simp [Number.readDecimal?, htake, hdrop, hsome, readExponent?]
  | @point digits fraction hdigits hsome hfraction =>
      have htake : (digits ++ '.' :: fraction).takeWhile Char.isDigit = digits := by
        rw [List.takeWhile_append_of_pos hdigits, List.takeWhile_cons_of_neg (by simp),
          List.append_nil]
      have hdrop : (digits ++ '.' :: fraction).dropWhile Char.isDigit = '.' :: fraction := by
        rw [List.dropWhile_append_of_pos hdigits, List.dropWhile_cons_of_neg (by simp)]
      have hend : fraction.dropWhile Char.isDigit = [] := List.dropWhile_eq_nil_iff.2 hfraction
      simp [Number.readDecimal?, htake, hdrop, hend, hsome, readExponent?]

theorem IsNumeral.exists_cons {text : List Char} (h : IsNumeral text) :
    ∃ c rest, text = c :: rest ∧ c.isDigit = true := by
  cases h with
  | whole hdigits hsome | point hdigits hsome =>
      obtain ⟨c, rest, rfl⟩ := List.exists_cons_of_ne_nil hsome
      exact ⟨c, _, rfl, hdigits c List.mem_cons_self⟩

/-- The signs that a number may have. -/
def signs : List (List Char) := [[], ['+'], ['-']]

theorem IsNumeral.splitSign {sign text : List Char} (h : IsNumeral text) (hsign : sign ∈ signs) :
    (splitSign (sign ++ text)).2 = text := by
  simp only [signs, List.mem_cons, List.not_mem_nil, or_false] at hsign
  rcases hsign with rfl | rfl | rfl
  · obtain ⟨c, rest, rfl, hc⟩ := h.exists_cons
    rw [List.nil_append]
    unfold Number.splitSign
    split
    · next heq =>
        cases heq
        cases hc
    · next heq =>
        cases heq
        cases hc
    · rfl
  · rfl
  · rfl

/-- A number with or without a sign denotes. -/
theorem IsNumeral.ofString? {sign text : List Char} (h : IsNumeral text) (hsign : sign ∈ signs) :
    (Binary64.ofString? (String.ofList (sign ++ text))).isSome := by
  unfold Binary64.ofString?
  rw [String.toList_ofList]
  dsimp only
  rw [h.splitSign hsign]
  split
  · rfl
  · rfl
  · rfl
  · rw [Option.isSome_map]
    exact h.readDecimal?

end Number

/-! ## What is cut off as a number -/

/-- Whether the tables give a kind to no word. -/
structure Lexicon.HasNoWord (lexicon : Lexicon) (kind : Kind) : Prop where
  keywords : ∀ word : String, lexicon.keywords[word]? ≠ some kind
  literals : ∀ word : String, lexicon.literals[word]? ≠ some kind

namespace Lexicon

variable {lexicon : Lexicon} {c : Char} {rest : List Char} {cut : Cut}

theorem HasNoWord.wordKind?_ne {kind : Kind} (h : lexicon.HasNoWord kind) (word : String) :
    lexicon.wordKind? word ≠ some kind := by
  intro hword
  rw [wordKind?, Option.orElse_eq_orElse, Option.orElse_eq_or,
    Option.or_eq_some_iff] at hword
  rcases hword with hword | ⟨-, hword⟩
  · exact h.keywords _ hword
  · exact h.literals _ hword

theorem HasNoWord.kind_scanWord_ne {kind : Kind} (h : lexicon.HasNoWord kind)
    (hkind : kind ≠ .identifier) : (lexicon.scanWord c rest).kind ≠ kind := by
  generalize hword : String.ofList (c :: rest.takeWhile lexicon.isWordSymbol) = word
  have hplain : (lexicon.scanWord c rest).kind = (lexicon.wordKind? word).getD .identifier := by
    rw [← hword]
    rfl
  rw [hplain]
  cases hfound : lexicon.wordKind? word with
  | none => exact hkind.symm
  | some found =>
      rintro rfl
      exact h.wordKind?_ne word hfound

theorem kind_of_scanOperator (hscan : lexicon.scanOperator c rest = .ok cut) :
    cut.kind ∈ [.equals, .operator] := by
  unfold scanOperator at hscan
  split at hscan
  · cases hscan
  · cases hscan
    simp only [Cut.plain]
    split <;> simp
  · cases hscan
    simp [Cut.plain]

theorem kind_of_scanNumber (hscan : lexicon.scanNumber c rest = .ok cut) :
    cut.kind ∈ [.number, .equals, .operator] := by
  unfold scanNumber at hscan
  split at hscan
  · split at hscan
    · cases hscan
      simp [Cut.plain]
    · exact List.mem_cons_of_mem _ (kind_of_scanOperator hscan)
  · cases hscan
    simp [Cut.plain]

/-- The first character of a lexeme tells of what kind it is, words aside. -/
theorem kind_of_scan (hscan : lexicon.scan c rest = .ok cut) :
    match lexicon.classify c with
    | .quote => cut.kind = .quoted
    | .blank => cut.kind = .whitespace
    | .punctuation kind => cut.kind = kind
    | .numeric => cut.kind ∈ [.number, .equals, .operator]
    | .operator => cut.kind ∈ [.equals, .operator]
    | .word => cut = lexicon.scanWord c rest
    | .unknown => False := by
  rw [scan] at hscan
  cases hclass : lexicon.classify c with
  | quote =>
      rw [hclass] at hscan
      dsimp only at hscan
      split at hscan
      · cases hscan
        rfl
      · cases hscan
  | numeric =>
      rw [hclass] at hscan
      exact kind_of_scanNumber hscan
  | operator =>
      rw [hclass] at hscan
      exact kind_of_scanOperator hscan
  | blank | punctuation | word =>
      rw [hclass] at hscan
      cases hscan
      rfl
  | unknown => exact absurd hclass (classify_ne_unknown c)

theorem numeric_of_classify (hclass : lexicon.classify c = .numeric) :
    c = '+' ∨ c = '-' ∨ c.isDigit = true := by
  unfold classify at hclass
  grind

theorem ofPunctuation?_of_classify {kind : Kind} (hclass : lexicon.classify c = .punctuation kind) :
    Kind.ofPunctuation? c = some kind := by
  unfold classify at hclass
  grind

theorem mem_of_ofPunctuation? {kind : Kind} (h : Kind.ofPunctuation? c = some kind) :
    kind ∈ [.braceOpen, .braceClose, .parenOpen, .parenClose, .semiColon, .comma] := by
  unfold Kind.ofPunctuation? at h
  split at h <;> cases h <;> simp

/-- What is cut off is no word if the tables have no word of its kind. -/
theorem HasNoWord.classify_ne_word {kind : Kind} (h : lexicon.HasNoWord kind)
    (hother : kind ≠ .identifier) (hscan : lexicon.scan c rest = .ok cut)
    (hkind : cut.kind = kind) : lexicon.classify c ≠ .word := by
  intro hclass
  have hword := kind_of_scan hscan
  rw [hclass] at hword
  subst hword
  exact h.kind_scanWord_ne hother hkind

open Number in
theorem exists_isNumeral_of_scanNumber (hclass : c = '+' ∨ c = '-' ∨ c.isDigit = true)
    (hscan : lexicon.scanNumber c rest = .ok cut) (hkind : cut.kind = .number) :
    ∃ sign ∈ signs, ∃ text, IsNumeral text ∧ cut.value = sign ++ text := by
  unfold scanNumber at hscan
  split at hscan
  · next hsign =>
      split at hscan
      · next hdigit =>
          cases hscan
          cases rest with
          | nil => cases hdigit
          | cons d rest =>
              refine ⟨[c], ?_, _, isNumeral_splitNumeral hdigit rest, rfl⟩
              rcases hsign with rfl | rfl <;> simp [signs]
      · have hoperator := kind_of_scanOperator hscan
        rw [hkind] at hoperator
        simp at hoperator
  · next hsign =>
      cases hscan
      have hdigit : c.isDigit = true := by
        rcases hclass with h | h | h
        · exact absurd (Or.inl h) hsign
        · exact absurd (Or.inr h) hsign
        · exact h
      exact ⟨[], by simp [signs], _, isNumeral_splitNumeral hdigit rest, rfl⟩

open Number in
/-- What is cut off as a number is one, unless it is a word that the tables call a number. -/
theorem exists_isNumeral_of_scan (hwords : lexicon.HasNoWord .number)
    (hscan : lexicon.scan c rest = .ok cut) (hkind : cut.kind = .number) :
    ∃ sign ∈ signs, ∃ text, IsNumeral text ∧ cut.value = sign ++ text := by
  have hkinds := kind_of_scan hscan
  cases hclass : lexicon.classify c with
  | numeric =>
      rw [scan, hclass] at hscan
      exact exists_isNumeral_of_scanNumber (numeric_of_classify hclass) hscan hkind
  | punctuation kind =>
      have hpunctuation := mem_of_ofPunctuation? (ofPunctuation?_of_classify hclass)
      rw [hclass] at hkinds
      simp [← hkinds, hkind] at hpunctuation
  | word => exact absurd hclass (hwords.classify_ne_word (by decide) hscan hkind)
  | quote | blank | operator | unknown => simp [hclass, hkind] at hkinds

/-- What is cut off as a number denotes, unless the tables call a word a number. -/
theorem ofString?_of_scan (hwords : lexicon.HasNoWord .number)
    (hscan : lexicon.scan c rest = .ok cut) (hkind : cut.kind = .number) :
    (Binary64.ofString? (String.ofList cut.value)).isSome := by
  obtain ⟨sign, hsign, text, htext, hvalue⟩ := exists_isNumeral_of_scan hwords hscan hkind
  rw [hvalue]
  exact htext.ofString? hsign

/-! ## The stock tables -/

theorem getElem?_insertMany_ne {table : WordTable} {entries : List (String × Kind)} {kind : Kind}
    (htable : ∀ word : String, table[word]? ≠ some kind)
    (hentries : kind ∉ entries.map Prod.snd) (word : String) :
    (table.insertMany entries)[word]? ≠ some kind := by
  induction entries generalizing table with
  | nil => exact htable word
  | cons entry rest ih =>
      rw [List.map_cons, List.mem_cons, not_or] at hentries
      rw [Std.TreeMap.insertMany_cons]
      refine ih (fun word => ?_) hentries.2
      rw [Std.TreeMap.getElem?_insert]
      split
      · simpa [eq_comm] using hentries.1
      · exact htable word

/-- A table gives words no other kinds than those it is made with. -/
theorem getElem?_ofList_ne {entries : List (String × Kind)} {kind : Kind}
    (hentries : kind ∉ entries.map Prod.snd) (word : String) :
    (Std.TreeMap.ofList entries : WordTable)[word]? ≠ some kind := by
  rw [Std.TreeMap.ofList_eq_insertMany_empty]
  exact getElem?_insertMany_ne (by simp) hentries word

/-- No word of the stock tables has a kind that lexemes of other characters have. -/
theorem hasNoWord_stock {kind : Kind}
    (h : kind ∉ [.ifWord, .elseWord, .elseifWord, .whileWord, .letWord, .trueWord, .falseWord]) :
    stock.HasNoWord kind := by
  simp only [List.mem_cons, List.not_mem_nil, or_false, not_or] at h
  refine ⟨getElem?_ofList_ne ?_, getElem?_ofList_ne ?_⟩ <;> simp [h]

end Lexicon

end Scriptlet
