/-
# Layout

Where lexemes end, white space can be put in, and white space that is there can be exchanged for
other white space. The scanner then cuts off the same lexemes, white space aside, at other places;
so the parse comes to the same, with the places changed.

White space must not make up operators, or it would be taken in by the operator before it.
-/

import Scriptlet.Proofs.Concatenation
import Scriptlet.Proofs.Offsets
import Scriptlet.Proofs.Placement

namespace Scriptlet

open Grammar

/-! ## What the grammar sees of a text -/

/-- A reading without its place. -/
def Reading.unplaced : Reading → Reading := Reading.relocate fun _ => .start

namespace Cursor

variable {lexicon : Lexicon} {c : Char} {rest space text : List Char} {position : Position}

/-- What is read from a cursor on, white space and places left out. -/
def essence (lexicon : Lexicon) (cursor : Cursor) : List Reading :=
  ((cursor.readings lexicon).filter matters).map Reading.unplaced

theorem essence_nil : essence lexicon ⟨[], position⟩ = [] := by
  rw [essence, readings_of_next?_eq_none rfl]
  rfl

theorem essence_of_error {fault : Fault} (hscan : lexicon.scan c rest = .error fault) :
    essence lexicon ⟨c :: rest, position⟩ = [.error ⟨fault, .start⟩] := by
  rw [essence, readings_of_next? (next?_of_error hscan), readings_of_next?_eq_none rfl]
  rfl

theorem essence_of_ok {cut : Cut} (hscan : lexicon.scan c rest = .ok cut) :
    essence lexicon ⟨c :: rest, position⟩ =
      [.ok (cut.lexeme .start)].filter matters ++
        essence lexicon ⟨cut.rest, position.after cut.text⟩ := by
  rw [essence, readings_of_next? (next?_of_ok hscan), ← List.singleton_append, List.filter_append,
    List.map_append]
  congr 1
  by_cases hkind : cut.kind = .whitespace
  · simp [matters, Cut.lexeme, hkind]
  · have hmatters : ∀ place, matters (.ok (cut.lexeme place)) = true := by
      simp [matters, Cut.lexeme, hkind]
    rw [List.filter_cons_of_pos (hmatters _), List.filter_cons_of_pos (hmatters _)]
    rfl

/-- A lexeme that ends alike is seen again in front of another text. -/
theorem essence_append_of_endsAlike {cut : Cut} (hscan : lexicon.scan c rest = .ok cut)
    (hends : lexicon.EndsAlike c cut.rest text) :
    essence lexicon ⟨cut.text ++ text, position⟩ =
      [.ok (cut.lexeme .start)].filter matters ++
        essence lexicon ⟨text, position.after cut.text⟩ := by
  obtain ⟨inner, htext, -⟩ := Lexicon.exists_text_of_scan hscan
  have hagain := Lexicon.scan_of_endsAlike hscan htext hends
  rw [htext, List.cons_append, essence_of_ok hagain, ← htext]
  rfl

theorem essence_of_whitespace {cut : Cut} (hscan : lexicon.scan c rest = .ok cut)
    (hkind : cut.kind = .whitespace) :
    essence lexicon ⟨c :: rest, position⟩ =
      essence lexicon ⟨cut.rest, position.after cut.text⟩ := by
  rw [essence_of_ok hscan, List.filter_cons_of_neg (by simp [matters, Cut.lexeme, hkind])]
  rfl

/-- White space that a text begins with makes no difference. -/
theorem essence_dropWhile (lexicon : Lexicon) (text : List Char) (position : Position) :
    essence lexicon ⟨text.dropWhile Text.isBlank,
        position.after (text.takeWhile Text.isBlank)⟩ =
      essence lexicon ⟨text, position⟩ := by
  obtain ⟨lexemes, fault?, hcuts⟩ := exists_cuts lexicon text position
  obtain ⟨others, hothers, hsame⟩ := hcuts.exists_dropWhile
  rw [essence, essence, hcuts.filter_readings, hothers.filter_readings, hsame]

theorem essence_space_append (hspace : ∀ d ∈ space, Text.isBlank d = true) :
    essence lexicon ⟨space ++ text, position⟩ =
      essence lexicon ⟨text, position.after space⟩ := by
  rw [← essence_dropWhile lexicon (space ++ text), List.dropWhile_append_of_pos hspace,
    List.takeWhile_append_of_pos hspace, Position.after_append, essence_dropWhile]

end Cursor

/-! ## Putting white space in -/

/-- The texts that lexemes can be laid out as: white space may stand before each of them and after
the last, and in the place of one that is white space itself. -/
inductive Lexeme.Spaced : List Lexeme → List Char → Prop
  | done {space} (hspace : ∀ d ∈ space, Text.isBlank d = true) : Spaced [] space
  | keep {space lexeme lexemes text} (hspace : ∀ d ∈ space, Text.isBlank d = true)
      (h : Spaced lexemes text) : Spaced (lexeme :: lexemes) (space ++ lexeme.text.toList ++ text)
  | replace {space lexeme lexemes text} (hspace : ∀ d ∈ space, Text.isBlank d = true)
      (hsome : space ≠ []) (hkind : lexeme.kind = .whitespace) (h : Spaced lexemes text) :
      Spaced (lexeme :: lexemes) (space ++ text)

/-- Whether a source is another one with white space put in between lexemes, before the first of
them or after the last, and with white space exchanged. What cannot be cut up stays as it is. -/
def Lexicon.Relaid (lexicon : Lexicon) (source target : String) : Prop :=
  ∃ (lexemes : List Lexeme) (fault? : Option LexError) (text tail : List Char),
    lexicon.readings source = lexemes.map .ok ++ (fault?.map .error).toList ∧
    source.toList = Lexeme.texts lexemes ++ tail ∧ Lexeme.Spaced lexemes text ∧
    target.toList = text ++ tail

namespace Lexeme.Spaced

variable {lexicon : Lexicon} {lexemes : List Lexeme} {text tail source : List Char}
  {fault? : Option LexError}

theorem mem_head?_append {space more : List Char} (hspace : ∀ d ∈ space, Text.isBlank d = true) :
    ∀ d ∈ (space ++ more).head?, d ∈ more.head? ∨ Text.isBlank d = true := by
  intro d hd
  cases space with
  | nil => exact .inl hd
  | cons first others =>
      cases hd
      exact .inr (hspace d List.mem_cons_self)

/-- The new text begins as the old one, or with white space. -/
theorem head? (h : Spaced lexemes text) {position : Position}
    (hcuts : Cuts lexicon source position lexemes fault?)
    (hsource : source = Lexeme.texts lexemes ++ tail) :
    ∀ d ∈ (text ++ tail).head?, d ∈ source.head? ∨ Text.isBlank d = true := by
  cases h with
  | done hspace => exact hsource ▸ mem_head?_append hspace
  | keep hspace h =>
      cases hcuts with
      | @lexeme c rest _ cut _ _ hscan =>
          obtain ⟨inner, htext, -⟩ := Lexicon.exists_text_of_scan hscan
          rw [Cut.toList_text_lexeme, htext, List.append_assoc, List.append_assoc]
          exact mem_head?_append hspace
  | @replace space _ _ _ hspace hsome =>
      intro d hd
      rw [List.append_assoc, List.head?_append_of_ne_nil _ hsome] at hd
      exact .inr (hspace d (List.mem_of_mem_head? hd))

theorem rest_eq_of_texts {c : Char} {rest : List Char} {cut : Cut} {position : Position}
    (hscan : lexicon.scan c rest = .ok cut)
    (hsource : c :: rest = Lexeme.texts (cut.lexeme position :: lexemes) ++ tail) :
    cut.rest = Lexeme.texts lexemes ++ tail := by
  rw [← (Lexicon.scan_append hscan).1, Lexeme.texts_cons, Cut.toList_text_lexeme,
    List.append_assoc] at hsource
  exact List.append_cancel_left hsource

/-- Lexemes that are laid out anew are cut off again, white space aside. The induction is on the new
layout, and the two texts may stand at different places. -/
theorem essence_eq (h : Spaced lexemes text)
    (hsymbols : ∀ d, Text.isBlank d = true → lexicon.isOperatorSymbol d = false)
    {position : Position} (hcuts : Cuts lexicon source position lexemes fault?)
    (hsource : source = Lexeme.texts lexemes ++ tail) (other : Position) :
    Cursor.essence lexicon ⟨text ++ tail, other⟩ =
      Cursor.essence lexicon ⟨source, position⟩ := by
  induction h generalizing source position other with
  | done hspace =>
      obtain rfl : source = tail := hsource
      rw [Cursor.essence_space_append hspace]
      cases hcuts with
      | done => rw [Cursor.essence_nil, Cursor.essence_nil]
      | fault hscan => rw [Cursor.essence_of_error hscan, Cursor.essence_of_error hscan]
  | @keep space _ _ text hspace h ih =>
      cases hcuts with
      | @lexeme c rest _ cut _ _ hscan hrest =>
          have hleft := rest_eq_of_texts hscan hsource
          rw [Cut.toList_text_lexeme]
          by_cases hc : Text.isBlank c = true
          · -- white space that is kept may be met by new white space, so both are passed at once
            obtain ⟨hkind, hblank⟩ := Lexicon.whitespace_of_isBlank hc hscan
            rw [Cursor.essence_of_whitespace hscan hkind, List.append_assoc,
              Cursor.essence_space_append (List.forall_mem_append.2 ⟨hspace, hblank⟩)]
            exact ih hrest hleft _
          · rw [Bool.not_eq_true] at hc
            have hends : lexicon.EndsAlike c cut.rest (text ++ tail) := fun d hd =>
              (h.head? hrest hleft d hd).imp_right fun hblank => ⟨hblank, hsymbols d hblank, hc⟩
            rw [List.append_assoc, List.append_assoc, Cursor.essence_space_append hspace,
              Cursor.essence_append_of_endsAlike hscan hends, Cursor.essence_of_ok hscan,
              ih hrest hleft]
  | @replace space _ _ text hspace hsome hkind h ih =>
      cases hcuts with
      | @lexeme c rest _ cut _ _ hscan hrest =>
          have hleft := rest_eq_of_texts hscan hsource
          rw [Cursor.essence_of_whitespace hscan hkind, List.append_assoc,
            Cursor.essence_space_append hspace]
          exact ih hrest hleft _

end Lexeme.Spaced

/-! ## The same readings at other places -/

namespace Reading

theorem relocate_congr {change other : Position → Position} {reading : Reading}
    (h : change reading.position = other reading.position) :
    relocate change reading = relocate other reading := by
  cases reading with
  | ok lexeme =>
      have hplace : change lexeme.position = other lexeme.position := h
      simp only [relocate, Lexeme.relocate, hplace]
  | error e =>
      have hplace : change e.position = other e.position := h
      simp only [relocate, LexError.relocate, hplace]

theorem relocate_unplaced (reading : Reading) (place : Position) :
    relocate (fun _ => place) (unplaced reading) = relocate (fun _ => place) reading := by
  cases reading <;> rfl

theorem relocate_position (reading : Reading) :
    relocate (fun _ => reading.position) reading = reading := by
  cases reading <;> rfl

/-- Readings that differ in nothing but their places go over into each other. -/
theorem relocate_eq_of_unplaced {change : Position → Position} {reading other : Reading}
    (h : unplaced other = unplaced reading) (hplace : change reading.position = other.position) :
    relocate change reading = other :=
  calc relocate change reading
    _ = relocate (fun _ => other.position) reading := relocate_congr hplace
    _ = relocate (fun _ => other.position) other := by
        rw [← relocate_unplaced, ← h, relocate_unplaced]
    _ = other := relocate_position other

/-- One change of places does so for a row of readings if no two of them stand at one place. -/
theorem exists_relocate {first second : List Reading}
    (hplaces : first.Pairwise fun earlier later => earlier.position ≠ later.position)
    (h : second.map unplaced = first.map unplaced) :
    ∃ change, second = first.map (relocate change) := by
  induction first generalizing second with
  | nil => exact ⟨id, List.map_eq_nil_iff.1 h⟩
  | cons reading rest ih =>
      rw [List.pairwise_cons] at hplaces
      obtain ⟨other, others, rfl, hsame, hrest⟩ := List.map_eq_cons_iff.1 h
      obtain ⟨change, rfl⟩ := ih hplaces.2 hrest
      refine ⟨Function.update change reading.position other.position, ?_⟩
      rw [List.map_cons, relocate_eq_of_unplaced hsame (Function.update_self ..)]
      refine congrArg (other :: ·) (List.map_congr_left fun later hlater => relocate_congr ?_)
      exact (Function.update_of_ne (hplaces.1 later hlater).symm ..).symm

end Reading

namespace Dialect

variable {dialect : Dialect} {source target : String}

/-- Layout makes no difference to a parse. A source that is laid out anew is read as before, white
space aside, at other places; and its parse comes to the same tree at those places, or to the same
error about the same lexeme, with the same route. -/
theorem parse_of_relaid
    (hsymbols : ∀ c ∈ dialect.lexicon.operatorSymbols.toList, Text.isBlank c = false)
    (h : dialect.lexicon.Relaid source target) :
    ∃ change : Position → Position,
      (dialect.lexicon.readings target).filter matters =
        ((dialect.lexicon.readings source).filter matters).map (Reading.relocate change) ∧
      dialect.parse target = Program.relocateResult change (dialect.parse source) := by
  obtain ⟨lexemes, fault?, text, tail, hreadings, hsource, hspaced, htarget⟩ := h
  have hcuts : Cuts dialect.lexicon source.toList .start lexemes fault? := .of_readings hreadings
  have hblank : ∀ d, Text.isBlank d = true → dialect.lexicon.isOperatorSymbol d = false := by
    intro d hd
    by_contra hsymbol
    rw [Bool.not_eq_false, Lexicon.isOperatorSymbol, List.contains_iff_mem] at hsymbol
    cases hd.symm.trans (hsymbols d hsymbol)
  have hessence := hspaced.essence_eq hblank hcuts hsource .start
  rw [← htarget] at hessence
  have hplaces := hcuts.pairwise_precedes.filter matters
  obtain ⟨change, hchange⟩ := Reading.exists_relocate (hplaces.imp Position.Precedes.ne) hessence
  exact ⟨change, hchange, parseReadings_relocate hchange⟩

theorem relaid_difference : stock.lexicon.Relaid "1- 2;" "1 -\n2;" := by
  have hone : stock.lexicon.scan '1' ['-', ' ', '2', ';'] =
      .ok (.plain .number ['1'] ['-', ' ', '2', ';']) := rfl
  have hminus : stock.lexicon.scan '-' [' ', '2', ';'] =
      .ok (.plain .operator ['-'] [' ', '2', ';']) := rfl
  have hblank : stock.lexicon.scan ' ' ['2', ';'] = .ok (.plain .whitespace [' '] ['2', ';']) := rfl
  have htwo : stock.lexicon.scan '2' [';'] = .ok (.plain .number ['2'] [';']) := rfl
  have hsemiColon : stock.lexicon.scan ';' [] = .ok (.plain .semiColon [';'] []) := rfl
  have hcuts : Cuts stock.lexicon "1- 2;".toList .start _ none :=
    .lexeme hone (.lexeme hminus (.lexeme hblank (.lexeme htwo (.lexeme hsemiColon .done))))
  have hnone : ∀ d ∈ ([] : List Char), Text.isBlank d = true := nofun
  have hspace : ∀ d ∈ [' '], Text.isBlank d = true := List.forall_mem_singleton.2 rfl
  have hbreak : ∀ d ∈ ['\n'], Text.isBlank d = true := List.forall_mem_singleton.2 rfl
  exact ⟨_, none, _, [], hcuts.readings_eq, rfl,
    .keep hnone (.keep hspace (.replace hbreak (by simp) rfl
      (.keep hnone (.keep hnone (.done hnone))))), rfl⟩

/-- White space in front of a sign and a line break behind it change nothing. -/
theorem parse_of_relaid_difference :
    (∀ c ∈ stock.lexicon.operatorSymbols.toList, Text.isBlank c = false) ∧
      stock.lexicon.Relaid "1- 2;" "1 -\n2;" ∧
      ∃ change : Position → Position,
        (stock.lexicon.readings "1 -\n2;").filter matters =
          ((stock.lexicon.readings "1- 2;").filter matters).map (Reading.relocate change) ∧
        stock.parse "1 -\n2;" = Program.relocateResult change (stock.parse "1- 2;") := by
  have hall : (stock.lexicon.operatorSymbols.toList.all fun c => !Text.isBlank c) = true := rfl
  have hsymbols : ∀ c ∈ stock.lexicon.operatorSymbols.toList, Text.isBlank c = false :=
    fun c hc => Bool.not_eq_eq_eq_not.1 (List.all_eq_true.1 hall c hc)
  exact ⟨hsymbols, relaid_difference, parse_of_relaid hsymbols relaid_difference⟩

end Dialect

end Scriptlet
