/-
# What scanning does

A source is cut into lexemes one after the other, up to its end or up to a fault. Nothing is lost
on the way: the texts of the lexemes make up what has been read, and every position is the start
advanced over the texts before it. A stream of readings ends for good, and a fault is its end.
-/

import Scriptlet.Lexeme.Cursor

namespace Scriptlet

/-- What is cut off as a lexeme, at the position where it starts. -/
def Cut.lexeme (cut : Cut) (position : Position) : Lexeme :=
  ⟨cut.kind, String.ofList cut.text, String.ofList cut.value, position⟩

/-- How a text that starts at a position is cut into lexemes, up to its end or a fault. -/
inductive Cuts (lexicon : Lexicon) : List Char → Position → List Lexeme → Option LexError → Prop
  | done {position} : Cuts lexicon [] position [] none
  | fault {c rest position fault} (hscan : lexicon.scan c rest = .error fault) :
      Cuts lexicon (c :: rest) position [] (some ⟨fault, position⟩)
  | lexeme {c rest position cut lexemes fault?} (hscan : lexicon.scan c rest = .ok cut)
      (hrest : Cuts lexicon cut.rest (position.after cut.text) lexemes fault?) :
      Cuts lexicon (c :: rest) position (cut.lexeme position :: lexemes) fault?

/-- The characters that lexemes take up. -/
def Lexeme.texts (lexemes : List Lexeme) : List Char :=
  lexemes.flatMap fun lexeme => lexeme.text.toList

namespace Lexeme

theorem texts_cons (lexeme : Lexeme) (rest : List Lexeme) :
    texts (lexeme :: rest) = lexeme.text.toList ++ texts rest := rfl

end Lexeme

@[simp]
theorem Cut.toList_text_lexeme (cut : Cut) (position : Position) :
    (cut.lexeme position).text.toList = cut.text :=
  String.toList_ofList

namespace Lexicon

variable {lexicon : Lexicon} {c : Char} {rest : List Char} {cut : Cut}

theorem value_of_scanOperator (hscan : lexicon.scanOperator c rest = .ok cut) :
    cut.value = cut.text := by
  unfold scanOperator at hscan
  split at hscan
  · cases hscan
  · cases hscan
    rfl
  · cases hscan
    rfl

theorem value_of_scanNumber (hscan : lexicon.scanNumber c rest = .ok cut) :
    cut.value = cut.text := by
  unfold scanNumber at hscan
  split at hscan
  · split at hscan
    · cases hscan
      rfl
    · exact value_of_scanOperator hscan
  · cases hscan
    rfl

/-- Only string literals have a value of their own. -/
theorem value_of_scan (hscan : lexicon.scan c rest = .ok cut)
    (hclass : lexicon.classify c ≠ .quote) : cut.value = cut.text := by
  unfold scan at hscan
  split at hscan
  · contradiction
  · cases hscan
    rfl
  · cases hscan
    rfl
  · exact value_of_scanNumber hscan
  · exact value_of_scanOperator hscan
  · cases hscan
    rfl
  · cases hscan

end Lexicon

namespace Cursor

variable {lexicon : Lexicon} {c : Char} {rest : List Char} {position : Position}

/-! ## Readings -/

theorem next?_of_error {fault : Fault} (hscan : lexicon.scan c rest = .error fault) :
    next? lexicon ⟨c :: rest, position⟩ =
      some (.error ⟨fault, position⟩, ⟨[], position⟩) := by
  simp only [next?, hscan]

theorem next?_of_ok {cut : Cut} (hscan : lexicon.scan c rest = .ok cut) :
    next? lexicon ⟨c :: rest, position⟩ =
      some (.ok (cut.lexeme position), ⟨cut.rest, position.after cut.text⟩) := by
  simp only [next?, hscan, Cut.lexeme]

theorem readings_of_next?_eq_none {cursor : Cursor} (h : cursor.next? lexicon = none) :
    cursor.readings lexicon = [] := by
  rw [readings]
  split
  · rfl
  · next hsome => cases h.symm.trans hsome

theorem readings_of_next? {cursor after : Cursor} {reading : Reading}
    (h : cursor.next? lexicon = some (reading, after)) :
    cursor.readings lexicon = reading :: after.readings lexicon := by
  rw [readings]
  split
  · next hnone => cases hnone.symm.trans h
  · next hsome =>
      cases hsome.symm.trans h
      rfl

/-! ## Calls -/

variable (lexicon)

/-- The cursor after a number of calls. A call at the end leaves it where it is. -/
def afterCalls (cursor : Cursor) : Nat → Cursor
  | 0 => cursor
  | n + 1 =>
    match cursor.next? lexicon with
    | none => cursor
    | some (_, after) => after.afterCalls n

/-- What a call yields after a number of other calls. -/
def call? (cursor : Cursor) (n : Nat) : Option Reading :=
  ((cursor.afterCalls lexicon n).next? lexicon).map Prod.fst

variable {lexicon}

/-- The calls yield the readings one by one, and nothing ever after. -/
theorem call?_eq (cursor : Cursor) (n : Nat) :
    cursor.call? lexicon n = (cursor.readings lexicon)[n]? := by
  induction n generalizing cursor with
  | zero =>
      rw [call?, afterCalls]
      cases hnext : cursor.next? lexicon with
      | none => simp [readings_of_next?_eq_none hnext]
      | some result => simp [readings_of_next? hnext]
  | succ n ih =>
      cases hnext : cursor.next? lexicon with
      | none => simp [call?, afterCalls, hnext, readings_of_next?_eq_none hnext]
      | some result =>
          rw [readings_of_next? hnext, List.getElem?_cons_succ, ← ih]
          simp only [call?, afterCalls, hnext]

end Cursor

/-! ## Cutting up a text -/

section

variable (lexicon : Lexicon)

/-- Every text can be cut up. -/
theorem exists_cuts (text : List Char) (position : Position) :
    ∃ lexemes fault?, Cuts lexicon text position lexemes fault? := by
  match text with
  | [] => exact ⟨[], none, .done⟩
  | c :: rest =>
    match hscan : lexicon.scan c rest with
    | .error fault => exact ⟨[], some ⟨fault, position⟩, .fault hscan⟩
    | .ok cut =>
      obtain ⟨lexemes, fault?, hrest⟩ := exists_cuts cut.rest (position.after cut.text)
      exact ⟨cut.lexeme position :: lexemes, fault?, .lexeme hscan hrest⟩
termination_by text.length
decreasing_by exact Lexicon.length_rest_lt hscan

end

namespace Cuts

variable {lexicon : Lexicon} {text : List Char} {position : Position} {lexemes : List Lexeme}
  {fault? : Option LexError}

/-- The readings of a text are its lexemes, then its fault if there is one. -/
theorem readings_eq (h : Cuts lexicon text position lexemes fault?) :
    Cursor.readings lexicon ⟨text, position⟩ =
      lexemes.map .ok ++ (fault?.map .error).toList := by
  induction h with
  | done => exact Cursor.readings_of_next?_eq_none rfl
  | fault hscan =>
      rw [Cursor.readings_of_next? (Cursor.next?_of_error hscan),
        Cursor.readings_of_next?_eq_none rfl]
      rfl
  | lexeme hscan _ ih =>
      rw [Cursor.readings_of_next? (Cursor.next?_of_ok hscan), ih]
      rfl

/-- Lexemes and a fault can be told apart among readings. -/
theorem readings_inj {others : List Lexeme} {fault?' : Option LexError}
    (h : (lexemes.map .ok ++ (fault?.map .error).toList : List Reading) =
      others.map .ok ++ (fault?'.map .error).toList) : lexemes = others ∧ fault? = fault?' := by
  induction lexemes generalizing others with
  | nil =>
      cases others <;> cases fault? <;> cases fault?' <;> cases h <;> exact ⟨rfl, rfl⟩
  | cons lexeme rest ih =>
      cases others with
      | nil => cases fault?' <;> cases h
      | cons other more =>
          obtain ⟨hlexeme, hrest⟩ := List.cons.inj h
          obtain ⟨rfl, rfl⟩ := ih hrest
          cases hlexeme
          exact ⟨rfl, rfl⟩

/-- A text is cut into what is read from it. -/
theorem of_readings (h : Cursor.readings lexicon ⟨text, position⟩ =
      lexemes.map .ok ++ (fault?.map .error).toList) :
    Cuts lexicon text position lexemes fault? := by
  obtain ⟨others, fault?', hcuts⟩ := exists_cuts lexicon text position
  obtain ⟨rfl, rfl⟩ := readings_inj (hcuts.readings_eq.symm.trans h)
  exact hcuts

/-- A text begins with its lexemes, and without a fault nothing is left after them. -/
theorem exists_rest (h : Cuts lexicon text position lexemes fault?) :
    ∃ rest, text = Lexeme.texts lexemes ++ rest ∧ (fault? = none → rest = []) := by
  induction h with
  | done => exact ⟨[], rfl, fun _ => rfl⟩
  | fault => exact ⟨_, rfl, nofun⟩
  | lexeme hscan _ ih =>
      obtain ⟨rest, hrest, hnone⟩ := ih
      refine ⟨rest, ?_, hnone⟩
      rw [Lexeme.texts_cons, Cut.toList_text_lexeme, List.append_assoc, ← hrest,
        (Lexicon.scan_append hscan).1]

/-- The text up to a lexeme of it, and the lexemes before that. -/
theorem exists_scan {before after : List Lexeme} {lexeme : Lexeme}
    (h : Cuts lexicon text position (before ++ lexeme :: after) fault?) :
    ∃ c rest cut, lexicon.scan c rest = .ok cut ∧
      lexeme = cut.lexeme (position.after (Lexeme.texts before)) := by
  induction before generalizing text position with
  | nil =>
      cases h with
      | lexeme hscan => exact ⟨_, _, _, hscan, rfl⟩
  | cons first rest ih =>
      cases h with
      | lexeme hscan hrest =>
          rw [Lexeme.texts_cons, Cut.toList_text_lexeme, Position.after_append]
          exact ih hrest

theorem position_fault {e : LexError} (h : Cuts lexicon text position lexemes (some e)) :
    e.position = position.after (Lexeme.texts lexemes) := by
  generalize hfault : some e = fault? at h
  induction h with
  | done => cases hfault
  | fault =>
      cases hfault
      rfl
  | lexeme _ _ ih =>
      rw [Lexeme.texts_cons, Cut.toList_text_lexeme, Position.after_append]
      exact ih hfault

end Cuts

namespace Lexicon

variable (lexicon : Lexicon)

theorem exists_cuts_start (source : String) :
    ∃ lexemes fault?, Cuts lexicon source.toList .start lexemes fault? ∧
      lexicon.readings source = lexemes.map .ok ++ (fault?.map .error).toList := by
  obtain ⟨lexemes, fault?, hcuts⟩ := exists_cuts lexicon source.toList .start
  exact ⟨lexemes, fault?, hcuts, hcuts.readings_eq⟩

/-- The lexemes of a source are those that are read, if no fault comes after them. -/
theorem mapM_readings (lexemes : List Lexeme) (fault? : Option LexError) :
    (lexemes.map .ok ++ (fault?.map .error).toList : List Reading).mapM id =
      match fault? with
      | none => .ok lexemes
      | some e => .error e := by
  induction lexemes with
  | nil => cases fault? <;> rfl
  | cons lexeme rest ih =>
      rw [List.map_cons, List.cons_append, List.mapM_cons, ih]
      cases fault? <;> rfl

theorem lexemes_eq_ok_iff {source : String} {lexemes : List Lexeme} :
    lexicon.lexemes source = .ok lexemes ↔ lexicon.readings source = lexemes.map .ok := by
  obtain ⟨others, fault?, -, hreadings⟩ := lexicon.exists_cuts_start source
  have hothers : lexicon.lexemes source = _ :=
    (congrArg (List.mapM id) hreadings).trans (mapM_readings others fault?)
  constructor
  · intro hlexemes
    cases fault? with
    | none =>
        cases hlexemes.symm.trans hothers
        simpa using hreadings
    | some e => cases hlexemes.symm.trans hothers
  · intro hlexemes
    rw [Lexicon.lexemes, hlexemes]
    simpa using mapM_readings lexemes none

/-- Calls on a source yield its readings and then nothing. The readings are lexemes, with at most
one fault at the end. No lexeme is empty, the texts of the lexemes are the source up to the fault,
all positions are reached over the texts before them, and only string literals have a value that
is not their text. -/
theorem readings_lossless (source : String) :
    (∀ n, (Cursor.ofString source).call? lexicon n = (lexicon.readings source)[n]?) ∧
    ∃ lexemes fault? rest,
      lexicon.readings source = lexemes.map .ok ++ (fault?.map .error).toList ∧
      source.toList = Lexeme.texts lexemes ++ rest ∧ (fault? = none → rest = []) ∧
      (∀ before lexeme after, lexemes = before ++ lexeme :: after →
        lexeme.text ≠ "" ∧ lexeme.position = Position.start.after (Lexeme.texts before) ∧
        ((∀ c ∈ lexeme.text.toList.head?, lexicon.classify c ≠ .quote) →
          lexeme.value = lexeme.text)) ∧
      ∀ e ∈ fault?, e.position = Position.start.after (Lexeme.texts lexemes) := by
  obtain ⟨lexemes, fault?, hcuts, hreadings⟩ := lexicon.exists_cuts_start source
  obtain ⟨rest, hrest, hnone⟩ := hcuts.exists_rest
  refine ⟨fun n => Cursor.call?_eq _ n, lexemes, fault?, rest, hreadings, hrest, hnone, ?_, ?_⟩
  · rintro before lexeme after rfl
    obtain ⟨c, left, cut, hscan, rfl⟩ := hcuts.exists_scan
    obtain ⟨hwhole, hnonempty⟩ := scan_append hscan
    refine ⟨?_, rfl, fun hclass => ?_⟩
    · intro hempty
      exact hnonempty (by rw [← Cut.toList_text_lexeme cut, hempty]; rfl)
    · have hhead : c ∈ cut.text.head? := by
        cases htext : cut.text with
        | nil => exact absurd htext hnonempty
        | cons first others =>
            rw [htext] at hwhole
            cases hwhole
            rfl
      rw [Cut.toList_text_lexeme] at hclass
      exact congrArg String.ofList (value_of_scan hscan (hclass c hhead))
  · rintro e rfl
    exact hcuts.position_fault

end Lexicon

end Scriptlet
