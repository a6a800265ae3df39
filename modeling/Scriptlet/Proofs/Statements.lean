/-
# Programs one after the other

A statement ends at its first semicolon, so a row of lexemes can be taken apart into statements in
one way only. What follows a program is therefore judged by itself: the whole is a program, or the
beginning of one, if and only if what follows is.
-/

import Scriptlet.Proofs.Earliest
import Scriptlet.Proofs.Relocation

namespace Scriptlet

namespace Phrase

/-! ## Taking a program apart -/

theorem Derives.semiColon_notMem {phrase : Phrase} {kinds : List Kind} (h : Derives phrase kinds)
    (hphrase : phrase ∈ [operand, expression, arguments]) : .semiColon ∉ kinds := by
  induction h with
  | evaluation | assignment | declaration | empty | append => simp at hphrase
  | _ => simp_all

/-- A statement ends at its first semicolon. -/
theorem Derives.exists_concat {kinds : List Kind} (h : Derives statement kinds) :
    ∃ inner, kinds = inner ++ [.semiColon] ∧ .semiColon ∉ inner := by
  cases h with
  | evaluation h => exact ⟨_, rfl, h.semiColon_notMem (by simp)⟩
  | assignment h =>
      exact ⟨.identifier :: .equals :: _, rfl, by simpa using h.semiColon_notMem (by simp)⟩
  | declaration h =>
      exact ⟨.letWord :: .identifier :: .identifier :: .equals :: _, rfl,
        by simpa using h.semiColon_notMem (by simp)⟩

theorem Derives.exists_flatten {kinds : List Kind} (h : Derives program kinds) :
    ∃ parts : List (List Kind), (∀ part ∈ parts, Derives statement part) ∧
      parts.flatten = kinds := by
  generalize hphrase : program = phrase at h
  induction h with
  | empty => exact ⟨[], by simp, rfl⟩
  | @append earlier last _ hlast ih =>
      obtain ⟨parts, hparts, rfl⟩ := ih hphrase
      refine ⟨parts ++ [last], ?_, by simp⟩
      simpa [or_imp, forall_and] using ⟨hparts, hlast⟩
  | _ => cases hphrase

theorem derives_flatten {parts : List (List Kind)} (h : ∀ part ∈ parts, Derives statement part) :
    Derives program parts.flatten := by
  induction parts using List.reverseRecOn with
  | nil => exact .empty
  | append_singleton earlier last ih =>
      rw [List.flatten_append, List.flatten_singleton]
      exact .append (ih fun part hpart => h part (by simp [hpart])) (h last (by simp))

/-- What stands before the first semicolon is the same, and so is what stands after it. -/
theorem append_semiColon_inj {first second rest other : List Kind} (hfirst : .semiColon ∉ first)
    (hsecond : .semiColon ∉ second)
    (h : first ++ .semiColon :: rest = second ++ .semiColon :: other) :
    first = second ∧ rest = other := by
  have before : ∀ {inner after : List Kind}, .semiColon ∉ inner →
      (inner ++ .semiColon :: after).takeWhile (fun kind => kind ≠ .semiColon) = inner := by
    intro inner after hinner
    rw [List.takeWhile_append_of_pos, List.takeWhile_cons_of_neg (by simp), List.append_nil]
    intro kind hkind
    exact decide_eq_true fun heq => hinner (heq ▸ hkind)
  obtain rfl : first = second := by rw [← before hfirst, h, before hsecond]
  exact ⟨rfl, by simpa using h⟩

/-- The statements that a row of kinds begins with are its first statements. -/
theorem exists_eq_append_of_flatten {first whole : List (List Kind)} {rest : List Kind}
    (hfirst : ∀ part ∈ first, Derives statement part)
    (hwhole : ∀ part ∈ whole, Derives statement part)
    (h : whole.flatten = first.flatten ++ rest) : ∃ later, whole = first ++ later := by
  induction first generalizing whole with
  | nil => exact ⟨whole, rfl⟩
  | cons part others ih =>
      rw [List.forall_mem_cons] at hfirst
      obtain ⟨inner, rfl, hinner⟩ := hfirst.1.exists_concat
      cases whole with
      | nil => simp at h
      | cons part' others' =>
          rw [List.forall_mem_cons] at hwhole
          obtain ⟨inner', rfl, hinner'⟩ := hwhole.1.exists_concat
          simp only [List.flatten_cons, List.append_assoc, List.singleton_append] at h
          obtain ⟨rfl, hrest⟩ := append_semiColon_inj hinner' hinner h
          obtain ⟨later, rfl⟩ := ih hfirst.2 hwhole.2 hrest
          exact ⟨later, rfl⟩

/-- Programs can be put one after the other. -/
theorem Derives.concat {first second : List Kind} (hfirst : Derives program first)
    (hsecond : Derives program second) : Derives program (first ++ second) := by
  obtain ⟨parts, hparts, rfl⟩ := hfirst.exists_flatten
  obtain ⟨others, hothers, rfl⟩ := hsecond.exists_flatten
  rw [← List.flatten_append]
  apply derives_flatten
  simpa [or_imp, forall_and] using ⟨hparts, hothers⟩

/-- What follows a program in a program is one. -/
theorem Derives.of_append {first second : List Kind} (h : Derives program (first ++ second))
    (hfirst : Derives program first) : Derives program second := by
  obtain ⟨whole, hwhole, hflatten⟩ := h.exists_flatten
  obtain ⟨parts, hparts, rfl⟩ := hfirst.exists_flatten
  obtain ⟨later, rfl⟩ := exists_eq_append_of_flatten hparts hwhole hflatten
  rw [List.flatten_append, List.append_cancel_left_eq] at hflatten
  subst hflatten
  exact derives_flatten fun part hpart => hwhole part (by simp [hpart])

/-- A program is empty or ends with a semicolon. -/
theorem Derives.getLast? {kinds : List Kind} (h : Derives program kinds) :
    ∀ kind ∈ kinds.getLast?, kind = .semiColon := by
  cases h with
  | empty => simp
  | append _ hlast =>
      obtain ⟨inner, rfl, -⟩ := hlast.exists_concat
      simp [← List.append_assoc]

/-! ## Reading what follows -/

variable {operators : OperatorTable} {first second : List Lexeme}

/-- Lexemes read as a program if their kinds are derivable and their values are valid. -/
theorem isReading_program_iff {lexemes : List Lexeme} : IsReading operators lexemes program ↔
    (∀ lexeme ∈ lexemes, lexeme.IsValid operators) ∧
      Derives program (lexemes.map Lexeme.kind) := by
  constructor
  · rintro ⟨program, hcanonical, hmarks⟩
    exact ⟨hcanonical.isValid hmarks, hmarks.map_kind ▸ hcanonical.derives⟩
  · rintro ⟨hvalid, hderives⟩
    exact hderives.isReading _ hvalid rfl

theorem isReading_append_iff (hfirst : IsReading operators first program) :
    IsReading operators (first ++ second) program ↔ IsReading operators second program := by
  simp only [isReading_program_iff, List.map_append, List.forall_mem_append] at hfirst ⊢
  constructor
  · rintro ⟨⟨-, hvalid⟩, hderives⟩
    exact ⟨hvalid, hderives.of_append hfirst.2⟩
  · rintro ⟨hvalid, hderives⟩
    exact ⟨⟨hfirst.1, hvalid⟩, hfirst.2.concat hderives⟩

/-- Where lexemes stand makes no difference to whether they read as a program. -/
theorem isReading_relocate_append_iff (change : Position → Position) (more : List Lexeme) :
    IsReading operators (second.map (Lexeme.relocate change) ++ more) program ↔
      IsReading operators (second ++ more) program := by
  have hkinds : (second.map (Lexeme.relocate change)).map Lexeme.kind =
      second.map Lexeme.kind := by
    rw [List.map_map]
    rfl
  have hvalid : ∀ lexeme : Lexeme,
      (lexeme.relocate change).IsValid operators ↔ lexeme.IsValid operators :=
    fun lexeme => ⟨fun h => ⟨h.operator, h.number⟩, fun h => ⟨h.operator, h.number⟩⟩
  simp only [isReading_program_iff, List.map_append, hkinds, List.forall_mem_append,
    List.forall_mem_map, hvalid]

theorem isReading_relocate_iff (change : Position → Position) :
    IsReading operators (second.map (Lexeme.relocate change)) program ↔
      IsReading operators second program := by
  simpa using isReading_relocate_append_iff change []

end Phrase

open Phrase

/-- What follows a program is the beginning of a program if the whole is, wherever it stands. -/
theorem isBeginning_append_relocate_iff {operators : OperatorTable} {first : List Lexeme}
    (hfirst : IsReading operators first .program) (change : Position → Position)
    (second : List Lexeme) :
    IsBeginning operators (first ++ second.map (Lexeme.relocate change)) ↔
      IsBeginning operators second := by
  simp only [IsBeginning, List.append_assoc, isReading_append_iff hfirst,
    isReading_relocate_append_iff]

end Scriptlet
