/-
# The printed program determines the program

A program is printed with everything in it: the fields of every node come with their names, and its
type comes first. What is printed of two programs is the same exactly if the programs are, but for
numbers that are not finite, which are all printed alike. Such numbers do come about: a literal with
too many digits denotes an infinity.
-/

import Scriptlet.Command.Run
import Scriptlet.Proofs.Rendering
import Scriptlet.Proofs.WholeNumbers

namespace Scriptlet

open Json (Value)

/-! ## Programs with other numbers -/

namespace Node

mutual

/-- A node with other numbers. -/
def mapNumbers (f : Binary64 → Binary64) : Node → Node
  | identifier name => identifier name
  | string value position => string value position
  | number value position => number (f value) position
  | boolean value position => boolean value position
  | call callee arguments position => call callee (mapNumbersAll f arguments) position
  | operator symbol left right position =>
    operator symbol (mapNumbers f left) (mapNumbers f right) position
  | declaration name valueType value position =>
    declaration name valueType (mapNumbers f value) position
  | assignment name children position => assignment name (mapNumbersAll f children) position
  | group inner position => group (mapNumbers f inner) position

/-- Nodes with other numbers. -/
def mapNumbersAll (f : Binary64 → Binary64) : List Node → List Node
  | [] => []
  | node :: rest => mapNumbers f node :: mapNumbersAll f rest

end

end Node

/-- A statement with other numbers. -/
def Statement.mapNumbers (f : Binary64 → Binary64) (statement : Statement) : Statement :=
  ⟨Node.mapNumbersAll f statement.children, statement.position⟩

/-- A program with other numbers. -/
def Program.mapNumbers (f : Binary64 → Binary64) (program : Program) : Program :=
  ⟨program.statements.map (Statement.mapNumbers f)⟩

/-! ## Programs with other numbers as structured values -/

namespace Node

mutual

theorem toJson_mapNumbers (f : Binary64 → Binary64) :
    ∀ node : Node, (node.mapNumbers f).toJson = node.toJson.mapFloats f
  | identifier _ | string .. | number .. | boolean .. => rfl
  | call callee arguments position => by
      rw [mapNumbers, toJson, toJsonAll_mapNumbersAll f arguments, toJson]
      rfl
  | operator symbol left right position => by
      rw [mapNumbers, toJson, toJson_mapNumbers f left, toJson_mapNumbers f right, toJson]
      rfl
  | declaration name valueType value position => by
      rw [mapNumbers, toJson, toJson_mapNumbers f value, toJson]
      rfl
  | assignment name children position => by
      rw [mapNumbers, toJson, toJsonAll_mapNumbersAll f children, toJson]
      rfl
  | group inner position => by
      rw [mapNumbers, toJson, toJson_mapNumbers f inner, toJson]
      rfl

theorem toJsonAll_mapNumbersAll (f : Binary64 → Binary64) :
    ∀ nodes : List Node, toJsonAll (mapNumbersAll f nodes) = Value.mapFloatsAll f (toJsonAll nodes)
  | [] => rfl
  | node :: rest => by
      rw [mapNumbersAll, toJsonAll, toJson_mapNumbers f node, toJsonAll_mapNumbersAll f rest,
        toJsonAll, Value.mapFloatsAll]

end

end Node

theorem Statement.toJson_mapNumbers (f : Binary64 → Binary64) (statement : Statement) :
    (statement.mapNumbers f).toJson = statement.toJson.mapFloats f := by
  rw [toJson, mapNumbers, Node.toJsonAll_mapNumbersAll]
  rfl

theorem Program.toJson_mapNumbers (f : Binary64 → Binary64) (program : Program) :
    (program.mapNumbers f).toJson = program.toJson.mapFloats f := by
  have hstatements : (program.mapNumbers f).statements.map Statement.toJson =
      Value.mapFloatsAll f (program.statements.map Statement.toJson) := by
    rw [mapNumbers, Value.mapFloatsAll_eq_map, List.map_map, List.map_map]
    exact List.map_congr_left fun statement _ => statement.toJson_mapNumbers f
  rw [toJson, hstatements]
  rfl

/-! ## Structured values determine programs -/

theorem Position.toJson_injective : Function.Injective Position.toJson := by
  rintro ⟨line, column⟩ ⟨line', column'⟩ h
  obtain ⟨rfl, rfl⟩ : line = line' ∧ column = column' := by simpa [toJson] using h
  rfl

@[simp]
theorem Position.toJson_inj {position other : Position} :
    position.toJson = other.toJson ↔ position = other :=
  toJson_injective.eq_iff

theorem Identifier.toJson_injective : Function.Injective Identifier.toJson := by
  rintro ⟨name, position⟩ ⟨name', position'⟩ h
  obtain ⟨rfl, rfl⟩ : name = name' ∧ position = position' := by simpa [toJson] using h
  rfl

@[simp]
theorem Identifier.toJson_inj {name other : Identifier} :
    name.toJson = other.toJson ↔ name = other :=
  toJson_injective.eq_iff

namespace Node

mutual

/-- Nodes of one structured value are the same. Their types tell the kinds apart, and the nodes
below are told apart by the induction. -/
theorem eq_of_toJson_eq : ∀ {node other : Node}, node.toJson = other.toJson → node = other
  | identifier ⟨name, position⟩, other, h => by
      cases other with
      | identifier other =>
          obtain ⟨name', position'⟩ := other
          obtain ⟨rfl, rfl⟩ : name = name' ∧ position = position' := by simpa [toJson] using h
          rfl
      | _ => simp [toJson] at h
  | string value position, other, h => by
      cases other with
      | string value' position' =>
          obtain ⟨rfl, rfl⟩ : value = value' ∧ position = position' := by simpa [toJson] using h
          rfl
      | _ => simp [toJson] at h
  | number value position, other, h => by
      cases other with
      | number value' position' =>
          obtain ⟨rfl, rfl⟩ : value = value' ∧ position = position' := by simpa [toJson] using h
          rfl
      | _ => simp [toJson] at h
  | boolean value position, other, h => by
      cases other with
      | boolean value' position' =>
          obtain ⟨rfl, rfl⟩ : value = value' ∧ position = position' := by simpa [toJson] using h
          rfl
      | _ => simp [toJson] at h
  | call callee arguments position, other, h => by
      cases other with
      | call callee' arguments' position' =>
          obtain ⟨rfl, harguments, rfl⟩ : callee = callee' ∧
              toJsonAll arguments = toJsonAll arguments' ∧ position = position' := by
            simpa [toJson] using h
          rw [eq_of_toJsonAll_eq harguments]
      | _ => simp [toJson] at h
  | operator symbol left right position, other, h => by
      cases other with
      | operator symbol' left' right' position' =>
          obtain ⟨rfl, ⟨hleft, hright⟩, rfl⟩ : symbol = symbol' ∧
              (left.toJson = left'.toJson ∧ right.toJson = right'.toJson) ∧
                position = position' := by
            simpa [toJson] using h
          rw [eq_of_toJson_eq hleft, eq_of_toJson_eq hright]
      | _ => simp [toJson] at h
  | declaration name valueType value position, other, h => by
      cases other with
      | declaration name' valueType' value' position' =>
          obtain ⟨rfl, rfl, hvalue, rfl⟩ : name = name' ∧ valueType = valueType' ∧
              value.toJson = value'.toJson ∧ position = position' := by
            simpa [toJson] using h
          rw [eq_of_toJson_eq hvalue]
      | _ => simp [toJson] at h
  | assignment name children position, other, h => by
      cases other with
      | assignment name' children' position' =>
          obtain ⟨rfl, hchildren, rfl⟩ : name = name' ∧
              toJsonAll children = toJsonAll children' ∧ position = position' := by
            simpa [toJson] using h
          rw [eq_of_toJsonAll_eq hchildren]
      | _ => simp [toJson] at h
  | group inner position, other, h => by
      cases other with
      | group inner' position' =>
          obtain ⟨hinner, rfl⟩ : inner.toJson = inner'.toJson ∧ position = position' := by
            simpa [toJson] using h
          rw [eq_of_toJson_eq hinner]
      | _ => simp [toJson] at h

theorem eq_of_toJsonAll_eq : ∀ {nodes others : List Node},
    toJsonAll nodes = toJsonAll others → nodes = others
  | [], [], _ => rfl
  | [], _ :: _, h => by cases h
  | _ :: _, [], h => by cases h
  | node :: rest, other :: others, h => by
      obtain ⟨hnode, hrest⟩ := List.cons.inj h
      rw [eq_of_toJson_eq hnode, eq_of_toJsonAll_eq hrest]

end

end Node

theorem Statement.toJson_injective : Function.Injective Statement.toJson := by
  rintro ⟨children, position⟩ ⟨children', position'⟩ h
  obtain ⟨hchildren, rfl⟩ : Node.toJsonAll children = Node.toJsonAll children' ∧
      position = position' := by
    simpa [toJson] using h
  rw [Node.eq_of_toJsonAll_eq hchildren]

theorem Program.toJson_injective : Function.Injective Program.toJson := by
  rintro ⟨statements⟩ ⟨statements'⟩ h
  have hstatements : statements.map Statement.toJson = statements'.map Statement.toJson := by
    simpa only [toJson, Value.object.injEq, List.cons.injEq, Prod.mk.injEq, Value.array.injEq,
      true_and, and_true] using h
  rw [Statement.toJson_injective.list_map hstatements]

/-- Programs are printed alike exactly if they are the same, but for numbers that are not
finite. -/
theorem Program.text_toJson_eq_iff {program other : Program} :
    program.toJson.text = other.toJson.text ↔
      program.mapNumbers Binary64.shown = other.mapNumbers Binary64.shown := by
  rw [Value.text_eq_iff, ← toJson_mapNumbers, ← toJson_mapNumbers, toJson_injective.eq_iff]

/-! ## Programs that are printed alike -/

namespace Command

variable {files files' : Files} {dialect dialect' : Dialect} {source source' path path' : String}
  {program program' : Program}

/-- What is printed of a source that parses. -/
theorem output_ast (hfile : files path = some (.file (some source)))
    (hparse : dialect.parse source = .ok program) (route : Bool) :
    (perform files dialect route (.ast path)).output = program.toJson.text ++ "\n" := by
  have hsource : parseSource dialect path (files path) = .ok program := by
    have hread : readSource path (files path) = .ok source := by rw [hfile]; rfl
    simp only [parseSource, hread, bind, Except.bind, hparse, Except.mapError]
  simp only [perform, hsource, Outcome.success]

/-- The same is printed of two sources that parse, whatever their dialects, exactly if their
programs are the same, but for numbers that are not finite. -/
theorem output_ast_eq_iff (hfile : files path = some (.file (some source)))
    (hparse : dialect.parse source = .ok program)
    (hfile' : files' path' = some (.file (some source')))
    (hparse' : dialect'.parse source' = .ok program') (route route' : Bool) :
    (perform files dialect route (.ast path)).output =
        (perform files' dialect' route' (.ast path')).output ↔
      program.mapNumbers Binary64.shown = program'.mapNumbers Binary64.shown := by
  rw [output_ast hfile hparse, output_ast hfile' hparse', String.append_left_inj,
    Program.text_toJson_eq_iff]

/-- One source, under any path. -/
def only (source : String) : Files := fun _ => some (.file (some source))

/-- A sign is printed. -/
theorem output_ast_ne_negated :
    (perform (only "1;") .stock false (.ast "one.jsl")).output ≠
      (perform (only "-1;") .stock false (.ast "one.jsl")).output := by
  have hdigits : ∀ c ∈ ['1'], c.isDigit = true := List.forall_mem_singleton.2 rfl
  have hparse : ∀ negative, Dialect.stock.parse _ = _ :=
    Dialect.parse_signed hdigits (List.cons_ne_nil _ _)
  rw [show "1;" = String.ofList (Number.signed false ['1'] ++ [';']) from rfl,
    show "-1;" = String.ofList (Number.signed true ['1'] ++ [';']) from rfl]
  intro houtput
  have hprograms := (output_ast_eq_iff rfl (hparse false) rfl (hparse true) _ _).1 houtput
  have hvalues : (Binary64.ofDecimal false (Number.ofDigits ['1']) 0).shown =
      (Binary64.ofDecimal true (Number.ofDigits ['1']) 0).shown := by
    simpa [Program.ofNumber, Program.mapNumbers, Statement.mapNumbers, Node.mapNumbersAll,
      Node.mapNumbers] using hprograms
  revert hvalues
  decide +kernel

/-- A number that is too great, with or without a minus in front. -/
def tooGreat (negative : Bool) : String :=
  String.ofList (Number.signed negative ('1' :: List.replicate 309 '0') ++ [';'])

theorem parse_tooGreat (negative : Bool) :
    dialect.parse (tooGreat negative) = .ok (Program.ofNumber (.infinite negative)) := by
  have hdigits : ∀ c ∈ '1' :: List.replicate 309 '0', c.isDigit = true :=
    List.forall_mem_cons.2 ⟨rfl, fun _ => Number.isDigit_of_mem_replicate⟩
  have hlog : 1024 ≤ (Number.ofDigits ('1' :: List.replicate 309 '0')).log2 := by decide +kernel
  rw [tooGreat, Dialect.parse_signed hdigits (List.cons_ne_nil _ _),
    Binary64.ofDecimal_eq_infinite hlog]

/-- The infinities are printed alike, and they are not the same. -/
theorem not_forall_eq_of_output_ast_eq : ¬ ∀ (files files' : Files) (dialect dialect' : Dialect)
    (path path' source source' : String) (program program' : Program),
    dialect.validate = .ok () → dialect'.validate = .ok () →
    files path = some (.file (some source)) → dialect.parse source = .ok program →
    files' path' = some (.file (some source')) → dialect'.parse source' = .ok program' →
    (perform files dialect false (.ast path)).output =
      (perform files' dialect' false (.ast path')).output →
    program = program' := by
  intro hdetermined
  have hvalid : Dialect.stock.validate = .ok () := by decide +kernel
  have hparse := fun negative => @parse_tooGreat .stock negative
  have hprinted : (Program.ofNumber (.infinite false)).toJson.text =
      (Program.ofNumber (.infinite true)).toJson.text :=
    Program.text_toJson_eq_iff.2 rfl
  have houtputs : (perform (only (tooGreat false)) .stock false (.ast "great.jsl")).output =
      (perform (only (tooGreat true)) .stock false (.ast "great.jsl")).output := by
    rw [output_ast rfl (hparse false), output_ast rfl (hparse true), hprinted]
  cases hdetermined _ _ _ _ _ _ _ _ _ _ hvalid hvalid rfl (hparse false) rfl (hparse true) houtputs

end Command

end Scriptlet
