/-
# Structured text determines its value

Where two values at one level are followed by a comma, a line feed or nothing, and the texts with
what follows are the same, the values are the same and so is what follows. A word or a number goes
on up to what follows; a string, an array or an object says where it ends. What is lost is which of
the numbers that are not finite a value holds.
-/

import Mathlib.Data.List.Forall2
import Scriptlet.Proofs.Scalars

namespace Scriptlet.Json

/-! ## Strings -/

/-- Strings that are followed by anything can be told apart. -/
theorem flatMap_escapeChar_inj {first second rest others : List Char}
    (h : first.flatMap escapeChar ++ '"' :: rest = second.flatMap escapeChar ++ '"' :: others) :
    first = second ∧ rest = others := by
  induction first generalizing second with
  | nil =>
      cases second with
      | nil => exact ⟨rfl, List.cons_injective h⟩
      | cons d second =>
          have hread := congrArg unescapeChar? h
          rw [List.flatMap_cons, List.append_assoc, unescapeChar?_escapeChar] at hread
          cases hread
  | cons c first ih =>
      have hread := congrArg unescapeChar? h
      rw [List.flatMap_cons, List.append_assoc, unescapeChar?_escapeChar] at hread
      cases second with
      | nil => cases hread
      | cons d second =>
          rw [List.flatMap_cons, List.append_assoc, unescapeChar?_escapeChar] at hread
          obtain ⟨rfl, hrest⟩ := Prod.mk.inj (Option.some_inj.1 hread)
          obtain ⟨rfl, hothers⟩ := ih hrest
          exact ⟨rfl, hothers⟩

/-- A string says where it ends. -/
theorem quote_append_inj {first second : String} {rest others : List Char}
    (h : (quote first).toList ++ rest = (quote second).toList ++ others) :
    first = second ∧ rest = others := by
  simp only [quote, String.toList_ofList, List.cons_append, List.append_assoc,
    List.nil_append, List.cons.injEq, true_and] at h
  obtain ⟨htext, hrest⟩ := flatMap_escapeChar_inj h
  exact ⟨String.toList_inj.1 htext, hrest⟩

/-! ## Values -/

namespace Value

mutual

/-- A value with other numbers. -/
def mapFloats (f : Binary64 → Binary64) : Value → Value
  | boolean value => boolean value
  | natural value => natural value
  | float value => float (f value)
  | string value => string value
  | array items => array (mapFloatsAll f items)
  | object fields => object (mapFloatsFields f fields)

/-- The items of an array with other numbers. -/
def mapFloatsAll (f : Binary64 → Binary64) : List Value → List Value
  | [] => []
  | value :: rest => mapFloats f value :: mapFloatsAll f rest

/-- The fields of an object with other numbers. -/
def mapFloatsFields (f : Binary64 → Binary64) : List (String × Value) → List (String × Value)
  | [] => []
  | (name, value) :: rest => (name, mapFloats f value) :: mapFloatsFields f rest

end

/-- What a text starts with tells a string, an array and an object apart, and words and numbers from
all of them. -/
def shape : Value → Char
  | string _ => '"'
  | array _ => '['
  | object _ => '\x7b'
  | _ => ' '

theorem induction {P : Value → Prop} (scalar : ∀ value : Value, value.shape = ' ' → P value)
    (string : ∀ text, P (string text))
    (array : ∀ items, (∀ item ∈ items, P item) → P (array items))
    (object : ∀ fields, (∀ field ∈ fields, P field.2) → P (object fields)) : ∀ value, P value
  | .boolean _ => scalar _ rfl
  | .natural _ => scalar _ rfl
  | .float _ => scalar _ rfl
  | .string text => string text
  | .array items => array items (all items)
  | .object fields => object fields (allFields fields)
where
  all : ∀ items : List Value, ∀ item ∈ items, P item
    | [], _, hmem => absurd hmem List.not_mem_nil
    | first :: rest, item, hmem => by
        rcases List.mem_cons.1 hmem with heq | hmem
        · exact heq ▸ induction scalar string array object first
        · exact all rest item hmem
  allFields : ∀ fields : List (String × Value), ∀ field ∈ fields, P field.2
    | [], _, hmem => absurd hmem List.not_mem_nil
    | (_, value) :: rest, field, hmem => by
        rcases List.mem_cons.1 hmem with rfl | hmem
        · exact induction scalar string array object value
        · exact allFields rest field hmem

end Value

/-! ## What follows a value -/

/-- Whether a value can end in front of a text. -/
def Stops (rest : List Char) : Prop := ∀ c ∈ rest.head?, c = ',' ∨ c = '\n'

theorem Stops.isPlain_eq_false {rest : List Char} (h : Stops rest) {c : Char}
    (hc : c ∈ rest.head?) : isPlain c = false := by
  rcases h c hc with rfl | rfl <;> rfl

/-- Words and numbers go on up to what follows. -/
theorem plain_append_inj {text other rest others : List Char} (htext : ∀ c ∈ text, isPlain c = true)
    (hother : ∀ c ∈ other, isPlain c = true) (hrest : Stops rest) (hothers : Stops others)
    (h : text ++ rest = other ++ others) : text = other ∧ rest = others := by
  have htake := congrArg (List.takeWhile isPlain) h
  rw [takeWhile_append_of_stop htext fun _ => hrest.isPlain_eq_false,
    takeWhile_append_of_stop hother fun _ => hothers.isPlain_eq_false] at htake
  exact ⟨htake, List.append_cancel_left (htake ▸ h)⟩

/-! ## Arrays and objects -/

theorem map_eq_map_of_forall₂ {α β : Type} {f : α → β} {items others : List α}
    (h : List.Forall₂ (fun item other => f item = f other) items others) :
    items.map f = others.map f := by
  rw [← List.forall₂_eq_eq_eq, List.forall₂_map_left_iff, List.forall₂_map_right_iff]
  exact h

theorem toList_line (level : Nat) : (line level).toList = '\n' :: List.replicate (2 * level) ' ' :=
  String.toList_ofList

/-- The items after the first one, and the end of their array or object. -/
def blockTail (closing : Char) (level : Nat) : List (List Char) → List Char
  | [] => (line level).toList ++ [closing]
  | text :: rest => ',' :: ((line (level + 1)).toList ++ (text ++ blockTail closing level rest))

/-- An array or object whose items have some texts. -/
def blockText (opening closing : Char) (level : Nat) : List (List Char) → List Char
  | [] => [opening, closing]
  | text :: rest => opening :: ((line (level + 1)).toList ++ (text ++ blockTail closing level rest))

theorem toList_intercalate_append {closing : Char} {level : Nat} (texts : List String)
    (text : String) :
    (("," ++ line (level + 1)).intercalate (text :: texts) ++ line level).toList ++ [closing] =
      text.toList ++ blockTail closing level (texts.map String.toList) := by
  induction texts generalizing text with
  | nil =>
      rw [String.intercalate_singleton, String.toList_append, List.append_assoc]
      rfl
  | cons next texts ih =>
      rw [String.intercalate_cons_cons, String.append_assoc, String.append_assoc,
        String.toList_append, String.toList_append, List.append_assoc, List.append_assoc, ih,
        String.toList_append, List.append_assoc]
      rfl

theorem toList_block (opening closing : Char) (level : Nat) (texts : List String) :
    (block (String.ofList [opening]) (String.ofList [closing]) level texts).toList =
      blockText opening closing level (texts.map String.toList) := by
  cases texts with
  | nil => simp only [block, blockText, List.map_nil, String.toList_append, String.toList_ofList,
      List.singleton_append]
  | cons text texts =>
      have h := @toList_intercalate_append closing level texts text
      simp only [block, blockText, List.map_cons, String.toList_append, String.toList_ofList,
        List.append_assoc, List.cons_append, List.nil_append] at h ⊢
      rw [h]

theorem stops_blockTail (closing : Char) (level : Nat) (texts : List (List Char))
    (rest : List Char) : Stops (blockTail closing level texts ++ rest) := by
  rintro c hc
  cases texts with
  | nil =>
      rw [blockTail, toList_line] at hc
      cases hc
      exact .inr rfl
  | cons text texts =>
      cases hc
      exact .inl rfl

theorem head?_blockText (opening closing : Char) (level : Nat) (texts : List (List Char))
    (rest : List Char) : (blockText opening closing level texts ++ rest).head? = some opening := by
  cases texts <;> rfl

section Blocks

variable {α : Type} {render : α → List Char} {Same : α → α → Prop} {items others : List α}
  {opening closing : Char} {level : Nat} {rest after : List Char}

/-- Items end where the next one starts or their array or object ends. -/
theorem blockTail_append_inj
    (hitems : ∀ item ∈ items, ∀ other rest after, Stops rest → Stops after →
      render item ++ rest = render other ++ after → Same item other ∧ rest = after)
    (h : blockTail closing level (items.map render) ++ rest =
      blockTail closing level (others.map render) ++ after) :
    List.Forall₂ Same items others ∧ rest = after := by
  induction items generalizing others with
  | nil =>
      cases others with
      | nil => exact ⟨.nil, List.append_cancel_left h⟩
      | cons other others => simp [blockTail, toList_line] at h
  | cons item items ih =>
      cases others with
      | nil => simp [blockTail, toList_line] at h
      | cons other others =>
          simp only [List.map_cons, blockTail, List.cons_append, List.append_assoc] at h
          obtain ⟨hsame, htail⟩ := hitems item List.mem_cons_self other _ _
            (stops_blockTail closing level _ rest) (stops_blockTail closing level _ after)
            (List.append_cancel_left (List.cons_injective h))
          obtain ⟨hrest, hafter⟩ := ih (fun item hmem => hitems item (.tail _ hmem)) htail
          exact ⟨.cons hsame hrest, hafter⟩

/-- An array or object ends where it is closed. Behind what opens it the items are read as they are
behind a comma. -/
theorem blockText_append_inj (hclosing : closing ≠ '\n')
    (hitems : ∀ item ∈ items, ∀ other rest after, Stops rest → Stops after →
      render item ++ rest = render other ++ after → Same item other ∧ rest = after)
    (h : blockText opening closing level (items.map render) ++ rest =
      blockText opening closing level (others.map render) ++ after) :
    List.Forall₂ Same items others ∧ rest = after := by
  cases items with
  | nil =>
      cases others with
      | nil => exact ⟨.nil, List.append_cancel_left h⟩
      | cons other others => simp [blockText, toList_line, hclosing] at h
  | cons item items =>
      cases others with
      | nil => simp [blockText, toList_line, hclosing.symm] at h
      | cons other others =>
          exact blockTail_append_inj hitems (congrArg (List.cons ',') (List.cons_injective h))

end Blocks

namespace Value

open Number

theorem renderAll_eq_map (level : Nat) (items : List Value) :
    renderAll level items = items.map (render level) := by
  induction items with
  | nil => rfl
  | cons item rest ih => rw [renderAll, ih, List.map_cons]

theorem renderFields_eq_map (level : Nat) (fields : List (String × Value)) :
    renderFields level fields =
      fields.map fun field => quote field.1 ++ ": " ++ render level field.2 := by
  induction fields with
  | nil => rfl
  | cons field rest ih => rw [renderFields, ih, List.map_cons]

theorem toList_render_array (level : Nat) (items : List Value) :
    (render level (array items)).toList =
      blockText '[' ']' level (items.map fun item => (render (level + 1) item).toList) := by
  rw [render, renderAll_eq_map, show "[" = String.ofList ['['] from rfl,
    show "]" = String.ofList [']'] from rfl, toList_block, List.map_map]
  rfl

/-- The text of a field. -/
def renderField (level : Nat) (field : String × Value) : List Char :=
  (quote field.1).toList ++ (':' :: ' ' :: (render level field.2).toList)

theorem toList_render_object (level : Nat) (fields : List (String × Value)) :
    (render level (object fields)).toList =
      blockText '\x7b' '\x7d' level (fields.map (renderField (level + 1))) := by
  rw [render, renderFields_eq_map, show "\x7b" = String.ofList ['\x7b'] from rfl,
    show "\x7d" = String.ofList ['\x7d'] from rfl, toList_block, List.map_map]
  refine congrArg (blockText _ _ level) (List.map_congr_left fun field _ => ?_)
  simp only [Function.comp_apply, String.toList_append, List.append_assoc]
  rfl

theorem mapFloatsAll_eq_map (f : Binary64 → Binary64) (items : List Value) :
    mapFloatsAll f items = items.map (mapFloats f) := by
  induction items with
  | nil => rfl
  | cons item rest ih => rw [mapFloatsAll, ih, List.map_cons]

theorem mapFloatsFields_eq_map (f : Binary64 → Binary64) (fields : List (String × Value)) :
    mapFloatsFields f fields = fields.map fun field => (field.1, mapFloats f field.2) := by
  induction fields with
  | nil => rfl
  | cons field rest ih => rw [mapFloatsFields, ih, List.map_cons]

theorem readScalar?_render {value : Value} (h : value.shape = ' ') (level : Nat) :
    readScalar? (value.render level).toList = some (value.mapFloats Binary64.shown) := by
  cases value with
  | boolean value => exact readScalar?_boolean value
  | natural value => exact readScalar?_natural value
  | float value => exact readScalar?_float value
  | string | array | object => cases h

/-- Words and numbers are written with plain characters, and with some. -/
theorem isPlain_render {value : Value} (h : value.shape = ' ') (level : Nat) :
    (value.render level).toList ≠ [] ∧ ∀ c ∈ (value.render level).toList, isPlain c = true := by
  cases value with
  | boolean value =>
      rw [render]
      cases value <;> exact ⟨List.cons_ne_nil _ _, List.all_eq_true.1 rfl⟩
  | natural value =>
      rw [render, show (toString value).toList = Nat.toDigits 10 value from String.toList_ofList]
      exact ⟨Nat.toDigits_ne_nil, fun _ => isPlain_of_mem_toDigits⟩
  | float value =>
      have hnull : "null".toList ≠ [] ∧ ∀ c ∈ "null".toList, isPlain c = true :=
        ⟨List.cons_ne_nil _ _, List.all_eq_true.1 rfl⟩
      rw [render]
      cases value with
      | notANumber => exact hnull
      | infinite negative => cases negative <;> exact hnull
      | finite negative rank =>
          rw [write_finite]
          cases negative
          · exact ⟨unsigned_ne_nil rank, fun _ => isPlain_of_mem_unsigned⟩
          · exact ⟨List.cons_ne_nil _ _,
              List.forall_mem_cons.2 ⟨rfl, fun _ => isPlain_of_mem_unsigned⟩⟩
  | string | array | object => cases h

theorem shape_of_render (value : Value) (level : Nat) (rest : List Char) :
    ((value.render level).toList ++ rest).head?.map (fun c => if isPlain c then ' ' else c) =
      some value.shape := by
  have hscalar : value.shape = ' ' → ((value.render level).toList ++ rest).head?.map
      (fun c => if isPlain c then ' ' else c) = some ' ' := by
    intro hscalar
    obtain ⟨hne, hplain⟩ := isPlain_render hscalar level
    obtain ⟨c, text, htext⟩ := List.exists_cons_of_ne_nil hne
    rw [htext] at hplain ⊢
    rw [List.cons_append, List.head?_cons, Option.map_some, if_pos (hplain c List.mem_cons_self)]
  cases value with
  | boolean | natural | float => exact hscalar rfl
  | string text =>
      rw [render, quote, String.toList_ofList]
      rfl
  | array items =>
      rw [toList_render_array, head?_blockText]
      rfl
  | object fields =>
      rw [toList_render_object, head?_blockText]
      rfl

theorem shape_eq {value other : Value} {level : Nat} {rest after : List Char}
    (h : (value.render level).toList ++ rest = (other.render level).toList ++ after) :
    value.shape = other.shape := by
  have hhead := shape_of_render value level rest
  rw [h, shape_of_render] at hhead
  exact (Option.some_inj.1 hhead).symm

/-- Values can be told apart in front of what may follow them. The induction is on the value; items
and fields are themselves followed by a comma or a line feed. -/
theorem render_append_inj {value other : Value} {level : Nat} {rest after : List Char}
    (hrest : Stops rest) (hafter : Stops after)
    (h : (value.render level).toList ++ rest = (other.render level).toList ++ after) :
    value.mapFloats Binary64.shown = other.mapFloats Binary64.shown ∧ rest = after := by
  have hshape := shape_eq h
  induction value using Value.induction generalizing other level rest after with
  | scalar value hscalar =>
      have hother := hshape.symm.trans hscalar
      obtain ⟨htext, hrest⟩ := plain_append_inj (isPlain_render hscalar level).2
        (isPlain_render hother level).2 hrest hafter h
      refine ⟨Option.some_inj.1 ?_, hrest⟩
      rw [← readScalar?_render hscalar level, htext, readScalar?_render hother]
  | string text =>
      cases other with
      | string other =>
          obtain ⟨rfl, hrest⟩ := quote_append_inj h
          exact ⟨rfl, hrest⟩
      | _ => cases hshape
  | array items ih =>
      cases other with
      | array others =>
          rw [toList_render_array, toList_render_array] at h
          obtain ⟨hsame, hrest⟩ := blockText_append_inj (by decide)
            (fun item hmem other _ _ hrest hafter heq =>
              ih item hmem hrest hafter heq (shape_eq heq)) h
          refine ⟨?_, hrest⟩
          rw [mapFloats, mapFloats, mapFloatsAll_eq_map, mapFloatsAll_eq_map]
          exact congrArg array (map_eq_map_of_forall₂ hsame)
      | _ => cases hshape
  | object fields ih =>
      cases other with
      | object others =>
          rw [toList_render_object, toList_render_object] at h
          have hfields : ∀ field ∈ fields, ∀ other rest after, Stops rest → Stops after →
              renderField (level + 1) field ++ rest = renderField (level + 1) other ++ after →
              (field.1, field.2.mapFloats Binary64.shown) =
                (other.1, other.2.mapFloats Binary64.shown) ∧ rest = after := by
            intro field hmem other rest after hrest hafter heq
            simp only [renderField, List.append_assoc, List.cons_append] at heq
            obtain ⟨hname, heq⟩ := quote_append_inj heq
            have heq := List.cons_injective (List.cons_injective heq)
            obtain ⟨hvalue, hrest⟩ := ih field hmem hrest hafter heq (shape_eq heq)
            exact ⟨Prod.ext hname hvalue, hrest⟩
          obtain ⟨hsame, hrest⟩ := blockText_append_inj (by decide) hfields h
          refine ⟨?_, hrest⟩
          rw [mapFloats, mapFloats, mapFloatsFields_eq_map, mapFloatsFields_eq_map]
          exact congrArg object (map_eq_map_of_forall₂ hsame)
      | _ => cases hshape

/-- The text of a value does not tell numbers apart that are not finite. -/
theorem render_mapFloats_shown (value : Value) (level : Nat) :
    (value.mapFloats Binary64.shown).render level = value.render level := by
  induction value using Value.induction generalizing level with
  | scalar value hscalar =>
      cases value with
      | boolean | natural => rfl
      | float value => cases value <;> rfl
      | string | array | object => cases hscalar
  | string => rfl
  | array items ih =>
      rw [mapFloats, mapFloatsAll_eq_map, render, render, renderAll_eq_map, renderAll_eq_map,
        List.map_map]
      exact congrArg _ (List.map_congr_left fun item hmem => ih item hmem _)
  | object fields ih =>
      rw [mapFloats, mapFloatsFields_eq_map, render, render, renderFields_eq_map,
        renderFields_eq_map, List.map_map]
      refine congrArg _ (List.map_congr_left fun field hmem => ?_)
      rw [Function.comp_apply, ih field hmem]

/-- Values have one text exactly if they are the same, but for numbers that are not finite. -/
theorem text_eq_iff {value other : Value} : value.text = other.text ↔
    value.mapFloats Binary64.shown = other.mapFloats Binary64.shown := by
  constructor
  · intro h
    have hnothing : Stops [] := by rintro _ ⟨⟩
    have htexts : (value.render 0).toList ++ [] = (other.render 0).toList ++ [] :=
      congrArg (String.toList · ++ []) h
    exact (render_append_inj hnothing hnothing htexts).1
  · intro h
    rw [text, text, ← render_mapFloats_shown value, h, render_mapFloats_shown]

end Value

end Scriptlet.Json
