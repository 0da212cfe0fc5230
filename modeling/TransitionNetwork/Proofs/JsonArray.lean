import Mathlib.Data.List.Forall2
import TransitionNetwork.Proofs.JsonForms

/-!
# Arrays are read element by element

If each element is read from each of its forms, an array is read from each of its own. The reader
takes a turn for each element behind the first.
-/

set_option autoImplicit false

namespace TransitionNetwork.Json

variable {α : Type}

namespace Reader

/-- In front of a value there is no closing bracket. -/
theorem Reads.ne_closeBracket {reader : Reader α} {first : UInt8} {others : Bytes} {value : α}
    (reads : Reads reader (first :: others) value) : first ≠ Byte.closeBracket := by
  obtain ⟨_, _, same, starts⟩ := reads.starts
  cases same
  intro closes
  rw [closes] at starts
  cases starts

theorem run_nextElement_closed {blanks : Bytes} (first : Bool) (blank : AllBlank blanks)
    (rest : Bytes) :
    (nextElement first).run (blanks ++ Byte.closeBracket :: rest) = .ok (false, rest) :=
  run_token_bind blank rfl _

theorem Reads.run_nextElement_first {reader : Reader α} {blanks text : Bytes} {value : α}
    (reads : Reads reader text value) (blank : AllBlank blanks) (rest : Bytes) :
    (nextElement true).run (blanks ++ (text ++ rest)) = .ok (true, text ++ rest) := by
  obtain ⟨first, others, rfl, starts⟩ := reads.starts
  rw [List.cons_append, nextElement, run_token_bind blank (isBlank_of_startsValue starts)]
  simp only [reads.ne_closeBracket, ↓reduceIte]
  rfl

theorem Reads.run_nextElement_comma {reader : Reader α} {before blanks text : Bytes} {value : α}
    (reads : Reads reader text value) (blankBefore : AllBlank before) (blank : AllBlank blanks)
    (rest : Bytes) :
    (nextElement false).run (before ++ Byte.comma :: (blanks ++ (text ++ rest))) =
      .ok (true, text ++ rest) := by
  obtain ⟨first, others, rfl, starts⟩ := reads.starts
  have notClosing : ¬ (Byte.comma = Byte.closeBracket) := by decide
  rw [List.cons_append, nextElement, run_token_bind blankBefore rfl]
  simp only [notClosing, Bool.false_eq_true, ↓reduceIte, run_skip_bind]
  rw [run_token_bind blank (isBlank_of_startsValue starts)]
  split
  · rename_i absent
    cases absent
  · rename_i closes
    exact absurd (Option.some.inj closes) reads.ne_closeBracket
  · rfl

/-- One turn takes one element, so induction on the elements takes them all. -/
theorem run_elements {element : Reader α} {values : List α} {text : Bytes}
    (elements : OtherItems Byte.closeBracket (fun value text => Reads element text value) values
      text)
    (taken : List α) (rest : Bytes) :
    (loop (elementTurn element) (shrinks_elementTurn element) taken).run (text ++ rest) =
      .ok (taken.reverse ++ values, rest) := by
  induction elements generalizing taken with
  | closed _ blank =>
      rw [List.append_assoc, List.append_nil]
      apply run_loop_done
      exact run_bind_of_run_eq_ok (run_nextElement_closed false blank rest) _
  | @item before blanks text others value values blankBefore blank reads elements ih =>
      have turn : (elementTurn element taken).run
          (before ++ Byte.comma :: (blanks ++ (text ++ (others ++ rest)))) =
          .ok (.again (value :: taken), others ++ rest) := by
        have more := reads.run_nextElement_comma blankBefore blank (others ++ rest)
        have success := reads.run_here (elements.endsValue rfl rest)
        rw [elementTurn, run_bind_of_run_eq_ok more, if_pos rfl, run_bind_of_run_eq_ok success]
        rfl
      simp only [List.append_assoc, List.cons_append]
      refine (run_loop_again (@shrinks_elementTurn _ element) turn).trans ?_
      rw [ih, List.reverse_cons, List.append_assoc]
      rfl

theorem reads_items {element : Reader α} {values : List α} {text : Bytes}
    (items : Items Byte.closeBracket (fun value text => Reads element text value) values text) :
    Reads (array element) (Byte.openBracket :: text) values := by
  refine Reads.of_token rfl fun {rest} ends => ?_
  change (nextElement true >>= fun more => if more = true then element >>= fun value =>
    loop (elementTurn element) (shrinks_elementTurn element) [value] else pure []).run
      (text ++ rest) = _
  cases items with
  | empty _ blank =>
      rw [List.append_assoc]
      exact run_bind_of_run_eq_ok (run_nextElement_closed true blank rest) _
  | @items blanks text others value values blank reads elements =>
      have success := reads.run_here (elements.endsValue rfl rest)
      simp only [List.append_assoc]
      rw [run_bind_of_run_eq_ok (reads.run_nextElement_first blank (others ++ rest)), if_pos rfl,
        run_bind_of_run_eq_ok success, run_elements elements]
      rfl

theorem reads_arrayForm {element : Reader α} {form : α → Bytes → Prop}
    (reads : ∀ value text, form value text → Reads element text value) {values : List α}
    {text : Bytes} (isArray : ArrayForm form values text) :
    Reads (array element) text values := by
  cases isArray with
  | bracketed items => exact reads_items (items.mono reads)

end Reader

/-! ## Written lists -/

/-- Texts that are joined by commas: the first as it is, each other behind its comma. -/
theorem bytesOf_intercalate_cons (text : String) (others : List String) :
    bytesOf (",".intercalate (text :: others)) =
      bytesOf text ++ others.flatMap fun other => Byte.comma :: bytesOf other := by
  induction others generalizing text with
  | nil => rw [String.intercalate_singleton, List.flatMap_nil, List.append_nil]
  | cons other others ih =>
      have comma : bytesOf "," = [Byte.comma] := bytesOf_eq_flatMap ","
      rw [String.intercalate_cons_cons, bytesOf_append, bytesOf_append, comma, ih,
        List.append_assoc]
      rfl

section Written

variable {closing : UInt8} {item : α → Bytes → Prop} {texts : List String} {values : List α}

theorem otherItems_of_written
    (written : List.Forall₂ (fun text value => item value (bytesOf text)) texts values) :
    OtherItems closing item values
      (texts.flatMap (fun text => Byte.comma :: bytesOf text) ++ [closing]) := by
  induction written with
  | nil => exact OtherItems.closed [] allBlank_nil
  | cons isItem _ ih =>
      rw [List.flatMap_cons, List.cons_append, List.cons_append, List.append_assoc]
      exact OtherItems.item [] [] allBlank_nil allBlank_nil isItem ih

theorem items_of_written
    (written : List.Forall₂ (fun text value => item value (bytesOf text)) texts values) :
    Items closing item values (bytesOf (",".intercalate texts) ++ [closing]) := by
  cases written with
  | nil => exact Items.empty [] allBlank_nil
  | cons isItem others =>
      rw [bytesOf_intercalate_cons, List.append_assoc]
      exact Items.items [] allBlank_nil isItem (otherItems_of_written others)

end Written

theorem arrayForm_writeArray {form : α → Bytes → Prop} {write : α → String}
    (written : ∀ value, form value (bytesOf (write value))) (values : List α) :
    ArrayForm form values (bytesOf (writeArray write values)) := by
  have opening : bytesOf "[" = [Byte.openBracket] := bytesOf_eq_flatMap "["
  have closing : bytesOf "]" = [Byte.closeBracket] := bytesOf_eq_flatMap "]"
  have each : List.Forall₂ (fun text value => form value (bytesOf text)) (values.map write)
      values := by
    rw [List.forall₂_map_left_iff, List.forall₂_same]
    exact fun value _ => written value
  rw [writeArray, bytesOf_append, bytesOf_append, opening, closing, List.append_assoc]
  exact ArrayForm.bracketed (items_of_written each)

end TransitionNetwork.Json
