import TransitionNetwork.Proofs.QuotedText

/-!
# Escaping

A text with nothing to escape is its own body and can be kept as it is, any other is rewritten
from left to right. Both ways give the same body, the scan of a body stops at the quote behind it,
and bodies are put together like the texts that they denote.
-/

set_option autoImplicit false

namespace TransitionNetwork.Dot

theorem toList_escape (text : String) : (escape text).toList = escapeChars text.toList :=
  String.toList_ofList

/-! ## Keeping or rewriting -/

theorem needsEscape_eq_false_iff {c : Char} : needsEscape c = false ↔ IsPlainChar c := by
  simp [needsEscape, IsPlainChar]

theorem toList_pushEscaped (body : String) (c : Char) :
    (pushEscaped body c).toList = body.toList ++ escapeChar c := by
  rcases special_or_isPlainChar c with rfl | rfl | rfl | plain
  · simp [pushEscaped, escapeChar]
  · simp [pushEscaped, escapeChar]
  · simp [pushEscaped, escapeChar]
  · have pushed : pushEscaped body c = body.push c := by
      obtain ⟨notQuote, notBackslash, notBreak⟩ := plain
      unfold pushEscaped
      split <;> first | rfl | contradiction
    rw [pushed, escapeChar_of_isPlainChar plain, String.toList_push]

/-- The loop has written the body of what it has passed behind what was there. -/
theorem toList_foldl_pushEscaped (body : String) (text : List Char) :
    (text.foldl pushEscaped body).toList = body.toList ++ escapeChars text := by
  induction text generalizing body with
  | nil => simp [escapeChars]
  | cons c rest ih =>
      rw [List.foldl_cons, ih, toList_pushEscaped, List.append_assoc, escapeChars_cons]

theorem rewritten_eq_escape (text : String) : rewritten text = escape text := by
  rw [← String.toList_inj, rewritten, toList_foldl_pushEscaped, toList_escape]
  rfl

theorem keptOrRewritten_eq_escape (text : String) : keptOrRewritten text = escape text := by
  unfold keptOrRewritten
  split
  · exact rewritten_eq_escape text
  · rename_i nothing
    have plain : ∀ c ∈ text.toList, IsPlainChar c := by
      simpa [needsEscape_eq_false_iff] using nothing
    rw [← String.toList_inj, toList_escape, escapeChars_of_plain plain]

/-! ## Bodies of texts -/

theorem escape_append (first second : String) :
    escape (first ++ second) = escape first ++ escape second := by
  simp [← String.toList_inj, toList_escape, escapeChars]

/-- Whatever stands behind its closing quote, a body is scanned to that quote and denotes its text.
It breaks no line, two texts in a row have their bodies in a row, and a text that is kept as it is
would not have been rewritten into anything else. -/
theorem escape_scans_back (text after : String) :
    scanBody ((escape text).toList ++ '"' :: after.toList) =
        some ((escape text).toList, after.toList) ∧
      String.ofList (unescapeChars (escape text).toList) = text ∧
      '\n' ∉ (escape text).toList ∧
      escape (text ++ after) = escape text ++ escape after ∧
      keptOrRewritten text = escape text ∧
      rewritten text = escape text := by
  refine ⟨?_, ?_, ?_, escape_append text after, keptOrRewritten_eq_escape text,
    rewritten_eq_escape text⟩
  · rw [toList_escape]
    exact scanBody_escapeChars text.toList after.toList
  · rw [toList_escape, unescapeChars_escapeChars, String.ofList_toList]
  · rw [toList_escape]
    exact break_notMem_escapeChars text.toList

/-- A backslash at the end of a text does not take the closing quote with it. -/
example : scanBody ((escape "a\\").toList ++ '"' :: "b\"".toList) =
    some (['a', '\\', '\\'], ['b', '"']) := by
  decide

end TransitionNetwork.Dot
