import TransitionNetwork.Dot.Quoted

/-!
# Reading quoted text back

Whatever a text holds, a scan of its quoted form stops at the quote that the writer put behind it,
and the body that the scan has passed denotes the text.
-/

set_option autoImplicit false

namespace TransitionNetwork.Dot

/-- A character that stands for itself in a body. -/
def IsPlainChar (c : Char) : Prop :=
  c ≠ '"' ∧ c ≠ '\\' ∧ c ≠ '\n'

instance : DecidablePred IsPlainChar :=
  fun _ => inferInstanceAs (Decidable (_ ∧ _ ∧ _))

theorem escapeChar_of_isPlainChar {c : Char} (plain : IsPlainChar c) : escapeChar c = [c] := by
  obtain ⟨notQuote, notBackslash, notBreak⟩ := plain
  unfold escapeChar
  split <;> first | rfl | contradiction

/-- Every writer and reader of bodies treats the three special characters one by one, and all the
others alike. -/
theorem special_or_isPlainChar (c : Char) : c = '"' ∨ c = '\\' ∨ c = '\n' ∨ IsPlainChar c := by
  unfold IsPlainChar
  by_cases isQuote : c = '"'
  · exact Or.inl isQuote
  · by_cases isBackslash : c = '\\'
    · exact Or.inr (Or.inl isBackslash)
    · by_cases isBreak : c = '\n'
      · exact Or.inr (Or.inr (Or.inl isBreak))
      · exact Or.inr (Or.inr (Or.inr ⟨isQuote, isBackslash, isBreak⟩))

theorem escapeChars_cons (c : Char) (rest : List Char) :
    escapeChars (c :: rest) = escapeChar c ++ escapeChars rest := rfl

/-- A text without special characters is its own body. -/
theorem escapeChars_of_plain {text : List Char} (plain : ∀ c ∈ text, IsPlainChar c) :
    escapeChars text = text := by
  induction text with
  | nil => rfl
  | cons c rest ih =>
      have head : IsPlainChar c := plain c (by simp)
      have tail : ∀ d ∈ rest, IsPlainChar d := fun d member => plain d (by simp [member])
      rw [escapeChars_cons, escapeChar_of_isPlainChar head, ih tail]
      rfl

theorem break_notMem_escapeChar (c : Char) : '\n' ∉ escapeChar c := by
  rcases special_or_isPlainChar c with rfl | rfl | rfl | plain
  · decide
  · decide
  · decide
  · rw [escapeChar_of_isPlainChar plain, List.mem_singleton]
    exact plain.2.2.symm

/-- No body breaks its line. -/
theorem break_notMem_escapeChars (text : List Char) : '\n' ∉ escapeChars text := by
  intro member
  obtain ⟨c, _, inside⟩ := List.mem_flatMap.mp member
  exact break_notMem_escapeChar c inside

theorem scanBody_cons_of_isPlainChar {c : Char} (plain : IsPlainChar c) (rest : List Char) :
    scanBody (c :: rest) = (scanBody rest).map fun (body, after) => (c :: body, after) := by
  obtain ⟨notQuote, notBackslash, _⟩ := plain
  rw [scanBody]
  · exact notQuote
  · intro isBackslash
    exact absurd isBackslash notBackslash
  · intro _ _ isBackslash
    exact absurd isBackslash notBackslash

/-- The scan stops at the first quote behind the body, whatever follows it. -/
theorem scanBody_escapeChars (text after : List Char) :
    scanBody (escapeChars text ++ '"' :: after) = some (escapeChars text, after) := by
  induction text with
  | nil => rfl
  | cons c rest ih =>
      rw [escapeChars_cons, List.append_assoc]
      rcases special_or_isPlainChar c with rfl | rfl | rfl | plain
      · simp only [escapeChar, List.cons_append, List.nil_append, scanBody, ih, Option.map_some]
      · simp only [escapeChar, List.cons_append, List.nil_append, scanBody, ih, Option.map_some]
      · simp only [escapeChar, List.cons_append, List.nil_append, scanBody, ih, Option.map_some]
      · rw [escapeChar_of_isPlainChar plain, List.singleton_append, List.singleton_append,
          scanBody_cons_of_isPlainChar plain, ih, Option.map_some]

theorem unescapeChars_cons_of_isPlainChar {c : Char} (plain : IsPlainChar c) (rest : List Char) :
    unescapeChars (c :: rest) = c :: unescapeChars rest := by
  have notBackslash := plain.2.1
  rw [unescapeChars]
  all_goals
    intro _ isBackslash
    exact absurd isBackslash notBackslash

theorem unescapeChars_escapeChars (text : List Char) :
    unescapeChars (escapeChars text) = text := by
  induction text with
  | nil => rfl
  | cons c rest ih =>
      rw [escapeChars_cons]
      rcases special_or_isPlainChar c with rfl | rfl | rfl | plain
      · simp only [escapeChar, List.cons_append, List.nil_append, unescapeChars, ih]
      · simp only [escapeChar, List.cons_append, List.nil_append, unescapeChars, ih]
      · simp only [escapeChar, List.cons_append, List.nil_append, unescapeChars, ih]
      · rw [escapeChar_of_isPlainChar plain, List.singleton_append,
          unescapeChars_cons_of_isPlainChar plain, ih]

theorem escapeChars_inj {first second : List Char} :
    escapeChars first = escapeChars second ↔ first = second := by
  constructor
  · intro same
    rw [← unescapeChars_escapeChars first, same, unescapeChars_escapeChars]
  · exact congrArg escapeChars

theorem length_scanBody_lt {text body after : List Char}
    (scanned : scanBody text = some (body, after)) : after.length < text.length := by
  induction text using scanBody.induct generalizing body with
  | case1 => cases scanned
  | case2 rest =>
      cases scanned
      exact Nat.lt_succ_self _
  | case3 => cases scanned
  | case4 taken rest ih =>
      rw [scanBody, Option.map_eq_some_iff] at scanned
      obtain ⟨⟨inner, remaining⟩, read, same⟩ := scanned
      cases same
      have shorter := ih read
      simp only [List.length_cons]
      omega
  | case5 other rest notQuote notLast notPair ih =>
      rw [scanBody, Option.map_eq_some_iff] at scanned
      · obtain ⟨⟨inner, remaining⟩, read, same⟩ := scanned
        cases same
        have shorter := ih read
        simp only [List.length_cons]
        omega
      all_goals assumption

end TransitionNetwork.Dot
