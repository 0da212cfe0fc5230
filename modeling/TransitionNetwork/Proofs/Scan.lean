import TransitionNetwork.Dot.Line
import TransitionNetwork.Proofs.QuotedText

/-!
# Scanning a line

A scan goes over a line from left to right and tells what stands in quotes from what does not.
A line written from pieces is scanned into those very pieces.
-/

set_option autoImplicit false

namespace TransitionNetwork.Dot

/-- What a scan meets: a character outside quotes, or the body of a quoted text as it is written. -/
inductive Token where
  | character (c : Char)
  | quoted (body : List Char)
  deriving DecidableEq

/-- There is no scan of a line that ends inside a quoted text. -/
def scan (line : List Char) : Option (List Token) :=
  match line with
  | [] => some []
  | c :: rest =>
    if c = '"' then
      match h : scanBody rest with
      | none => none
      | some (body, after) =>
        have := length_scanBody_lt h
        (scan after).map (.quoted body :: ·)
    else (scan rest).map (.character c :: ·)
termination_by line.length

theorem scan_character {c : Char} (outside : c ≠ '"') (rest : List Char) :
    scan (c :: rest) = (scan rest).map (.character c :: ·) := by
  rw [scan]
  simp only [outside, ↓reduceIte]

theorem scan_quoted {text body after : List Char} (scanned : scanBody text = some (body, after)) :
    scan ('"' :: text) = (scan after).map (.quoted body :: ·) := by
  rw [scan]
  simp only [↓reduceIte]
  split
  · rename_i missed
    rw [scanned] at missed
    cases missed
  · rename_i read
    rw [scanned] at read
    cases read
    rfl

theorem scan_characters {text : List Char} (outside : '"' ∉ text) (rest : List Char) :
    scan (text ++ rest) = (scan rest).map (text.map .character ++ ·) := by
  induction text with
  | nil => simp
  | cons c text ih =>
      have head : c ≠ '"' := fun isQuote => outside (by simp [isQuote])
      have tail : '"' ∉ text := fun member => outside (List.mem_cons_of_mem c member)
      rw [List.cons_append, scan_character head, ih tail, Option.map_map]
      rfl

/-! ## Pieces -/

def characters (text : String) : List Token :=
  text.toList.map .character

/-- What the scan of a piece meets. -/
def Piece.tokens : Piece → List Token
  | .bare text => characters text
  | .quoted text => [.quoted (escapeChars text.toList)]
  | .verbatim text => [.quoted text.toList]

/-- The text that a piece puts between quotes. -/
def Piece.quotedText? : Piece → Option String
  | .bare _ => none
  | .quoted text => some text
  | .verbatim text => some text

/-- The text that a body denotes. -/
def Token.quotedText? : Token → Option String
  | .character _ => none
  | .quoted body => some (String.ofList (unescapeChars body))

/-- A text that needs no escape. -/
def IsPlainText (text : String) : Prop :=
  ∀ c ∈ text.toList, IsPlainChar c

instance : DecidablePred IsPlainText :=
  fun text => List.decidableBAll IsPlainChar text.toList

theorem isPlainText_append {first second : String} (plainFirst : IsPlainText first)
    (plainSecond : IsPlainText second) : IsPlainText (first ++ second) := by
  intro c member
  rw [String.toList_append, List.mem_append] at member
  exact member.elim (plainFirst c) (plainSecond c)

/-- What a piece does not escape needs no escape. -/
def Piece.IsPlain : Piece → Prop
  | .bare text => IsPlainText text
  | .quoted _ => True
  | .verbatim text => IsPlainText text

instance : DecidablePred Piece.IsPlain
  | .bare text => inferInstanceAs (Decidable (IsPlainText text))
  | .quoted _ => isTrue trivial
  | .verbatim text => inferInstanceAs (Decidable (IsPlainText text))

@[simp] theorem Piece.isPlain_bare {text : String} :
    (Piece.bare text).IsPlain ↔ IsPlainText text := Iff.rfl

@[simp] theorem Piece.isPlain_quoted {text : String} : (Piece.quoted text).IsPlain := trivial

@[simp] theorem Piece.isPlain_verbatim {text : String} :
    (Piece.verbatim text).IsPlain ↔ IsPlainText text := Iff.rfl

theorem toList_quote (text : String) :
    (quote text).toList = '"' :: (escapeChars text.toList ++ ['"']) := by
  simp [quote, escape]

theorem text_verbatim {text : String} (plain : (Piece.verbatim text).IsPlain) :
    (Piece.verbatim text).text = (Piece.quoted text).text := by
  have same : escape text = text := by
    rw [escape, escapeChars_of_plain plain, String.ofList_toList]
  simp only [Piece.text, quote, same]

theorem scan_quote (text : String) (rest : List Char) :
    scan ((quote text).toList ++ rest) =
      (scan rest).map (.quoted (escapeChars text.toList) :: ·) := by
  rw [toList_quote, List.cons_append, List.append_assoc]
  exact scan_quoted (scanBody_escapeChars text.toList rest)

/-- A scan passes over a piece and meets what the writer has put there. -/
theorem scan_piece {piece : Piece} (plain : piece.IsPlain) (rest : List Char) :
    scan (piece.text.toList ++ rest) = (scan rest).map (piece.tokens ++ ·) := by
  cases piece with
  | bare text =>
      apply scan_characters
      intro member
      exact (plain _ member).1 rfl
  | quoted text => exact scan_quote text rest
  | verbatim text =>
      rw [text_verbatim plain, Piece.tokens, ← escapeChars_of_plain plain]
      exact scan_quote text rest

theorem toList_join_cons (piece : Piece) (pieces : List Piece) :
    (Piece.join (piece :: pieces)).toList = piece.text.toList ++ (Piece.join pieces).toList := by
  simp [Piece.join, String.join_cons]

theorem scan_join {pieces : List Piece} (plain : ∀ piece ∈ pieces, piece.IsPlain) :
    scan (Piece.join pieces).toList = some (pieces.flatMap Piece.tokens) := by
  induction pieces with
  | nil =>
      rw [Piece.join, List.map_nil, String.join_nil, scan.eq_def]
      rfl
  | cons piece pieces ih =>
      have head : piece.IsPlain := plain piece (by simp)
      have tail : ∀ other ∈ pieces, other.IsPlain := fun other member => plain other (by simp [member])
      rw [toList_join_cons, scan_piece head, ih tail]
      rfl

theorem quotedText_tokens {piece : Piece} (plain : piece.IsPlain) :
    piece.tokens.filterMap Token.quotedText? = piece.quotedText?.toList := by
  cases piece with
  | bare text =>
      rw [Piece.tokens, characters, List.filterMap_map]
      exact List.filterMap_eq_nil_iff.mpr fun _ _ => rfl
  | quoted text =>
      simp [Piece.tokens, Token.quotedText?, Piece.quotedText?, unescapeChars_escapeChars]
  | verbatim text =>
      have denoted := unescapeChars_escapeChars text.toList
      rw [escapeChars_of_plain plain] at denoted
      simp [Piece.tokens, Token.quotedText?, Piece.quotedText?, denoted]

/-- The bodies that a scan meets denote the texts that the writer has quoted, in order. -/
theorem quotedTexts_tokens {pieces : List Piece} (plain : ∀ piece ∈ pieces, piece.IsPlain) :
    (pieces.flatMap Piece.tokens).filterMap Token.quotedText? =
      pieces.filterMap Piece.quotedText? := by
  induction pieces with
  | nil => rfl
  | cons piece pieces ih =>
      have head : piece.IsPlain := plain piece (by simp)
      have tail : ∀ other ∈ pieces, other.IsPlain := fun other member => plain other (by simp [member])
      rw [List.flatMap_cons, List.filterMap_append, quotedText_tokens head, ih tail]
      cases piece <;> rfl

theorem break_notMem_piece {piece : Piece} (plain : piece.IsPlain) :
    '\n' ∉ piece.text.toList := by
  have quoted (text : String) : '\n' ∉ (quote text).toList := by
    have inside := break_notMem_escapeChars text.toList
    simp [toList_quote, inside]
  cases piece with
  | bare text =>
      intro member
      exact (plain _ member).2.2 rfl
  | quoted text => exact quoted text
  | verbatim text =>
      rw [text_verbatim plain]
      exact quoted text

theorem break_notMem_join {pieces : List Piece} (plain : ∀ piece ∈ pieces, piece.IsPlain) :
    '\n' ∉ (Piece.join pieces).toList := by
  induction pieces with
  | nil => simp [Piece.join]
  | cons piece pieces ih =>
      have head := break_notMem_piece (plain piece (by simp))
      have tail := ih fun other member => plain other (by simp [member])
      rw [toList_join_cons, List.mem_append]
      exact not_or.mpr ⟨head, tail⟩

end TransitionNetwork.Dot
