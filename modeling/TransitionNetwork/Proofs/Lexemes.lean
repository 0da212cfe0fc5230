import TransitionNetwork.Proofs.ReadingBack

/-!
# Identifiers as lexemes

The graph language reads a word as an identifier, and so it does a quoted text, which denotes what
stands inside. Six words it keeps for itself, in any letter case. An identifier is read as the name
that it was written for, unless the name is one of these words: the writer leaves it bare like any
other word, and the reader takes it for the keyword. The graphs of documents have no such names.
-/

set_option autoImplicit false

namespace TransitionNetwork.Dot

/-! ## The reader -/

/-- Letters are those of ASCII and all characters beyond it. -/
def startsWord (c : Char) : Bool :=
  c.isAlpha || c == '_' || 0x80 ≤ c.toNat

def continuesWord (c : Char) : Bool :=
  startsWord c || c.isDigit

def keywords : List String :=
  ["node", "edge", "graph", "digraph", "subgraph", "strict"]

def IsKeyword (word : String) : Prop :=
  ∃ keyword ∈ keywords, word.toList.map Char.toLower = keyword.toList

instance : DecidablePred IsKeyword :=
  fun word => List.decidableBEx
    (fun keyword : String => word.toList.map Char.toLower = keyword.toList) keywords

inductive Lexeme where
  | keyword (word : String)
  | identifier (name : String)
  deriving DecidableEq

def Lexeme.ofWord (word : String) : Lexeme :=
  if IsKeyword word then .keyword word else .identifier word

/-- Reads the word or quoted text that a text begins with, and gives what is left behind it. A word
goes on as long as it can. No name is written as a number or as markup, so neither is read. -/
def lexeme? : List Char → Option (Lexeme × List Char)
  | [] => none
  | '"' :: rest =>
    (scanBody rest).map fun (body, after) =>
      (.identifier (String.ofList (unescapeChars body)), after)
  | first :: rest =>
    if startsWord first then
      some (.ofWord (String.ofList (first :: rest.takeWhile continuesWord)),
        rest.dropWhile continuesWord)
    else none

/-- What follows does not belong to a word before it. -/
def EndsWord (rest : List Char) : Prop :=
  ∀ c ∈ rest.head?, continuesWord c = false

/-- The text is all of one lexeme, wherever it stands before something that ends a word. -/
def IsLexeme (text : String) (lexeme : Lexeme) : Prop :=
  ∀ rest, EndsWord rest → lexeme? (text.toList ++ rest) = some (lexeme, rest)

/-! ## Words -/

/-- A letter or underscore followed by letters, digits and underscores, all of them ASCII. -/
def IsName (name : String) : Prop :=
  ∃ first rest, name.toList = first :: rest ∧ (first.isAlpha = true ∨ first = '_') ∧
    ∀ c ∈ rest, c.isAlphanum = true ∨ c = '_'

theorem isName_iff {name : String} : IsName name ↔ isBareName name.toList = true := by
  constructor
  · rintro ⟨first, rest, chars, starts, continues⟩
    simpa [chars, isBareName, startsName, continuesName] using ⟨starts, continues⟩
  · intro bare
    cases chars : name.toList with
    | nil =>
        rw [chars] at bare
        cases bare
    | cons first rest =>
        refine ⟨first, rest, chars, ?_⟩
        simpa [chars, isBareName, startsName, continuesName] using bare

theorem startsWord_of_letter_or_underscore {c : Char} (starts : c.isAlpha = true ∨ c = '_') :
    startsWord c = true := by
  rw [startsWord, Bool.or_eq_true, Bool.or_eq_true, beq_iff_eq]
  exact Or.inl starts

theorem continuesWord_of_alphanum_or_underscore {c : Char}
    (continues : c.isAlphanum = true ∨ c = '_') : continuesWord c = true := by
  rw [Char.isAlphanum, Bool.or_eq_true] at continues
  rw [continuesWord, Bool.or_eq_true]
  rcases continues with (letter | digit) | underscore
  · exact Or.inl (startsWord_of_letter_or_underscore (Or.inl letter))
  · exact Or.inr digit
  · exact Or.inl (startsWord_of_letter_or_underscore (Or.inr underscore))

theorem lexeme?_word {first : Char} {word rest : List Char} (starts : startsWord first = true)
    (continues : ∀ c ∈ word, continuesWord c = true) (ends : EndsWord rest) :
    lexeme? (first :: (word ++ rest)) = some (.ofWord (String.ofList (first :: word)), rest) := by
  have unquoted : first ≠ '"' := by
    rintro rfl
    exact absurd starts (by decide)
  have stops : rest.takeWhile continuesWord = [] ∧ rest.dropWhile continuesWord = rest := by
    cases rest with
    | nil => exact ⟨rfl, rfl⟩
    | cons c rest => simp [ends c rfl]
  rw [lexeme?, if_pos starts, List.takeWhile_append_of_pos continues,
    List.dropWhile_append_of_pos continues, stops.1, stops.2, List.append_nil]
  exact unquoted

theorem isAlpha_of_isAlpha_toLower {c : Char} (letter : c.toLower.isAlpha = true) :
    c.isAlpha = true := by
  unfold Char.toLower at letter
  split at letter
  · rename_i upper
    have isUpper : c.isUpper = true := decide_eq_true upper
    exact (Bool.or_eq_true ..).mpr (Or.inl isUpper)
  · exact letter

/-- Keywords look like names. -/
theorem isName_of_isKeyword {word : String} (reserved : IsKeyword word) : IsName word := by
  obtain ⟨keyword, member, same⟩ := reserved
  have letters : ∀ keyword ∈ keywords,
      keyword.toList.isEmpty = false ∧ keyword.toList.all Char.isAlpha = true := by
    decide
  obtain ⟨nonempty, letters⟩ := letters keyword member
  rw [← same, List.all_map, List.all_eq_true] at letters
  have letter : ∀ c ∈ word.toList, c.isAlpha = true := fun c inside =>
    isAlpha_of_isAlpha_toLower (letters c inside)
  cases chars : word.toList with
  | nil =>
      rw [← same, chars] at nonempty
      cases nonempty
  | cons first rest =>
      rw [chars] at letter
      refine ⟨first, rest, chars, Or.inl (letter first List.mem_cons_self), ?_⟩
      intro c inside
      rw [Char.isAlphanum, letter c (List.mem_cons_of_mem first inside)]
      exact Or.inl rfl

/-! ## Identifiers -/

/-- The text begins with a quote, the scan from there ends with the text, and what it has passed
denotes the name. -/
def Quotes (text name : String) : Prop :=
  ∃ inside body, text.toList = '"' :: inside ∧ scanBody inside = some (body, []) ∧
    unescapeChars body = name.toList

theorem quotes_quote (name : String) : Quotes (quote name) name :=
  ⟨_, escapeChars name.toList, toList_quote name, scanBody_escapeChars name.toList [],
    unescapeChars_escapeChars name.toList⟩

theorem identifier_of_isName {name : String} (bare : IsName name) : identifier name = name := by
  rw [identifier, Piece.ofName, if_pos (isName_iff.mp bare)]
  rfl

theorem identifier_of_not_isName {name : String} (other : ¬ IsName name) :
    identifier name = quote name := by
  rw [identifier, Piece.ofName, if_neg (fun bare => other (isName_iff.mpr bare))]
  rfl

theorem isLexeme_of_isName {name : String} (bare : IsName name) : IsLexeme name (.ofWord name) := by
  obtain ⟨first, others, chars, starts, continues⟩ := bare
  intro rest ends
  have word := lexeme?_word (startsWord_of_letter_or_underscore starts)
    (fun c inside => continuesWord_of_alphanum_or_underscore (continues c inside)) ends
  rwa [← List.cons_append, ← chars, String.ofList_toList] at word

theorem isLexeme_quote (name : String) : IsLexeme (quote name) (.identifier name) := by
  intro rest _
  have body := unescapeChars_escapeChars name.toList
  rw [toList_quote, List.cons_append, List.append_assoc, List.singleton_append, lexeme?,
    scanBody_escapeChars, Option.map_some]
  simp only [body, String.ofList_toList]

/-- The words that are reserved are names, so no quoted name is one of them. -/
theorem isLexeme_identifier (name : String) : IsLexeme (identifier name) (.ofWord name) := by
  by_cases bare : IsName name
  · rw [identifier_of_isName bare]
    exact isLexeme_of_isName bare
  · have free : ¬ IsKeyword name := fun reserved => bare (isName_of_isKeyword reserved)
    rw [identifier_of_not_isName bare, Lexeme.ofWord, if_neg free]
    exact isLexeme_quote name

theorem IsLexeme.unique {text : String} {first second : Lexeme} (isFirst : IsLexeme text first)
    (isSecond : IsLexeme text second) : first = second := by
  have nothingLeft : EndsWord [] := nofun
  have same := (isFirst [] nothingLeft).symm.trans (isSecond [] nothingLeft)
  exact (Prod.mk.inj (Option.some.inj same)).1

theorem Lexeme.ofWord_eq_identifier_iff {word : String} :
    ofWord word = .identifier word ↔ ¬ IsKeyword word := by
  unfold ofWord
  split
  · rename_i reserved
    exact iff_of_false nofun (not_not_intro reserved)
  · rename_i free
    exact iff_of_true rfl free

theorem Lexeme.ofWord_injective {first second : String} (same : ofWord first = ofWord second) :
    first = second := by
  unfold ofWord at same
  split at same <;> split at same <;> cases same <;> rfl

/-- A name that looks like one is left bare, any other is quoted. Either way its identifier is read
as the name, unless the name is a keyword, and different names have different identifiers. -/
theorem identifier_denotes_name_unless_keyword (name : String) :
    (IsName name ∧ identifier name = name ∨ ¬ IsName name ∧ Quotes (identifier name) name) ∧
    (IsLexeme (identifier name) (.identifier name) ↔ ¬ IsKeyword name) ∧
    ∀ other, identifier name = identifier other ↔ name = other := by
  have read := isLexeme_identifier name
  refine ⟨?_, ?_, ?_⟩
  · by_cases bare : IsName name
    · exact Or.inl ⟨bare, identifier_of_isName bare⟩
    · rw [identifier_of_not_isName bare]
      exact Or.inr ⟨bare, quotes_quote name⟩
  · rw [← Lexeme.ofWord_eq_identifier_iff]
    constructor
    · intro denoted
      exact read.unique denoted
    · intro same
      rwa [same] at read
  · intro other
    constructor
    · intro same
      rw [same] at read
      exact Lexeme.ofWord_injective (read.unique (isLexeme_identifier other))
    · rintro rfl
      rfl

/-- The identifier of a keyword is neither quoted nor read as an identifier. -/
theorem identifier_of_node_is_keyword :
    IsKeyword "node" ∧ identifier "node" = "node" ∧ ¬ Quotes (identifier "node") "node" ∧
      IsLexeme (identifier "node") (.keyword "node") ∧
      ¬ IsLexeme (identifier "node") (.identifier "node") := by
  have keyword : IsLexeme (identifier "node") (.keyword "node") := isLexeme_identifier "node"
  refine ⟨by decide, by decide, ?_, keyword, ?_⟩
  · rintro ⟨inside, body, opening, _⟩
    cases opening
  · intro denoted
    cases keyword.unique denoted

/-! ## Names of graphs -/

/-- A text begins with the words that open a graph of the name. -/
def OpensGraph (text name : String) : Prop :=
  ∃ named body, lexeme? text.toList = some (.keyword "digraph", ' ' :: named) ∧
    lexeme? named = some (.identifier name, ' ' :: '\x7b' :: '\n' :: body)

theorem opensGraph_render {name : String} (free : ¬ IsKeyword name) (lines : List Line) :
    OpensGraph (render (.openGraph name :: lines)) name := by
  have opening : IsName "digraph" := isName_iff.mpr (by decide)
  have blank (rest : List Char) : EndsWord (' ' :: rest) := by
    rintro c ⟨⟩
    decide
  obtain ⟨body, written⟩ : ∃ body, (render (.openGraph name :: lines)).toList =
      "digraph".toList ++ ' ' :: ((identifier name).toList ++ ' ' :: '\x7b' :: '\n' :: body) := by
    refine ⟨lines.flatMap fun line => line.text.toList ++ ['\n'], ?_⟩
    rw [render, toList_write]
    simp [Line.text, Line.pieces, Piece.join, Piece.text, identifier]
  have named := isLexeme_identifier name _ (blank ('\x7b' :: '\n' :: body))
  have keyword := isLexeme_of_isName opening _
    (blank ((identifier name).toList ++ ' ' :: '\x7b' :: '\n' :: body))
  rw [Lexeme.ofWord_eq_identifier_iff.mpr free] at named
  rw [← written] at keyword
  exact ⟨_, body, keyword, named⟩

/-- No keyword begins like the name of a flat graph. -/
theorem not_isKeyword_graphName (ruleName : String) : ¬ IsKeyword ("ATN_for_" ++ ruleName) := by
  rintro ⟨keyword, member, same⟩
  have heads : ∀ keyword ∈ keywords, keyword.toList.head? ≠ some 'a' := by decide
  apply heads keyword member
  rw [← same]
  simp

end TransitionNetwork.Dot

namespace TransitionNetwork.Automaton

open Dot

/-- Documents are clear of the reserved words. A flat document opens a graph that is named after its
rule, whatever the name of the rule is, and all other documents open graphs of one name. -/
theorem documents_open_graphs (automaton : Automaton) :
    (∀ rule, OpensGraph (automaton.focused rule).content "ATN") ∧
    (∀ title, OpensGraph (automaton.full title).content "ATN") ∧
    ∀ rule, OpensGraph (automaton.flat rule).content ("ATN_for_" ++ automaton.ruleName rule) := by
  have free : ¬ IsKeyword "ATN" := by decide
  refine ⟨?_, ?_, ?_⟩
  · intro rule
    exact opensGraph_render free _
  · intro title
    exact opensGraph_render free _
  · intro rule
    exact opensGraph_render (not_isKeyword_graphName (automaton.ruleName rule)) _

end TransitionNetwork.Automaton
