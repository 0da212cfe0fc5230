import Mathlib.Data.List.Induction
import TransitionNetwork.CommandLine.Arguments

/-!
# Words of the command line as items

The words after the program's name make sense exactly when they are items, one behind the other,
with at most one path among them. What they stand for is said by the items alone: the last command,
the last value of each option, the flags that occur, and the path. Whatever can be asked of the
program can be spelled in this way.
-/

set_option autoImplicit false

namespace TransitionNetwork.CommandLine

/-! ## Items -/

/-- Such a word stands for a path wherever no option waits for its value. -/
def IsPathWord (word : String) : Prop :=
  word = "-" ∨ word.toList.head? ≠ some '-' ∧ word ≠ "render" ∧ word ≠ "names"

instance : DecidablePred IsPathWord :=
  fun _ => inferInstanceAs (Decidable (_ ∨ _ ∧ _ ∧ _))

def Command.word : Command → String
  | render => "render"
  | names => "names"

/-- One thing that is said on the command line. The value of an option may be any word, also one
that looks like an option itself. -/
inductive Item where
  | command (command : Command)
  | withoutFocused
  | withoutFull
  | withoutFlat
  | directory (path : String)
  | title (text : String)
  | path (word : String) (bare : IsPathWord word)
  deriving DecidableEq

/-- What stands behind the items: nothing, or two dashes and whatever word there is behind them. -/
inductive Ending where
  | nothing
  | dashes (last : Option String)
  deriving DecidableEq

namespace Item

def words : Item → List String
  | .command given => [given.word]
  | .withoutFocused => ["--no-focused"]
  | .withoutFull => ["--no-full"]
  | .withoutFlat => ["--no-rules"]
  | .directory given => ["--out-dir", given]
  | .title given => ["--title", given]
  | .path word _ => [word]

def command? : Item → Option Command
  | .command given => some given
  | _ => none

def directory? : Item → Option String
  | .directory given => some given
  | _ => none

def title? : Item → Option String
  | .title given => some given
  | _ => none

def path? : Item → Option String
  | .path word _ => some word
  | _ => none

/-- Takes one item on top of what is given so far. -/
def addTo (arguments : Arguments) : Item → Option Arguments
  | .command given => some { arguments with command := given }
  | .withoutFocused => some { arguments with withoutFocused := true }
  | .withoutFull => some { arguments with withoutFull := true }
  | .withoutFlat => some { arguments with withoutFlat := true }
  | .directory given => some { arguments with directory := some given }
  | .title given => some { arguments with title := some given }
  | .path word _ => arguments.setInput word

end Item

namespace Ending

def words : Ending → List String
  | nothing => []
  | dashes last => "--" :: last.toList

def path? : Ending → Option String
  | nothing => none
  | dashes last => last

end Ending

/-- All that is said on one command line. -/
structure Sentence where
  items : List Item
  ending : Ending := .nothing
  deriving DecidableEq

namespace Sentence

variable (sentence : Sentence)

def words : List String :=
  sentence.items.flatMap Item.words ++ sentence.ending.words

def paths : List String :=
  sentence.items.filterMap Item.path? ++ sentence.ending.path?.toList

/-- What the sentence stands for, if it has no more than one path. -/
def arguments : Arguments where
  command := (sentence.items.filterMap Item.command?).getLast?.getD .render
  input := sentence.paths.head?
  directory := (sentence.items.filterMap Item.directory?).getLast?
  title := (sentence.items.filterMap Item.title?).getLast?
  withoutFocused := .withoutFocused ∈ sentence.items
  withoutFull := .withoutFull ∈ sentence.items
  withoutFlat := .withoutFlat ∈ sentence.items

end Sentence

/-! ## Words -/

/-- The word is spelled as a word of its kind is. -/
def Word.Spells : Word → String → Prop
  | .command given, word => word = given.word
  | .withoutFocused, word => word = "--no-focused"
  | .withoutFull, word => word = "--no-full"
  | .withoutFlat, word => word = "--no-rules"
  | .directory, word => word = "--out-dir"
  | .title, word => word = "--title"
  | .lastInput, word => word = "--"
  | .input, word => IsPathWord word
  | .unknown, word => word.toList.head? = some '-' ∧ word ≠ "-"

theorem Word.spells_of (word : String) : (Word.of word).Spells word := by
  unfold Word.of
  grind [Word.Spells, IsPathWord, Command.word]

theorem Word.spells_of_eq {word : String} {kind : Word} (same : Word.of word = kind) :
    kind.Spells word :=
  same ▸ Word.spells_of word

theorem Word.of_eq_input {word : String} (bare : IsPathWord word) : Word.of word = .input := by
  have apart {other : String} (dashed : other.toList.head? = some '-') (longer : other ≠ "-") :
      word ≠ other := by
    rintro rfl
    rcases bare with dash | ⟨undashed, _⟩
    · exact longer dash
    · exact undashed dashed
  have notCommand : word ≠ "render" ∧ word ≠ "names" := by
    rcases bare with rfl | ⟨_, other⟩
    · decide
    · exact other
  have notOption : ¬ (word.toList.head? = some '-' ∧ word ≠ "-") := by
    rintro ⟨dashed, longer⟩
    exact apart dashed longer rfl
  rw [Word.of, if_neg notCommand.1, if_neg notCommand.2, if_neg (apart (by decide) (by decide)),
    if_neg (apart (by decide) (by decide)), if_neg (apart (by decide) (by decide)),
    if_neg (apart (by decide) (by decide)), if_neg (apart (by decide) (by decide)),
    if_neg (apart (by decide) (by decide)), if_neg notOption]

/-! ## Sentences make sense -/

namespace Arguments

/-- An item is read by itself, whatever stands behind it. -/
theorem extend_item (arguments : Arguments) (item : Item) (rest : List String) :
    arguments.extend (item.words ++ rest) = (item.addTo arguments).bind (·.extend rest) := by
  cases item with
  | command given => cases given <;> rfl
  | path word bare =>
      rw [Item.words, List.singleton_append, Item.addTo, extend.eq_def]
      dsimp only
      rw [Word.of_eq_input bare]
      cases arguments.setInput word <;> rfl
  | _ => rfl

theorem extend_items (arguments : Arguments) (items : List Item) (rest : List String) :
    arguments.extend (items.flatMap Item.words ++ rest) =
      (items.foldlM Item.addTo arguments).bind (·.extend rest) := by
  induction items generalizing arguments with
  | nil => rfl
  | cons item items ih =>
      rw [List.flatMap_cons, List.append_assoc, extend_item, List.foldlM_cons]
      cases item.addTo arguments with
      | none => rfl
      | some next => exact ih next

theorem extend_ending (arguments : Arguments) (ending : Ending) :
    arguments.extend ending.words = match ending.path? with
      | none => some arguments
      | some path => arguments.setInput path := by
  cases ending with
  | nothing => rfl
  | dashes last => cases last <;> rfl

end Arguments

namespace Sentence

open Arguments

/-- A path can be added as long as no item has given one. -/
theorem setInput_arguments (items : List Item) (path : String) :
    (Sentence.mk items .nothing).arguments.setInput path =
      if items.filterMap Item.path? = [] then
        some { (Sentence.mk items .nothing).arguments with input := some path }
      else none := by
  have given : (Sentence.mk items .nothing).arguments.input =
      (items.filterMap Item.path?).head? := by
    simp [Sentence.arguments, paths, Ending.path?]
  rw [setInput, given]
  cases items.filterMap Item.path? <;> rfl

/-- Adding an item at the end adds to what the items stand for. -/
theorem addTo_arguments {items : List Item} (item : Item)
    (single : (Sentence.mk items .nothing).paths.length ≤ 1) :
    item.addTo (Sentence.mk items .nothing).arguments =
      if (Sentence.mk (items ++ [item]) .nothing).paths.length ≤ 1 then
        some (Sentence.mk (items ++ [item]) .nothing).arguments
      else none := by
  cases item with
  | path word bare =>
      rw [Item.addTo, setInput_arguments]
      cases given : items.filterMap Item.path? with
      | nil =>
          simp [Sentence.arguments, paths, Ending.path?, Item.path?, Item.command?, Item.directory?,
            Item.title?, given]
      | cons first others => simp [paths, Ending.path?, Item.path?, given]
  | _ =>
      simpa [Sentence.arguments, paths, Ending.path?, Item.addTo, Item.path?, Item.command?,
        Item.directory?, Item.title?, List.filterMap_cons] using single

/-- Items that are read from the left stand for what the sentence of them stands for. -/
theorem foldlM_addTo (items : List Item) :
    items.foldlM Item.addTo {} =
      if (Sentence.mk items .nothing).paths.length ≤ 1 then
        some (Sentence.mk items .nothing).arguments
      else none := by
  -- the last item is read last, so the induction takes items off the end
  induction items using List.reverseRecOn with
  | nil => rfl
  | append_singleton items item ih =>
      rw [List.foldlM_append, ih]
      simp only [List.foldlM_cons, List.foldlM_nil, bind_pure]
      by_cases single : (Sentence.mk items .nothing).paths.length ≤ 1
      · rw [if_pos single]
        exact addTo_arguments item single
      · have more : ¬ (Sentence.mk (items ++ [item]) .nothing).paths.length ≤ 1 := by
          simp only [paths, List.filterMap_append, List.length_append] at single ⊢
          omega
        rw [if_neg single, if_neg more]
        rfl

/-- What stands behind the items is read last and may give the path. -/
theorem extend_ending_arguments (items : List Item) (ending : Ending)
    (single : (Sentence.mk items .nothing).paths.length ≤ 1) :
    (Sentence.mk items .nothing).arguments.extend ending.words =
      if (Sentence.mk items ending).paths.length ≤ 1 then some (Sentence.mk items ending).arguments
      else none := by
  rw [extend_ending]
  cases last : ending.path? with
  | none =>
      have same : (Sentence.mk items ending).paths = (Sentence.mk items .nothing).paths := by
        rw [paths, paths, last]
        rfl
      rw [Sentence.arguments, Sentence.arguments, same, if_pos single]
  | some path =>
      dsimp only
      rw [setInput_arguments]
      cases given : items.filterMap Item.path? with
      | nil => simp [Sentence.arguments, paths, last, given]
      | cons first others => simp [paths, last, given]

/-- A sentence makes sense if it has no more than one path. -/
theorem parse_words (sentence : Sentence) :
    parse sentence.words = if sentence.paths.length ≤ 1 then some sentence.arguments else none := by
  obtain ⟨items, ending⟩ := sentence
  rw [parse, words, extend_items, foldlM_addTo]
  by_cases single : (Sentence.mk items .nothing).paths.length ≤ 1
  · rw [if_pos single]
    exact extend_ending_arguments items ending single
  · have more : ¬ (Sentence.mk items ending).paths.length ≤ 1 := by
      simp only [paths, List.length_append] at single ⊢
      have none : Ending.nothing.path?.toList.length = 0 := rfl
      omega
    rw [if_neg single, if_neg more]
    rfl

end Sentence

/-! ## What makes sense is a sentence -/

namespace Arguments

variable {arguments result : Arguments} {words : List String}

/-- Words that make sense are items, one behind the other, and an ending. -/
theorem exists_sentence_of_extend (sense : arguments.extend words = some result) :
    ∃ sentence : Sentence, sentence.words = words := by
  have behind (item : Item) {rest : List String}
      (others : ∃ sentence : Sentence, sentence.words = rest) :
      ∃ sentence : Sentence, sentence.words = item.words ++ rest := by
    obtain ⟨⟨items, ending⟩, rfl⟩ := others
    exact ⟨⟨item :: items, ending⟩, by simp [Sentence.words]⟩
  -- one case for each turn of the loop; the turns that refuse their word have no result
  fun_induction extend arguments words with
  | case1 arguments => exact ⟨⟨[], .nothing⟩, rfl⟩
  | case2 arguments word command rest kind ih =>
      obtain rfl : word = command.word := Word.spells_of_eq kind
      exact behind (.command command) (ih sense)
  | case3 arguments word rest kind ih =>
      obtain rfl : word = "--no-focused" := Word.spells_of_eq kind
      exact behind .withoutFocused (ih sense)
  | case4 arguments word rest kind ih =>
      obtain rfl : word = "--no-full" := Word.spells_of_eq kind
      exact behind .withoutFull (ih sense)
  | case5 arguments word rest kind ih =>
      obtain rfl : word = "--no-rules" := Word.spells_of_eq kind
      exact behind .withoutFlat (ih sense)
  | case6 arguments word path rest kind ih =>
      obtain rfl : word = "--out-dir" := Word.spells_of_eq kind
      exact behind (.directory path) (ih sense)
  | case8 arguments word title rest kind ih =>
      obtain rfl : word = "--title" := Word.spells_of_eq kind
      exact behind (.title title) (ih sense)
  | case10 arguments word kind =>
      obtain rfl : word = "--" := Word.spells_of_eq kind
      exact ⟨⟨[], .dashes none⟩, rfl⟩
  | case11 arguments word path kind =>
      obtain rfl : word = "--" := Word.spells_of_eq kind
      exact ⟨⟨[], .dashes (some path)⟩, rfl⟩
  | case14 arguments word rest kind next taken ih =>
      exact behind (.path word (Word.spells_of_eq kind)) (ih sense)
  | case7 | case9 | case12 | case13 | case15 => cases sense

/-- A sentence that stands for the arguments. Its path comes last, so that it may be any word. -/
def sentence (arguments : Arguments) : Sentence where
  items :=
    .command arguments.command ::
      (if arguments.withoutFocused then [.withoutFocused] else []) ++
      (if arguments.withoutFull then [.withoutFull] else []) ++
      (if arguments.withoutFlat then [.withoutFlat] else []) ++
      arguments.directory.toList.map .directory ++ arguments.title.toList.map .title
  ending := .dashes arguments.input

theorem parse_sentence (arguments : Arguments) :
    parse arguments.sentence.words = some arguments := by
  have folded : arguments.sentence.items.foldlM Item.addTo {} =
      some { arguments with input := none } := by
    obtain ⟨command, input, directory, title, withoutFocused, withoutFull, withoutFlat⟩ := arguments
    -- every option is given or is not, and so is every flag
    cases directory <;> cases title <;> cases withoutFocused <;> cases withoutFull <;>
      cases withoutFlat <;> rfl
  rw [parse, Sentence.words, extend_items, folded]
  obtain ⟨command, input⟩ := arguments
  cases input <;> rfl

/-- Words make sense exactly when they are those of a sentence with no more than one path, and then
they stand for what the sentence stands for. All arguments can be given by some words. -/
theorem parse_reads_sentences :
    (∀ words arguments, parse words = some arguments ↔
      ∃ sentence : Sentence, sentence.words = words ∧ sentence.paths.length ≤ 1 ∧
        sentence.arguments = arguments) ∧
    (∀ words, parse words = none ↔
      ¬ ∃ sentence : Sentence, sentence.words = words ∧ sentence.paths.length ≤ 1) ∧
    ∀ arguments, ∃ words, parse words = some arguments := by
  have reads (words : List String) (arguments : Arguments) : parse words = some arguments ↔
      ∃ sentence : Sentence, sentence.words = words ∧ sentence.paths.length ≤ 1 ∧
        sentence.arguments = arguments := by
    constructor
    · intro sense
      obtain ⟨sentence, rfl⟩ := exists_sentence_of_extend sense
      rw [Sentence.parse_words] at sense
      split at sense
      · exact ⟨sentence, rfl, ‹_›, Option.some.inj sense⟩
      · cases sense
    · rintro ⟨sentence, rfl, single, rfl⟩
      rw [Sentence.parse_words, if_pos single]
  refine ⟨reads, ?_, fun arguments => ⟨_, parse_sentence arguments⟩⟩
  intro words
  rw [Option.eq_none_iff_forall_ne_some]
  simp only [ne_eq, reads]
  grind

/-- A word that is taken as a value or as a path means nothing else. -/
example : parse ["names", "--title", "--no-full", "--", "render"] =
    some { command := .names, title := some "--no-full", input := some "render" } := rfl

end Arguments

end TransitionNetwork.CommandLine
