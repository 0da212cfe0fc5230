import TransitionNetwork.Proofs.JsonRecord
import TransitionNetwork.Snapshot.Reader
import TransitionNetwork.Snapshot.Writer

/-!
# Every form of a snapshot is read as that snapshot

A snapshot has many texts: the fields of each of its objects may stand in any order, those that
have their default may be left out, keys that name no field may be added with any well-formed
values, and blanks may stand between any two tokens. The text that is written is one of them. Each
is read as the snapshot that it is a form of.
-/

set_option autoImplicit false

namespace TransitionNetwork

open Json Reader

/-! ## Kinds of states -/

theorem StateKind.run_tagReader {kind : StateKind} {body : Bytes}
    (spells : Spells body kind.tag.toList) (rest : Bytes) :
    StateKind.tagReader.run (body ++ Byte.quote :: rest) = .ok (kind, rest) := by
  rw [StateKind.tagReader, run_bind_of_run_eq_ok (run_text spells rest)]
  simp only [StateKind.ofTag?_tag]
  rfl

theorem StateKind.reads_form {kind : StateKind} (text : Bytes) (form : StringForm kind.tag text) :
    Reads StateKind.reader text kind := by
  cases form with
  | quoted spells =>
      apply Reads.of_token rfl
      intro rest ends
      rw [List.append_assoc]
      exact StateKind.run_tagReader spells rest

/-! ## Fields of a record -/

section Fields

variable {β : Type} {name : String} {seen : List String} {value default : β}

theorem getD_keep (present : name ∈ seen ∨ value = default) :
    (Record.keep name seen value).getD default = value := by
  unfold Record.keep
  split
  · rfl
  · rename_i unseen
    exact (present.resolve_left unseen).symm

theorem require_keep (present : name ∈ seen ∨ False) :
    Snapshot.require name (Record.keep name seen value) = .ok value := by
  have isSeen : name ∈ seen := present.resolve_right id
  rw [Record.keep, if_pos isSeen]
  rfl

end Fields

/-! ## Vocabularies -/

inductive NameForm : Option String → Bytes → Prop where
  | null : NameForm none [Byte.lowerN, 0x75, 0x6C, 0x6C]
  | string {name : String} {text : Bytes} : StringForm name text → NameForm (some name) text

theorem reads_nameForm {name : Option String} {text : Bytes} (form : NameForm name text) :
    Reads (optional string) text name := by
  cases form with
  | null =>
      apply Reads.of_token rfl
      intro rest ends
      rfl
  | string form =>
      apply (reads_stringForm form).optional
      cases form with
      | quoted spells =>
          intro isNull
          have : Byte.quote = Byte.lowerN := Option.some.inj isNull
          exact absurd this (by decide)

theorem nameForm_writeOptional (name : Option String) :
    NameForm name (bytesOf (writeOptional writeString name)) := by
  cases name with
  | none =>
      have text : bytesOf (writeOptional writeString none) = [Byte.lowerN, 0x75, 0x6C, 0x6C] :=
        bytesOf_eq_flatMap "null"
      rw [text]
      exact NameForm.null
  | some name => exact NameForm.string (stringForm_writeString name)

def NamesForm (names : Array (Option String)) : Bytes → Prop :=
  ArrayForm NameForm names.toList

theorem reads_namesForm {names : Array (Option String)} (text : Bytes)
    (form : NamesForm names text) : Reads namesReader text names :=
  (reads_arrayForm (fun _ _ => reads_nameForm) form).map List.toArray

theorem namesForm_writeArray (names : Array (Option String)) :
    NamesForm names (bytesOf (writeArray (writeOptional writeString) names.toList)) :=
  arrayForm_writeArray nameForm_writeOptional names.toList

namespace Vocabulary

variable (vocabulary : Vocabulary)

/-- Each table may be left out if it is empty. -/
def slots : List Slot := [
  ⟨"literal_names", NamesForm vocabulary.literalNames, vocabulary.literalNames = #[]⟩,
  ⟨"symbolic_names", NamesForm vocabulary.symbolicNames, vocabulary.symbolicNames = #[]⟩,
  ⟨"display_names", NamesForm vocabulary.displayNames, vocabulary.displayNames = #[]⟩]

def Form : Bytes → Prop :=
  ObjectForm vocabulary.slots

/-- What has been read of a vocabulary once the names of some of its fields were seen. -/
def drafts : Record.Drafts record vocabulary.slots vocabulary where
  draft seen := {
    literalNames := Record.keep "literal_names" seen vocabulary.literalNames
    symbolicNames := Record.keep "symbolic_names" seen vocabulary.symbolicNames
    displayNames := Record.keep "display_names" seen vocabulary.displayNames }
  empty := rfl
  fits := by
    apply List.Forall₂.cons (.of reads_namesForm (fun _ => rfl) fun _ => by simp [Record.keep])
    apply List.Forall₂.cons (.of reads_namesForm (fun _ => rfl) fun _ => by simp [Record.keep])
    apply List.Forall₂.cons (.of reads_namesForm (fun _ => rfl) fun _ => by simp [Record.keep])
    exact List.Forall₂.nil
  nodup := by
    show ["literal_names", "symbolic_names", "display_names"].Nodup
    decide
  finish seen present := by
    simp only [slots, List.forall_mem_cons] at present
    obtain ⟨literalNames, symbolicNames, displayNames, _⟩ := present
    simp only [record, getD_keep literalNames, getD_keep symbolicNames, getD_keep displayNames]

theorem form_toJson : vocabulary.Form (bytesOf vocabulary.toJson) := by
  apply objectForm_writeObject
  apply List.Forall₂.cons ⟨rfl, namesForm_writeArray vocabulary.literalNames⟩
  apply List.Forall₂.cons ⟨rfl, namesForm_writeArray vocabulary.symbolicNames⟩
  apply List.Forall₂.cons ⟨rfl, namesForm_writeArray vocabulary.displayNames⟩
  exact List.Forall₂.nil

theorem reads_form {vocabulary : Vocabulary} (text : Bytes) (form : vocabulary.Form text) :
    Reads record.reader text vocabulary :=
  vocabulary.drafts.reads_objectForm form

end Vocabulary

/-! ## Values that are written in one way only -/

def IsText (written : String) (text : Bytes) : Prop :=
  text = bytesOf written

theorem reads_unsigned32_text {value : UInt32} (text : Bytes)
    (isText : IsText (writeInteger value.toNat) text) : Reads unsigned32 text value := by
  rw [isText]
  exact reads_unsigned32 value

theorem reads_signed32_text {value : Int32} (text : Bytes)
    (isText : IsText (writeInteger value.toInt) text) : Reads signed32 text value := by
  rw [isText]
  exact reads_signed32 value

theorem reads_boolean_text {value : Bool} (text : Bytes)
    (isText : IsText (writeBoolean value) text) : Reads boolean text value := by
  rw [isText]
  exact reads_writeBoolean value

namespace Snapshot

/-! ## Transitions -/

def SymbolForm (symbol : Int32) : Bytes → Prop :=
  IsText (writeInteger symbol.toInt)

theorem symbolForm_writeInteger (symbol : Int32) :
    SymbolForm symbol (bytesOf (writeInteger symbol.toInt)) :=
  rfl

namespace Transition

variable (transition : Transition)

/-- Only the target must be there. -/
def slots : List Slot := [
  ⟨"target", IsText (writeInteger transition.target.toNat), False⟩,
  ⟨"epsilon", IsText (writeBoolean transition.epsilon), transition.epsilon = false⟩,
  ⟨"symbols", ArrayForm SymbolForm transition.symbols, transition.symbols = []⟩]

def Form : Bytes → Prop :=
  ObjectForm transition.slots

def drafts : Record.Drafts record transition.slots transition where
  draft seen := {
    target := Record.keep "target" seen transition.target
    epsilon := Record.keep "epsilon" seen transition.epsilon
    symbols := Record.keep "symbols" seen transition.symbols }
  empty := rfl
  fits := by
    apply List.Forall₂.cons
      (.of reads_unsigned32_text (fun _ => rfl) fun _ => by simp [Record.keep])
    apply List.Forall₂.cons
      (.of reads_boolean_text (fun _ => rfl) fun _ => by simp [Record.keep])
    apply List.Forall₂.cons (.of (fun _ => reads_arrayForm fun _ => reads_signed32_text)
      (fun _ => rfl) fun _ => by simp [Record.keep])
    exact List.Forall₂.nil
  nodup := by
    show ["target", "epsilon", "symbols"].Nodup
    decide
  finish seen present := by
    simp only [slots, List.forall_mem_cons] at present
    obtain ⟨target, epsilon, symbols, _⟩ := present
    simp only [record, require_keep target, getD_keep epsilon, getD_keep symbols]
    rfl

theorem form_toJson : transition.Form (bytesOf transition.toJson) := by
  apply objectForm_writeObject
  apply List.Forall₂.cons ⟨rfl, rfl⟩
  apply List.Forall₂.cons ⟨rfl, rfl⟩
  have symbols := arrayForm_writeArray symbolForm_writeInteger transition.symbols
  apply List.Forall₂.cons ⟨rfl, symbols⟩
  exact List.Forall₂.nil

theorem reads_form {transition : Transition} (text : Bytes) (form : transition.Form text) :
    Reads record.reader text transition :=
  transition.drafts.reads_objectForm form

end Transition

/-! ## States -/

namespace State

variable (state : State)

/-- Only the number must be there. -/
def slots : List Slot := [
  ⟨"id", IsText (writeInteger state.id.toNat), False⟩,
  ⟨"rule_index", IsText (writeInteger state.ruleIndex.toInt), state.ruleIndex = -1⟩,
  ⟨"kind", StringForm state.kind.tag, state.kind = .basic⟩,
  ⟨"transitions", ArrayForm Transition.Form state.transitions, state.transitions = []⟩]

def Form : Bytes → Prop :=
  ObjectForm state.slots

def drafts : Record.Drafts record state.slots state where
  draft seen := {
    id := Record.keep "id" seen state.id
    ruleIndex := Record.keep "rule_index" seen state.ruleIndex
    kind := Record.keep "kind" seen state.kind
    transitions := Record.keep "transitions" seen state.transitions }
  empty := rfl
  fits := by
    apply List.Forall₂.cons
      (.of reads_unsigned32_text (fun _ => rfl) fun _ => by simp [Record.keep])
    apply List.Forall₂.cons
      (.of reads_signed32_text (fun _ => rfl) fun _ => by simp [Record.keep])
    apply List.Forall₂.cons
      (.of StateKind.reads_form (fun _ => rfl) fun _ => by simp [Record.keep])
    apply List.Forall₂.cons (.of (fun _ => reads_arrayForm fun _ => Transition.reads_form)
      (fun _ => rfl) fun _ => by simp [Record.keep])
    exact List.Forall₂.nil
  nodup := by
    show ["id", "rule_index", "kind", "transitions"].Nodup
    decide
  finish seen present := by
    simp only [slots, List.forall_mem_cons] at present
    obtain ⟨id, ruleIndex, kind, transitions, _⟩ := present
    simp only [record, require_keep id, getD_keep ruleIndex, getD_keep kind, getD_keep transitions]
    rfl

theorem form_toJson : state.Form (bytesOf state.toJson) := by
  have transitions := arrayForm_writeArray Transition.form_toJson state.transitions
  apply objectForm_writeObject
  apply List.Forall₂.cons ⟨rfl, rfl⟩
  apply List.Forall₂.cons ⟨rfl, rfl⟩
  apply List.Forall₂.cons ⟨rfl, stringForm_writeString state.kind.tag⟩
  apply List.Forall₂.cons ⟨rfl, transitions⟩
  exact List.Forall₂.nil

theorem reads_form {state : State} (text : Bytes) (form : state.Form text) :
    Reads record.reader text state :=
  state.drafts.reads_objectForm form

end State

/-! ## Snapshots -/

variable (snapshot : Snapshot)

/-- Only the vocabulary may be left out. -/
def slots : List Slot := [
  ⟨"rule_names", ArrayForm StringForm snapshot.ruleNames, False⟩,
  ⟨"vocabulary", snapshot.vocabulary.Form, snapshot.vocabulary = {}⟩,
  ⟨"states", ArrayForm State.Form snapshot.states, False⟩]

/-- The texts of a snapshot, with blanks around the object. -/
inductive Form : Bytes → Prop where
  | padded {before object after : Bytes} : AllBlank before → ObjectForm snapshot.slots object →
      AllBlank after → Form (before ++ (object ++ after))

def drafts : Record.Drafts record snapshot.slots snapshot where
  draft seen := {
    ruleNames := Record.keep "rule_names" seen snapshot.ruleNames
    vocabulary := Record.keep "vocabulary" seen snapshot.vocabulary
    states := Record.keep "states" seen snapshot.states }
  empty := rfl
  fits := by
    apply List.Forall₂.cons (.of (fun _ => reads_arrayForm fun _ _ => reads_stringForm)
      (fun _ => rfl) fun _ => by simp [Record.keep])
    apply List.Forall₂.cons
      (.of Vocabulary.reads_form (fun _ => rfl) fun _ => by simp [Record.keep])
    apply List.Forall₂.cons (.of (fun _ => reads_arrayForm fun _ => State.reads_form)
      (fun _ => rfl) fun _ => by simp [Record.keep])
    exact List.Forall₂.nil
  nodup := by
    show ["rule_names", "vocabulary", "states"].Nodup
    decide
  finish seen present := by
    simp only [slots, List.forall_mem_cons] at present
    obtain ⟨ruleNames, vocabulary, states, _⟩ := present
    simp only [record, require_keep ruleNames, require_keep states, getD_keep vocabulary]
    rfl

/-- The written text is a form without blanks, with all fields in their declared order. -/
theorem form_toJson : snapshot.Form (bytesOf snapshot.toJson) := by
  have object : ObjectForm snapshot.slots (bytesOf snapshot.toJson) := by
    have ruleNames := arrayForm_writeArray stringForm_writeString snapshot.ruleNames
    have states := arrayForm_writeArray State.form_toJson snapshot.states
    apply objectForm_writeObject
    apply List.Forall₂.cons ⟨rfl, ruleNames⟩
    apply List.Forall₂.cons ⟨rfl, snapshot.vocabulary.form_toJson⟩
    apply List.Forall₂.cons ⟨rfl, states⟩
    exact List.Forall₂.nil
  have padded := Form.padded allBlank_nil object allBlank_nil
  rw [List.nil_append, List.append_nil] at padded
  exact padded

theorem ofJson_form {snapshot : Snapshot} {text : Bytes} (form : snapshot.Form text)
    (source : Source) : ofJson source text = .ok snapshot := by
  cases form with
  | padded blankBefore object blankAfter =>
      have reads := snapshot.drafts.reads_objectForm object
      exact reads.parse_eq source blankBefore blankAfter

/-- The text that is written for a snapshot is one of its forms. Each of its forms, at hand or in a
stream, is read as the snapshot, and no form of it is refused. -/
theorem ofJson_reads_every_form (source : Source) (snapshot : Snapshot) :
    snapshot.Form (bytesOf snapshot.toJson) ∧
      ∀ text, snapshot.Form text → ofJson source text = .ok snapshot :=
  ⟨snapshot.form_toJson, fun _ form => ofJson_form form source⟩

/-! ## A form in disorder -/

section Disorder

def shortState : State where
  id := 7

def shortSnapshot : Snapshot where
  ruleNames := ["r"]
  states := [shortState]

/-- A value that could stand nowhere else: its number is out of range and its string is half a
surrogate pair. -/
def strayValue : String :=
  "[-1e999,\"\\ud800\" ,\x7b\x7d]"

def shortStateText : String :=
  "\x7b\"more\" : " ++ strayValue ++ ",\"id\":7\x7d"

/-- The states stand in front of the rule names, what has its default is left out, and the state
has a further key. -/
def shortText : String :=
  " \x7b\"states\":[" ++ shortStateText ++ "],\n\"rule_names\":[\"r\"]\x7d\t"

theorem valueForm_strayValue : ValueForm (bytesOf strayValue) := by
  have number : ValueForm ([Byte.minus] ++ ([0x31] ++ ([] ++ [0x65, 0x39, 0x39, 0x39]))) := by
    have exponent : ExponentForm (Byte.lowerE :: ([] ++ [0x39, 0x39, 0x39])) :=
      ExponentForm.digits (.inl rfl) (.inl rfl) (by decide)
    apply ValueForm.number
    exact NumberForm.parts (.inr rfl) (by decide) (by decide) FractionForm.absent exponent
  have half : ValueForm (Byte.quote :: (Byte.backslash :: Byte.lowerU ::
      ([0x64, 0x38, 0x30, 0x30] ++ []) ++ [Byte.quote])) := by
    have d : Byte.hexValue? 0x64 = some 13 := rfl
    have eight : Byte.hexValue? 0x38 = some 8 := rfl
    have zero : Byte.hexValue? 0x30 = some 0 := rfl
    apply ValueForm.string
    exact IsTextBody.unit (IsHexUnit.digits d eight zero zero) IsTextBody.nil
  have object : ValueForm [Byte.openBrace, Byte.closeBrace] :=
    ValueForm.empty .object allBlank_nil
  have closed : OtherValues .array [Byte.closeBracket] := OtherValues.closed .array allBlank_nil
  have third := OtherValues.value .array (show AllBlank [0x20] by decide) allBlank_nil
    KeyForm.array allBlank_nil object closed
  have second := OtherValues.value .array allBlank_nil allBlank_nil KeyForm.array allBlank_nil half
    third
  have values := ValueForm.filled .array allBlank_nil KeyForm.array allBlank_nil number second
  rw [strayValue, bytesOf_eq_flatMap]
  exact values

theorem form_shortState : shortState.Form (bytesOf shortStateText) := by
  have blank : AllBlank [0x20] := by decide
  have more : (Member.further "more").Form _ :=
    Member.Form.keyed (spells_escapedBytes "more") blank blank valueForm_strayValue
  have id : (Member.field ⟨"id", IsText (writeInteger 7), False⟩).Form _ :=
    Member.Form.keyed (spells_escapedBytes "id") allBlank_nil allBlank_nil rfl
  have closed : OtherItems Byte.closeBrace Member.Form [] _ := OtherItems.closed [] allBlank_nil
  have items := Items.items [] allBlank_nil more
    (OtherItems.item [] [] allBlank_nil allBlank_nil id closed)
  have fields : [Slot.mk "id" (IsText (writeInteger 7)) False].Subperm shortState.slots :=
    (List.singleton_sublist.mpr List.mem_cons_self).subperm
  have form : shortState.Form _ := ObjectForm.braced items fields
    (by simp [State.slots, fieldsOf, Member.slot?, shortState]) (by simp [State.slots])
  rw [strayValue, bytesOf_eq_flatMap "[-1e999,\"\\ud800\" ,\x7b\x7d]"] at form
  rw [shortStateText, strayValue, bytesOf_eq_flatMap]
  exact form

theorem form_shortText : shortSnapshot.Form (bytesOf shortText) := by
  have state : ArrayForm State.Form [shortState] _ := ArrayForm.bracketed
    (Items.items [] allBlank_nil form_shortState (OtherItems.closed [] allBlank_nil))
  have states : (Member.field ⟨"states", ArrayForm State.Form [shortState], False⟩).Form _ :=
    Member.Form.keyed (spells_escapedBytes "states") allBlank_nil allBlank_nil state
  have ruleName := StringForm.quoted (spells_escapedBytes "r")
  have ruleNames : (Member.field ⟨"rule_names", ArrayForm StringForm ["r"], False⟩).Form _ :=
    Member.Form.keyed (spells_escapedBytes "rule_names") allBlank_nil allBlank_nil
      (ArrayForm.bracketed (Items.items [] allBlank_nil ruleName
        (OtherItems.closed [] allBlank_nil)))
  have closed : OtherItems Byte.closeBrace Member.Form [] _ := OtherItems.closed [] allBlank_nil
  have items := Items.items [] allBlank_nil states
    (OtherItems.item [] [0x0A] allBlank_nil (by decide) ruleNames closed)
  have fields : [Slot.mk "states" (ArrayForm State.Form [shortState]) False,
      Slot.mk "rule_names" (ArrayForm StringForm ["r"]) False].Subperm shortSnapshot.slots :=
    ⟨_, List.Perm.swap .., .cons_cons _ (.cons _ (.cons_cons _ .slnil))⟩
  have object : ObjectForm shortSnapshot.slots _ := ObjectForm.braced items fields
    (by simp [slots, fieldsOf, Member.slot?, shortSnapshot]) (by simp)
  have form := Form.padded (show AllBlank [0x20] by decide) object (show AllBlank [0x09] by decide)
  rw [shortStateText, strayValue, bytesOf_eq_flatMap] at form
  rw [shortText, shortStateText, strayValue, bytesOf_eq_flatMap]
  exact form

/-- The text in disorder is read as the snapshot that it is a form of. -/
theorem ofJson_shortText :
    shortSnapshot.Form (bytesOf shortText) ∧
      ofJson .stream (bytesOf shortText) = .ok shortSnapshot :=
  ⟨form_shortText, (ofJson_reads_every_form .stream shortSnapshot).2 _ form_shortText⟩

end Disorder

end Snapshot

end TransitionNetwork
