import Mathlib.Data.List.Perm.Subperm
import TransitionNetwork.Proofs.JsonReads

/-!
# The forms of JSON text

JSON text as its grammar has it, said without a word about how it is read. A string may be spelled
in many ways and blanks may stand between any two tokens. An object may have its fields in any
order, may leave out those that have their default, and may have further keys, whose values only
need to be well formed.
-/

set_option autoImplicit false

namespace TransitionNetwork.Json

/-! ## Strings -/

/-- A byte of a string that stands for itself. -/
structure IsPlain (byte : UInt8) : Prop where
  notQuote : byte ≠ Byte.quote
  notBackslash : byte ≠ Byte.backslash
  notControl : Byte.isControl byte = false

/-- The letters that may stand behind a backslash, and the characters they stand for there. -/
def letterEscapes : List (UInt8 × Char) := [
  (Byte.quote, '"'), (Byte.backslash, '\\'), (Byte.slash, '/'), (Byte.lowerB, '\x08'),
  (Byte.lowerF, '\x0c'), (Byte.lowerN, '\n'), (Byte.lowerR, '\r'), (Byte.lowerT, '\t')]

/-- Four hexadecimal digits and their value. -/
inductive IsHexUnit : Bytes → Nat → Prop where
  | digits {a b c d : UInt8} {first second third fourth : Nat} :
      Byte.hexValue? a = some first → Byte.hexValue? b = some second →
      Byte.hexValue? c = some third → Byte.hexValue? d = some fourth →
      IsHexUnit [a, b, c, d] (((first * 16 + second) * 16 + third) * 16 + fourth)

/-- What stands between the quotes of a string, and the characters that it spells. -/
inductive Spells : Bytes → List Char → Prop where
  | nil : Spells [] []
  | plain {c : Char} {rest : Bytes} {chars : List Char} :
      0x20 ≤ c.toNat → c ≠ '"' → c ≠ '\\' → Spells rest chars →
      Spells (String.utf8EncodeChar c ++ rest) (c :: chars)
  | letter {letter : UInt8} {c : Char} {rest : Bytes} {chars : List Char} :
      (letter, c) ∈ letterEscapes → Spells rest chars →
      Spells (Byte.backslash :: letter :: rest) (c :: chars)
  | unit {digits rest : Bytes} {unit : Nat} {chars : List Char} :
      IsHexUnit digits unit → unit < 0xD800 ∨ 0xDFFF < unit → Spells rest chars →
      Spells (Byte.backslash :: Byte.lowerU :: (digits ++ rest)) (Char.ofNat unit :: chars)
  | pair {highDigits lowDigits rest : Bytes} {high low : Nat} {chars : List Char} :
      IsHexUnit highDigits high → 0xD800 ≤ high → high ≤ 0xDBFF →
      IsHexUnit lowDigits low → 0xDC00 ≤ low → low ≤ 0xDFFF → Spells rest chars →
      Spells
        (Byte.backslash :: Byte.lowerU ::
          (highDigits ++ Byte.backslash :: Byte.lowerU :: (lowDigits ++ rest)))
        (Char.ofNat (0x10000 + (high - 0xD800) * 0x400 + (low - 0xDC00)) :: chars)

inductive StringForm (value : String) : Bytes → Prop where
  | quoted {body : Bytes} : Spells body value.toList →
      StringForm value (Byte.quote :: (body ++ [Byte.quote]))

/-- What stands between the quotes of a string that may stand for anything, also for halves of
surrogate pairs. -/
inductive IsTextBody : Bytes → Prop where
  | nil : IsTextBody []
  | plain {byte : UInt8} {rest : Bytes} : IsPlain byte → IsTextBody rest → IsTextBody (byte :: rest)
  | letter {letter : UInt8} {c : Char} {rest : Bytes} : (letter, c) ∈ letterEscapes →
      IsTextBody rest → IsTextBody (Byte.backslash :: letter :: rest)
  | unit {digits rest : Bytes} {unit : Nat} : IsHexUnit digits unit → IsTextBody rest →
      IsTextBody (Byte.backslash :: Byte.lowerU :: (digits ++ rest))

/-! ## Numbers -/

/-- At least one digit. -/
def AreDigits (bytes : Bytes) : Prop :=
  bytes ≠ [] ∧ ∀ byte ∈ bytes, Byte.isDigit byte = true

instance : DecidablePred AreDigits :=
  fun bytes =>
    have := List.decidableBAll (Byte.isDigit · = true) bytes
    inferInstanceAs (Decidable (bytes ≠ [] ∧ ∀ byte ∈ bytes, Byte.isDigit byte = true))

inductive FractionForm : Bytes → Prop where
  | absent : FractionForm []
  | digits {digits : Bytes} : AreDigits digits → FractionForm (Byte.point :: digits)

inductive ExponentForm : Bytes → Prop where
  | absent : ExponentForm []
  | digits {letter : UInt8} {sign digits : Bytes} : letter = Byte.lowerE ∨ letter = Byte.upperE →
      sign = [] ∨ sign = [Byte.plus] ∨ sign = [Byte.minus] → AreDigits digits →
      ExponentForm (letter :: (sign ++ digits))

/-- A number of any size: its whole part is zero or does not start with that digit. -/
inductive NumberForm : Bytes → Prop where
  | parts {sign whole fraction exponent : Bytes} : sign = [] ∨ sign = [Byte.minus] →
      AreDigits whole → (whole.head? = some Byte.zero → whole = [Byte.zero]) →
      FractionForm fraction → ExponentForm exponent →
      NumberForm (sign ++ (whole ++ (fraction ++ exponent)))

/-! ## Values -/

def Frame.opening : Frame → UInt8
  | array => Byte.openBracket
  | object => Byte.openBrace

/-- What stands in front of a value within brackets: nothing in an array, a key in an object. -/
inductive KeyForm : Frame → Bytes → Prop where
  | array : KeyForm .array []
  | object {body blanks : Bytes} : IsTextBody body → AllBlank blanks →
      KeyForm .object (Byte.quote :: (body ++ Byte.quote :: (blanks ++ [Byte.colon])))

mutual

/-- Well-formed values, nested to any depth. -/
inductive ValueForm : Bytes → Prop where
  | nullLiteral : ValueForm [Byte.lowerN, 0x75, 0x6C, 0x6C]
  | trueLiteral : ValueForm [Byte.lowerT, 0x72, 0x75, 0x65]
  | falseLiteral : ValueForm [Byte.lowerF, 0x61, 0x6C, 0x73, 0x65]
  | number {text : Bytes} : NumberForm text → ValueForm text
  | string {body : Bytes} : IsTextBody body → ValueForm (Byte.quote :: (body ++ [Byte.quote]))
  | empty (frame : Frame) {blanks : Bytes} : AllBlank blanks →
      ValueForm (frame.opening :: (blanks ++ [frame.closing]))
  | filled (frame : Frame) {before blanks key value rest : Bytes} : AllBlank before →
      KeyForm frame key → AllBlank blanks → ValueForm value → OtherValues frame rest →
      ValueForm (frame.opening :: (before ++ (key ++ (blanks ++ (value ++ rest)))))

/-- What stands between brackets behind one of the values there. -/
inductive OtherValues : Frame → Bytes → Prop where
  | closed (frame : Frame) {blanks : Bytes} : AllBlank blanks →
      OtherValues frame (blanks ++ [frame.closing])
  | value (frame : Frame) {before between blanks key value rest : Bytes} : AllBlank before →
      AllBlank between → KeyForm frame key → AllBlank blanks → ValueForm value →
      OtherValues frame rest →
      OtherValues frame
        (before ++ Byte.comma :: (between ++ (key ++ (blanks ++ (value ++ rest)))))

end

theorem OtherValues.endsValue {frame : Frame} {text : Bytes} (values : OtherValues frame text)
    (rest : Bytes) : EndsValue (text ++ rest) := by
  cases values with
  | closed _ blank =>
      have closes : Byte.continuesNumber frame.closing = false := by cases frame <;> rfl
      exact endsValue_blanks_append blank closes _ _
  | value _ blank => exact endsValue_blanks_append blank rfl _ _

/-! ## Lists of items -/

section Items

variable {α : Type} {closing : UInt8} {item : α → Bytes → Prop}

/-- What stands between brackets behind one of the items there. -/
inductive OtherItems (closing : UInt8) (item : α → Bytes → Prop) : List α → Bytes → Prop where
  | closed (blanks : Bytes) : AllBlank blanks → OtherItems closing item [] (blanks ++ [closing])
  | item (before blanks : Bytes) {text rest : Bytes} {value : α} {others : List α} :
      AllBlank before → AllBlank blanks → item value text → OtherItems closing item others rest →
      OtherItems closing item (value :: others)
        (before ++ Byte.comma :: (blanks ++ (text ++ rest)))

/-- What stands between brackets behind the opening one: items that are parted by commas. -/
inductive Items (closing : UInt8) (item : α → Bytes → Prop) : List α → Bytes → Prop where
  | empty (blanks : Bytes) : AllBlank blanks → Items closing item [] (blanks ++ [closing])
  | items (blanks : Bytes) {text rest : Bytes} {value : α} {others : List α} :
      AllBlank blanks → item value text → OtherItems closing item others rest →
      Items closing item (value :: others) (blanks ++ (text ++ rest))

theorem OtherItems.mono {other : α → Bytes → Prop} {values : List α} {text : Bytes}
    (items : OtherItems closing item values text)
    (implies : ∀ value text, item value text → other value text) :
    OtherItems closing other values text := by
  induction items with
  | closed blanks blank => exact closed blanks blank
  | item before blanks blankBefore blank isItem _ ih =>
      exact OtherItems.item before blanks blankBefore blank (implies _ _ isItem) ih

theorem Items.mono {other : α → Bytes → Prop} {values : List α} {text : Bytes}
    (items : Items closing item values text)
    (implies : ∀ value text, item value text → other value text) :
    Items closing other values text := by
  cases items with
  | empty blanks blank => exact empty blanks blank
  | items blanks blank isItem others =>
      exact Items.items blanks blank (implies _ _ isItem) (others.mono implies)

theorem OtherItems.endsValue {values : List α} {text : Bytes}
    (items : OtherItems closing item values text)
    (closes : Byte.continuesNumber closing = false) (rest : Bytes) : EndsValue (text ++ rest) := by
  cases items with
  | closed _ blank => exact endsValue_blanks_append blank closes _ _
  | item _ _ blank => exact endsValue_blanks_append blank rfl _ _

/-- An array whose elements have forms of their own. -/
inductive ArrayForm (element : α → Bytes → Prop) (values : List α) : Bytes → Prop where
  | bracketed {text : Bytes} : Items Byte.closeBracket element values text →
      ArrayForm element values (Byte.openBracket :: text)

end Items

/-! ## Objects -/

/-- A field of an object: its name, the forms of its value, and whether it may be left out. -/
structure Slot where
  name : String
  IsValue : Bytes → Prop
  Omissible : Prop

/-- A member of an object: a field, or a key that is none. -/
inductive Member where
  | field (slot : Slot)
  | further (key : String)

namespace Member

def key : Member → String
  | field slot => slot.name
  | further key => key

def IsValue : Member → Bytes → Prop
  | field slot => slot.IsValue
  | further _ => ValueForm

def slot? : Member → Option Slot
  | field slot => some slot
  | further _ => none

inductive Form (member : Member) : Bytes → Prop where
  | keyed {body before after value : Bytes} : Spells body member.key.toList → AllBlank before →
      AllBlank after → member.IsValue value →
      Form member (Byte.quote :: (body ++ Byte.quote :: (before ++ Byte.colon :: (after ++ value))))

end Member

def fieldsOf (members : List Member) : List Slot :=
  members.filterMap Member.slot?

/-- An object of fields: each of them at most once and in any order, those with a default perhaps
left out, and among them any further keys. -/
inductive ObjectForm (slots : List Slot) : Bytes → Prop where
  | braced {members : List Member} {text : Bytes} :
      Items Byte.closeBrace Member.Form members text →
      (fieldsOf members).Subperm slots →
      (∀ slot ∈ slots, slot ∈ fieldsOf members ∨ slot.Omissible) →
      (∀ key, Member.further key ∈ members → key ∉ slots.map (·.name)) →
      ObjectForm slots (Byte.openBrace :: text)

end TransitionNetwork.Json
