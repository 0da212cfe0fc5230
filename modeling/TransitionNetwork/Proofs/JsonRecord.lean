import TransitionNetwork.Json.Record
import TransitionNetwork.Proofs.IgnoredValues
import TransitionNetwork.Proofs.JsonArray

/-!
# Records are read member by member

The text of an object is that of its members between braces, parted by commas, with blanks wherever
two of these meet. The reader takes a turn for each member, which changes the draft of the record;
at the end the draft is finished. A draft only depends on which fields were read, so their order
does not matter; a key that names no field leaves the draft as it is.
-/

set_option autoImplicit false

namespace TransitionNetwork.Json

namespace Record

open Reader

variable {δ α : Type}

/-- A key, behind its opening quote, and the value that belongs to it change one draft into
another. -/
def ReadsMember (record : Record δ α) (draft : δ) (text : Bytes) (next : δ) : Prop :=
  ∀ rest : Bytes, EndsValue rest →
    (Reader.text >>= fun key => record.setField key draft).run (text ++ rest) = .ok (next, rest)

/-- What stands in an object behind its opening brace or, unless the next member is the first,
behind a member. -/
inductive MembersText (record : Record δ α) : Bool → δ → Bytes → δ → Prop where
  | closed (blanks : Bytes) {first : Bool} {draft : δ} : AllBlank blanks →
      MembersText record first draft (blanks ++ [Byte.closeBrace]) draft
  | first (blanks : Bytes) {text rest : Bytes} {draft next last : δ} : AllBlank blanks →
      record.ReadsMember draft text next → MembersText record false next rest last →
      MembersText record true draft (blanks ++ Byte.quote :: (text ++ rest)) last
  | next (before blanks : Bytes) {text rest : Bytes} {draft next last : δ} : AllBlank before →
      AllBlank blanks → record.ReadsMember draft text next →
      MembersText record false next rest last →
      MembersText record false draft
        (before ++ Byte.comma :: (blanks ++ Byte.quote :: (text ++ rest))) last

variable {record : Record δ α}

theorem MembersText.endsValue {first : Bool} {draft last : δ} {text : Bytes}
    (members : MembersText record first draft text last) (rest : Bytes) :
    EndsValue (text ++ rest) := by
  cases members with
  | closed _ blank => exact endsValue_blanks_append blank rfl _ _
  | first _ blank => exact endsValue_blanks_append blank rfl _ _
  | next _ _ blank => exact endsValue_blanks_append blank rfl _ _

/-! ## One member -/

section OneMember

variable {key : String} {draft : δ} {body before after value : Bytes}

/-- A member whose key is the name of a field that has no value yet. -/
theorem readsMember_of_field {field : Field δ} {next : δ} (spells : Spells body key.toList)
    (found : record.fields.find? (·.name == key) = some field) (unset : field.isSet draft = false)
    (blankBefore : AllBlank before) (blankAfter : AllBlank after)
    (reads : Reads (field.set draft) value next) :
    record.ReadsMember draft (body ++ Byte.quote :: (before ++ Byte.colon :: (after ++ value)))
      next := by
  intro rest ends
  simp only [List.append_assoc, List.cons_append]
  rw [run_bind_of_run_eq_ok (run_text spells _)]
  simp only [setField, found, unset, Bool.false_eq_true, ↓reduceIte]
  rw [run_bind_of_run_eq_ok (run_colon blankBefore)]
  exact reads.run blankAfter ends

/-- A member whose key is the name of no field. -/
theorem readsMember_of_further (spells : Spells body key.toList)
    (unknown : record.fields.find? (·.name == key) = none) (blankBefore : AllBlank before)
    (blankAfter : AllBlank after) (form : ValueForm value) :
    record.ReadsMember draft (body ++ Byte.quote :: (before ++ Byte.colon :: (after ++ value)))
      draft := by
  intro rest ends
  simp only [List.append_assoc, List.cons_append]
  rw [run_bind_of_run_eq_ok (run_text spells _)]
  simp only [setField, unknown]
  rw [run_bind_of_run_eq_ok (run_colon blankBefore),
    run_bind_of_run_eq_ok ((reads_ignoredValue form).run blankAfter ends)]
  rfl

end OneMember

theorem run_nextKey_closed {blanks : Bytes} (first : Bool) (blank : AllBlank blanks)
    (rest : Bytes) :
    (nextKey first).run (blanks ++ Byte.closeBrace :: rest) = .ok (false, rest) :=
  run_token_bind blank rfl _

theorem run_nextKey_first {blanks : Bytes} (blank : AllBlank blanks) (rest : Bytes) :
    (nextKey true).run (blanks ++ Byte.quote :: rest) = .ok (true, rest) :=
  run_token_bind blank rfl _

theorem run_nextKey_comma {before blanks : Bytes} (blankBefore : AllBlank before)
    (blank : AllBlank blanks) (rest : Bytes) :
    (nextKey false).run (before ++ Byte.comma :: (blanks ++ Byte.quote :: rest)) =
      .ok (true, rest) := by
  have notClosing : ¬ (Byte.comma = Byte.closeBrace) := by decide
  rw [nextKey, run_token_bind blankBefore rfl]
  simp only [notClosing, Bool.false_eq_true, ↓reduceIte, run_skip_bind]
  exact run_token_bind blank rfl _

/-! ## All members -/

/-- A turn that finds a key leads to the draft that the member makes. -/
theorem run_memberTurn {first : Bool} {draft next : δ} {input text rest : Bytes}
    (more : (nextKey first).run input = .ok (true, text ++ rest))
    (reads : record.ReadsMember draft text next) (ends : EndsValue rest) :
    (record.memberTurn (first, draft)).run input = .ok (.again (false, next), rest) := by
  obtain ⟨key, middle, key_eq, set_eq⟩ := run_bind_eq_ok (reads rest ends)
  rw [memberTurn, run_bind_of_run_eq_ok more, if_pos rfl, run_bind_of_run_eq_ok key_eq,
    run_bind_of_run_eq_ok set_eq]
  rfl

/-- One turn takes one member, so induction on the members takes them all. -/
theorem run_members {first : Bool} {draft last : δ} {text : Bytes}
    (members : MembersText record first draft text last) (rest : Bytes) :
    (loop record.memberTurn record.shrinks_memberTurn (first, draft)).run (text ++ rest) =
      .ok (last, rest) := by
  induction members with
  | @closed blanks first draft blank =>
      rw [List.append_assoc]
      apply run_loop_done
      exact run_bind_of_run_eq_ok (run_nextKey_closed first blank rest) _
  | @first blanks text others draft next last blank reads members ih =>
      have more := run_nextKey_first blank (text ++ (others ++ rest))
      have turn := run_memberTurn more reads (members.endsValue rest)
      simp only [List.append_assoc, List.cons_append]
      exact (run_loop_again (@shrinks_memberTurn _ _ record) turn).trans ih
  | @next before blanks text others draft next last blankBefore blank reads members ih =>
      have more := run_nextKey_comma blankBefore blank (text ++ (others ++ rest))
      have turn := run_memberTurn more reads (members.endsValue rest)
      simp only [List.append_assoc, List.cons_append]
      exact (run_loop_again (@shrinks_memberTurn _ _ record) turn).trans ih

theorem reads_of_members {text : Bytes} {draft : δ} {value : α}
    (members : MembersText record true record.empty text draft)
    (finish : record.finish draft = .ok value) :
    Reads record.reader (Byte.openBrace :: text) value := by
  refine Reads.of_token rfl fun {rest} ends => ?_
  change record.ofObject.run (text ++ rest) = _
  rw [ofObject, run_bind_of_run_eq_ok (run_members members rest)]
  simp only [finish]
  rfl

/-! ## Drafts of a value -/

/-- The value of a field, once the field was read. -/
def keep {β : Type} (name : String) (seen : List String) (value : β) : Option β :=
  if name ∈ seen then some value else none

/-- A field that is filled from a slot: it has no value until its name was seen, and its value
makes the draft the one for which the name was seen as well. -/
structure FieldFits (draft : List String → δ) (field : Field δ) (slot : Slot) : Prop where
  name_eq : field.name = slot.name
  unset : ∀ seen, slot.name ∉ seen → field.isSet (draft seen) = false
  reads : ∀ seen text, slot.IsValue text →
    Reads (field.set (draft seen)) text (draft (slot.name :: seen))

theorem FieldFits.of {β : Type} {draft : List String → δ} {name : String} {reader : Reader β}
    {get : δ → Option β} {put : δ → β → δ} {value : β} {IsValue : Bytes → Prop} {omissible : Prop}
    (reads : ∀ text, IsValue text → Reads reader text value)
    (get_eq : ∀ seen, get (draft seen) = keep name seen value)
    (put_eq : ∀ seen, put (draft seen) value = draft (name :: seen)) :
    FieldFits draft (Field.of name reader get put) ⟨name, IsValue, omissible⟩ where
  name_eq := rfl
  unset seen unseen := by
    have absent : keep name seen value = none := if_neg unseen
    show (get (draft seen)).isSome = false
    rw [get_eq, absent]
    rfl
  reads seen text isValue := by
    rw [← put_eq]
    exact (reads text isValue).map (put (draft seen))

/-- The drafts of a value, one for each list of the names that were seen, and how the slots for
the fields of the record fill them. -/
structure Drafts (record : Record δ α) (slots : List Slot) (value : α) where
  draft : List String → δ
  empty : draft [] = record.empty
  fits : List.Forall₂ (FieldFits draft) record.fields slots
  nodup : (slots.map (·.name)).Nodup
  finish : ∀ seen, (∀ slot ∈ slots, slot.name ∈ seen ∨ slot.Omissible) →
    record.finish (draft seen) = .ok value

section Fits

variable {draft : List String → δ} {fields : List (Field δ)} {slots : List Slot}

theorem find?_of_mem (fits : List.Forall₂ (FieldFits draft) fields slots)
    (nodup : (slots.map (·.name)).Nodup) {slot : Slot} (isSlot : slot ∈ slots) :
    ∃ field, fields.find? (·.name == slot.name) = some field ∧ FieldFits draft field slot := by
  induction fits with
  | nil => cases isSlot
  | @cons field other fields slots first _ ih =>
      rw [List.map_cons, List.nodup_cons] at nodup
      rcases List.mem_cons.mp isSlot with rfl | inside
      · have matching : (field.name == slot.name) = true := by simp [first.name_eq]
        exact ⟨field, List.find?_cons_of_pos matching, first⟩
      · have apart : (field.name == slot.name) = false := by
          rw [beq_eq_false_iff_ne, first.name_eq]
          intro same
          exact nodup.1 (same ▸ List.mem_map_of_mem inside)
        simp only [List.find?_cons, apart]
        exact ih nodup.2 inside

theorem find?_of_notMem (fits : List.Forall₂ (FieldFits draft) fields slots) {key : String}
    (further : key ∉ slots.map (·.name)) : fields.find? (·.name == key) = none := by
  induction fits with
  | nil => rfl
  | @cons field slot fields slots first _ ih =>
      rw [List.map_cons, List.mem_cons, not_or] at further
      have apart : (field.name == key) = false := by
        rw [beq_eq_false_iff_ne, first.name_eq]
        exact Ne.symm further.1
      simp only [List.find?_cons, apart]
      exact ih further.2

end Fits

/-! ## Members in any order -/

/-- The names that were seen behind a member. -/
def seenBehind (seen : List String) : Member → List String
  | .field slot => slot.name :: seen
  | .further _ => seen

/-- The members that are still to come bring each field at most once, and none that was seen. -/
structure Unread (slots : List Slot) (seen : List String) (members : List Member) : Prop where
  field : ∀ slot ∈ fieldsOf members, slot ∈ slots ∧ slot.name ∉ seen
  nodup : ((fieldsOf members).map (·.name)).Nodup
  further : ∀ key, Member.further key ∈ members → key ∉ slots.map (·.name)

theorem Unread.behind {slots : List Slot} {seen : List String} {member : Member}
    {members : List Member} (unread : Unread slots seen (member :: members)) :
    Unread slots (seenBehind seen member) members where
  field slot isField := by
    cases member with
    | further key => exact unread.field slot isField
    | field first =>
        have known := unread.field slot (List.mem_cons_of_mem first isField)
        have nodup : (first.name :: (fieldsOf members).map (·.name)).Nodup := unread.nodup
        have apart : slot.name ≠ first.name := by
          intro same
          exact (List.nodup_cons.mp nodup).1 (same ▸ List.mem_map_of_mem isField)
        exact ⟨known.1, by simp [seenBehind, apart, known.2]⟩
  nodup := by
    cases member with
    | further key => exact unread.nodup
    | field first => exact unread.nodup.tail
  further key inside := unread.further key (List.mem_cons_of_mem member inside)

theorem mem_seenBehind {seen : List String} {member : Member} {members : List Member}
    {name : String} :
    name ∈ seenBehind seen member ∨ name ∈ (fieldsOf members).map (·.name) ↔
      name ∈ seen ∨ name ∈ (fieldsOf (member :: members)).map (·.name) := by
  cases member with
  | further key => exact Iff.rfl
  | field slot =>
      have first : fieldsOf (.field slot :: members) = slot :: fieldsOf members := rfl
      rw [first, List.map_cons, List.mem_cons, seenBehind, List.mem_cons, or_left_comm, or_assoc]

namespace Drafts

variable {slots : List Slot} {value : α} (drafts : Drafts record slots value)
include drafts

theorem readsMember {seen : List String} {member : Member} {members : List Member} {text : Bytes}
    (unread : Unread slots seen (member :: members)) (form : member.Form text) :
    ∃ behind, text = Byte.quote :: behind ∧
      record.ReadsMember (drafts.draft seen) behind (drafts.draft (seenBehind seen member)) := by
  cases form with
  | keyed spells blankBefore blankAfter isValue =>
      refine ⟨_, rfl, ?_⟩
      cases member with
      | field slot =>
          obtain ⟨isSlot, unseen⟩ := unread.field slot List.mem_cons_self
          obtain ⟨field, found, fits⟩ := find?_of_mem drafts.fits drafts.nodup isSlot
          exact readsMember_of_field spells found (fits.unset seen unseen) blankBefore blankAfter
            (fits.reads seen _ isValue)
      | further key =>
          have unknown := find?_of_notMem drafts.fits (unread.further key List.mem_cons_self)
          exact readsMember_of_further spells unknown blankBefore blankAfter isValue

/-- Members in any order lead to a draft for which the names of all their fields were seen. -/
theorem membersText_of_otherItems {members : List Member} {text : Bytes}
    (items : OtherItems Byte.closeBrace Member.Form members text) {seen : List String}
    (unread : Unread slots seen members) :
    ∃ last, MembersText record false (drafts.draft seen) text (drafts.draft last) ∧
      ∀ name, name ∈ seen ∨ name ∈ (fieldsOf members).map (·.name) → name ∈ last := by
  induction items generalizing seen with
  | closed blanks blank =>
      refine ⟨seen, MembersText.closed blanks blank, fun name inside => ?_⟩
      simpa [fieldsOf] using inside
  | @item before blanks text rest member members blankBefore blank form _ ih =>
      obtain ⟨behind, rfl, reads⟩ := drafts.readsMember unread form
      obtain ⟨last, others, seen_last⟩ := ih unread.behind
      exact ⟨last, MembersText.next before blanks blankBefore blank reads others,
        fun name inside => seen_last name (mem_seenBehind.mpr inside)⟩

theorem membersText_of_items {members : List Member} {text : Bytes}
    (items : Items Byte.closeBrace Member.Form members text) (unread : Unread slots [] members) :
    ∃ last, MembersText record true (drafts.draft []) text (drafts.draft last) ∧
      ∀ name ∈ (fieldsOf members).map (·.name), name ∈ last := by
  cases items with
  | empty blanks blank =>
      exact ⟨[], MembersText.closed blanks blank, fun name inside => inside⟩
  | items blanks blank form others =>
      obtain ⟨behind, rfl, reads⟩ := drafts.readsMember unread form
      obtain ⟨last, others, seen_last⟩ := drafts.membersText_of_otherItems others unread.behind
      exact ⟨last, MembersText.first blanks blank reads others,
        fun name inside => seen_last name (mem_seenBehind.mpr (.inr inside))⟩

theorem reads_objectForm {text : Bytes} (form : ObjectForm slots text) :
    Reads record.reader text value := by
  cases form with
  | @braced members text items fields present further =>
      have nodup : ((fieldsOf members).map (·.name)).Nodup := by
        obtain ⟨kept, isPerm, isSublist⟩ := fields
        have keptNodup := drafts.nodup.sublist (isSublist.map (·.name))
        exact (isPerm.map (·.name)).nodup_iff.mp keptNodup
      have unread : Unread slots [] members :=
        ⟨fun slot isField => ⟨fields.subset isField, by simp⟩, nodup, further⟩
      obtain ⟨last, text_eq, seen_last⟩ := drafts.membersText_of_items items unread
      rw [drafts.empty] at text_eq
      apply reads_of_members text_eq
      apply drafts.finish
      intro slot isSlot
      rcases present slot isSlot with isField | omissible
      · exact .inl (seen_last slot.name (List.mem_map_of_mem isField))
      · exact .inr omissible

end Drafts

end Record

/-! ## Written objects -/

theorem memberForm_of_written {name value : String} {slot : Slot} (same : name = slot.name)
    (isValue : slot.IsValue (bytesOf value)) :
    (Member.field slot).Form (bytesOf (writeString name ++ ":" ++ value)) := by
  have colon : bytesOf ":" = [Byte.colon] := bytesOf_eq_flatMap ":"
  have member : (Member.field slot).Form (Byte.quote :: (escapedBytes slot.name ++
      Byte.quote :: ([] ++ Byte.colon :: ([] ++ bytesOf value)))) :=
    Member.Form.keyed (spells_escapedBytes slot.name) allBlank_nil allBlank_nil isValue
  rw [bytesOf_append, bytesOf_append, bytesOf_writeString, colon, same]
  simpa using member

/-- A written object has its fields in their declared order and none of them is left out. -/
theorem objectForm_writeObject {fields : List (String × String)} {slots : List Slot}
    (written : List.Forall₂ (fun field slot =>
      field.1 = slot.name ∧ slot.IsValue (bytesOf field.2)) fields slots) :
    ObjectForm slots (bytesOf (writeObject fields)) := by
  have opening : bytesOf "\x7b" = [Byte.openBrace] := bytesOf_eq_flatMap "\x7b"
  have closing : bytesOf "\x7d" = [Byte.closeBrace] := bytesOf_eq_flatMap "\x7d"
  have members : List.Forall₂ (fun text member => Member.Form member (bytesOf text))
      (fields.map fun field => writeString field.1 ++ ":" ++ field.2)
      (slots.map Member.field) := by
    rw [List.forall₂_map_left_iff, List.forall₂_map_right_iff]
    exact written.imp fun field slot matching =>
      memberForm_of_written matching.1 matching.2
  have each : fieldsOf (slots.map Member.field) = slots := by
    rw [fieldsOf, List.filterMap_map]
    exact List.filterMap_some
  have items : Items Byte.closeBrace _ _ _ := items_of_written members
  rw [writeObject, bytesOf_append, bytesOf_append, opening, closing, List.append_assoc]
  refine ObjectForm.braced items ?_ ?_ ?_
  · rw [each]
  · rw [each]
    exact fun slot isSlot => .inl isSlot
  · intro key inside
    simp at inside

end TransitionNetwork.Json
