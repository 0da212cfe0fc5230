import Mathlib.Data.List.Induction
import Mathlib.Data.List.Nodup
import TransitionNetwork.Proofs.WritingInTurn
import TransitionNetwork.Sink.Memory

/-!
# Documents in memory

A sink in memory is a map that every document is inserted into. The first writing of a name decides
where the name stands and the last one what it holds, however the documents come in batches.
-/

set_option autoImplicit false

namespace TransitionNetwork

/-! ## Many entries of a map -/

namespace OrderedMap

variable {α β : Type} [DecidableEq α] {key : α} {value : β} {entries : List (α × β)}

theorem keys_insert (map : OrderedMap α β) (key : α) (value : β) :
    (map.insert key value).keys =
      if key ∈ map.keys then map.keys else map.keys ++ [key] := by
  obtain ⟨entries⟩ := map
  change (insertEntry key value entries).map Prod.fst =
    if key ∈ entries.map Prod.fst then entries.map Prod.fst else entries.map Prod.fst ++ [key]
  induction entries with
  | nil => rfl
  | cons entry entries ih =>
      obtain ⟨first, old⟩ := entry
      rw [insertEntry]
      by_cases found : first = key
      · simp [found]
      · have other : key ≠ first := fun same => found same.symm
        rw [if_neg found, List.map_cons, ih]
        simp only [List.map_cons, List.mem_cons, other, false_or]
        split
        · rfl
        · rfl

theorem keys_nodup_insert {map : OrderedMap α β} (distinct : map.keys.Nodup) (key : α)
    (value : β) : (map.insert key value).keys.Nodup := by
  rw [keys_insert]
  split
  · exact distinct
  · rename_i fresh
    rw [List.nodup_append]
    refine ⟨distinct, List.nodup_singleton key, ?_⟩
    intro old present new last same
    rw [List.mem_singleton.mp last] at same
    exact fresh (same ▸ present)

def insertAll (map : OrderedMap α β) (entries : List (α × β)) : OrderedMap α β :=
  entries.foldl (fun map entry => map.insert entry.1 entry.2) map

theorem insertAll_cons (map : OrderedMap α β) (entry : α × β) (entries : List (α × β)) :
    map.insertAll (entry :: entries) = (map.insert entry.1 entry.2).insertAll entries := rfl

theorem insertAll_append (map : OrderedMap α β) (first second : List (α × β)) :
    map.insertAll (first ++ second) = (map.insertAll first).insertAll second :=
  List.foldl_append

theorem keys_nodup_insertAll {map : OrderedMap α β} (distinct : map.keys.Nodup)
    (entries : List (α × β)) : (map.insertAll entries).keys.Nodup := by
  induction entries generalizing map with
  | nil => exact distinct
  | cons entry entries ih => exact ih (keys_nodup_insert distinct entry.1 entry.2)

/-- The keys stand in the order in which they were first inserted. -/
theorem keys_insertAll (entries : List (α × β)) :
    (insertAll {} entries).keys = (entries.map Prod.fst).eraseDups := by
  induction entries using List.reverseRecOn with
  | nil => rfl
  | append_singleton entries entry ih =>
      have last (map : OrderedMap α β) : map.insertAll [entry] = map.insert entry.1 entry.2 := rfl
      rw [insertAll_append, last, keys_insert, ih, List.map_append, List.eraseDups_append]
      by_cases known : entry.1 ∈ entries.map Prod.fst
      · simp [known, List.removeAll]
      · simp [known, List.removeAll, List.eraseDups_cons]

/-- The value of a key is the one that it was last inserted with. -/
theorem get?_insertAll (map : OrderedMap α β) (entries : List (α × β)) (key : α) :
    (map.insertAll entries).get? key =
      ((entries.findRev? (·.1 = key)).map Prod.snd).or (map.get? key) := by
  induction entries generalizing map with
  | nil => rfl
  | cons entry entries ih =>
      rw [insertAll_cons, ih, get?_insert, List.findRev?]
      cases entries.findRev? (·.1 = key) with
      | some later => rfl
      | none =>
        by_cases same : key = entry.1
        · simp [same]
        · have other : entry.1 ≠ key := fun equal => same equal.symm
          simp [same, other]

theorem get?_insertAll_of_notMem (map : OrderedMap α β) (absent : key ∉ entries.map Prod.fst) :
    (map.insertAll entries).get? key = map.get? key := by
  have unfound : entries.findRev? (·.1 = key) = none := by
    rw [List.findRev?_eq_find?_reverse, List.find?_eq_none]
    intro entry member same
    exact absent (List.mem_map.mpr
      ⟨entry, List.mem_reverse.mp member, of_decide_eq_true same⟩)
  rw [get?_insertAll, unfound, Option.map_none, Option.none_or]

/-- A key that is inserted once has the value that it is inserted with. -/
theorem get?_insertAll_of_mem (map : OrderedMap α β) (distinct : (entries.map Prod.fst).Nodup)
    (member : (key, value) ∈ entries) : (map.insertAll entries).get? key = some value := by
  induction entries generalizing map with
  | nil => cases member
  | cons entry entries ih =>
      obtain ⟨fresh, distinct⟩ := List.nodup_cons.mp distinct
      rw [insertAll_cons]
      rcases List.mem_cons.mp member with rfl | later
      · rw [get?_insertAll_of_notMem _ fresh, get?_insert, if_pos rfl]
      · exact ih _ distinct later

theorem insertAll_of_get? {map : OrderedMap α β}
    (present : ∀ entry ∈ entries, map.get? entry.1 = some entry.2) :
    map.insertAll entries = map := by
  induction entries with
  | nil => rfl
  | cons entry entries ih =>
      obtain ⟨first, others⟩ := List.forall_mem_cons.mp present
      rw [insertAll_cons, insert_of_get? first, ih others]

end OrderedMap

/-! ## Reports of success -/

namespace Report

variable {ε : Type} (documents : List Document)

/-- Every document was written. -/
def complete : Report ε where
  attempts := documents.map fun document => { name := document.name }

theorem written_complete : (complete (ε := ε) documents).written = documents.map (·.name) := by
  simp [complete, written, List.filterMap_map]

theorem failures_complete : (complete (ε := ε) documents).failures = [] := by
  simp [complete, failures, List.filterMap_map]

end Report

/-! ## Batches of documents -/

namespace Sink

variable {ε : Type}

theorem writesInTurn_memory (store : Store) (documents : List Document) :
    (memory : Sink (StateM Store) ε).WritesInTurn store documents
      (Report.complete documents).attempts
      (store.insertAll (documents.map fun document => (document.name, document.content))) := by
  induction documents generalizing store with
  | nil => exact .nil store
  | cons document documents ih => exact .written rfl (ih (store.put document))

theorem run_writeAll_memory (store : Store) (documents : List Document) :
    ((memory : Sink (StateM Store) ε).writeAll documents).run store =
      (Report.complete documents,
        store.insertAll (documents.map fun document => (document.name, document.content))) :=
  run_writeAll_eq_iff.mpr (writesInTurn_memory store documents)

/-- Writes several lists of documents, each with a report of its own. -/
def writeBatches {m : Type → Type} [Monad m] (sink : Sink m ε) (batches : List (List Document)) :
    m (List (Report ε)) :=
  batches.mapM sink.writeAll

theorem run_writeBatches_memory (store : Store) (batches : List (List Document)) :
    ((memory : Sink (StateM Store) ε).writeBatches batches).run store =
      (batches.map Report.complete,
        store.insertAll (batches.flatten.map fun document => (document.name, document.content))) := by
  induction batches generalizing store with
  | nil => rfl
  | cons batch batches ih =>
      have first := run_writeAll_memory (ε := ε) store batch
      have split : ((memory : Sink (StateM Store) ε).writeBatches (batch :: batches)).run store =
          let head := ((memory : Sink (StateM Store) ε).writeAll batch).run store
          let tail := ((memory : Sink (StateM Store) ε).writeBatches batches).run head.2
          (head.1 :: tail.1, tail.2) := by
        rw [writeBatches, List.mapM_cons]
        rfl
      rw [split, first]
      dsimp only
      rw [ih, List.flatten_cons, List.map_append, OrderedMap.insertAll_append, List.map_cons]

/-- A store that starts empty has each name once, in the order of their first writings, and under
each name the content of the last document of that name. To write documents whose contents it holds
changes nothing, in whatever order they come. -/
theorem memory_keeps_batches (batches : List (List Document)) :
    ∃ store, ((memory : Sink (StateM Store) ε).writeBatches batches).run {} =
        (batches.map Report.complete, store) ∧
      store.keys.Nodup ∧
      store.keys = (batches.flatten.map (·.name)).eraseDups ∧
      (∀ name, store.get? name =
        (batches.flatten.findRev? (·.name = name)).map (·.content)) ∧
      ∀ documents : List Document,
        (∀ document ∈ documents, store.get? document.name = some document.content) →
        ((memory : Sink (StateM Store) ε).writeAll documents).run store =
          (Report.complete documents, store) := by
  refine ⟨_, run_writeBatches_memory {} batches, ?_, ?_, ?_, ?_⟩
  · have empty : (OrderedMap.keys ({} : Store)).Nodup := List.nodup_nil
    exact OrderedMap.keys_nodup_insertAll empty _
  · rw [OrderedMap.keys_insertAll, List.map_map]
    rfl
  · intro name
    have absent : OrderedMap.get? ({} : Store) name = none := rfl
    rw [OrderedMap.get?_insertAll, absent, Option.or_none, List.findRev?_eq_find?_reverse,
      List.findRev?_eq_find?_reverse, ← List.map_reverse, List.find?_map, Option.map_map]
    rfl
  · intro documents held
    rw [run_writeAll_memory, OrderedMap.insertAll_of_get?]
    intro entry member
    obtain ⟨document, inside, rfl⟩ := List.mem_map.mp member
    exact held document inside

/-- Two names, the first of them written again in a second batch. -/
def repeatedBatches : List (List Document) :=
  [[⟨"z.dot", .full, "first"⟩, ⟨"a.dot", .full, "only"⟩], [⟨"z.dot", .full, "last"⟩]]

theorem memory_keeps_repeatedBatches :
    ∃ store, ((memory : Sink (StateM Store) Empty).writeBatches repeatedBatches).run {} =
        (repeatedBatches.map Report.complete, store) ∧
      store.keys = ["z.dot", "a.dot"] ∧ store.get? "z.dot" = some "last" ∧
      let documents : List Document := [⟨"a.dot", .full, "only"⟩, ⟨"z.dot", .full, "last"⟩]
      (∀ document ∈ documents, store.get? document.name = some document.content) ∧
      ((memory : Sink (StateM Store) Empty).writeAll documents).run store =
        (Report.complete documents, store) := by
  obtain ⟨store, run, _, names, contents, again⟩ := memory_keeps_batches (ε := Empty) repeatedBatches
  have first : store.get? "z.dot" = some "last" := (contents _).trans (by decide)
  have second : store.get? "a.dot" = some "only" := (contents _).trans (by decide)
  have held : ∀ document ∈ [(⟨"a.dot", .full, "only"⟩ : Document), ⟨"z.dot", .full, "last"⟩],
      store.get? document.name = some document.content := by
    simp [first, second]
  exact ⟨store, run, names.trans (by decide), first, held, again _ held⟩

end Sink

end TransitionNetwork
