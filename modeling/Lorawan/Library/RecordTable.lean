import Mathlib.Data.List.Basic
import Mathlib.Data.List.Find
import Mathlib.Data.List.Nodup
import Mathlib.Tactic.Common

/-! # Tables of records

A table is a list of records, each identified by a key such as the address of
the block that holds it. Writing a record back and dropping a record are the
two mutations; the lemmas say what they do to membership, to the keys, and to
first-match searches.
-/

namespace Lorawan.RecordTable

variable {Record : Type u} {Key : Type v} [DecidableEq Key]

/-- Write `record` over the record that has its key. -/
def store (key : Record → Key) (record : Record) (records : List Record) : List Record :=
  records.map fun other => if key other = key record then record else other

/-- Drop the record that has the given key. -/
def discard (key : Record → Key) (dropped : Key) (records : List Record) : List Record :=
  records.filter fun other => key other ≠ dropped

variable {key : Record → Key}

@[simp] theorem map_key_store (record : Record) (records : List Record) :
    (store key record records).map key = records.map key := by
  rw [store, List.map_map]
  apply List.map_congr_left
  intro other _
  by_cases same : key other = key record <;> simp [same]

theorem mem_store {record other : Record} {records : List Record}
    (present : key record ∈ records.map key) :
    other ∈ store key record records ↔
      other = record ∨ other ∈ records ∧ key other ≠ key record := by
  rcases List.mem_map.mp present with ⟨old, oldMem, oldKey⟩
  constructor
  · intro member
    rcases List.mem_map.mp member with ⟨source, sourceMem, equal⟩
    by_cases same : key source = key record
    · exact .inl (by simpa [same] using equal.symm)
    · have unchanged : source = other := by simpa [same] using equal
      subst unchanged
      exact .inr ⟨sourceMem, same⟩
  · intro written
    rcases written with rfl | ⟨member, different⟩
    · exact List.mem_map.mpr ⟨old, oldMem, by simp [oldKey]⟩
    · exact List.mem_map.mpr ⟨other, member, by simp [different]⟩

theorem mem_discard {dropped : Key} {other : Record} {records : List Record} :
    other ∈ discard key dropped records ↔ other ∈ records ∧ key other ≠ dropped := by
  simp [discard]

theorem nodup_discard {dropped : Key} {records : List Record}
    (nodup : (records.map key).Nodup) : ((discard key dropped records).map key).Nodup :=
  nodup.sublist (List.filter_sublist.map key)

omit [DecidableEq Key] in
theorem eq_of_key_eq {left right : Record} {records : List Record}
    (nodup : (records.map key).Nodup) (leftMem : left ∈ records) (rightMem : right ∈ records)
    (sameKey : key left = key right) : left = right :=
  List.inj_on_of_nodup_map nodup leftMem rightMem sameKey

theorem store_self {record : Record} {records : List Record}
    (nodup : (records.map key).Nodup) (member : record ∈ records) :
    store key record records = records := by
  conv_rhs => rw [← List.map_id records]
  apply List.map_congr_left
  intro other otherMem
  by_cases same : key other = key record
  · simp [eq_of_key_eq nodup otherMem member same]
  · simp [same]

/-- Writing back a record leaves alone every field that it agrees on. -/
theorem map_store {Field : Type w} {field : Record → Field} {old new : Record}
    {records : List Record} (nodup : (records.map key).Nodup) (oldMem : old ∈ records)
    (sameKey : key new = key old) (sameField : field new = field old) :
    (store key new records).map field = records.map field := by
  rw [store, List.map_map]
  apply List.map_congr_left
  intro other otherMem
  by_cases same : key other = key new
  · simp only [Function.comp_apply, if_pos same]
    rw [sameField, eq_of_key_eq nodup otherMem oldMem (same.trans sameKey)]
  · simp [same]

@[simp] theorem store_store {first second : Record} (sameKey : key first = key second)
    (records : List Record) :
    store key second (store key first records) = store key second records := by
  simp only [store, List.map_map]
  apply List.map_congr_left
  intro other _
  by_cases same : key other = key second <;> simp [same, sameKey]

/-- A projection that keeps the key carries a write over. -/
theorem map_store_comm {Other : Type w} {otherKey : Other → Key} (project : Record → Other)
    (sameKey : ∀ record, otherKey (project record) = key record) (record : Record)
    (records : List Record) :
    (store key record records).map project =
      store otherKey (project record) (records.map project) := by
  simp only [store, List.map_map]
  apply List.map_congr_left
  intro other _
  by_cases same : key other = key record <;> simp [same, sameKey]

theorem map_discard_comm {Other : Type w} {otherKey : Other → Key} (project : Record → Other)
    (sameKey : ∀ record, otherKey (project record) = key record) (dropped : Key)
    (records : List Record) :
    (discard key dropped records).map project =
      discard otherKey dropped (records.map project) := by
  simp only [discard, List.filter_map]
  congr 1
  apply List.filter_congr
  intro other _
  simp [sameKey]

/-- A record sits at one place in its table; writing it back and dropping it
touch that place only. -/
theorem exists_split {record : Record} {records : List Record}
    (nodup : (records.map key).Nodup) (member : record ∈ records) :
    ∃ before after, records = before ++ record :: after ∧
      (∀ written, key written = key record →
        store key written records = before ++ written :: after) ∧
      discard key (key record) records = before ++ after := by
  rcases List.append_of_mem member with ⟨before, after, rfl⟩
  have distinct : (before.map key ++ key record :: after.map key).Nodup := by
    simpa using nodup
  have fresh := (List.nodup_middle.mp distinct)
  rw [← List.map_append, List.nodup_cons] at fresh
  have apart : ∀ other ∈ before ++ after, key other ≠ key record := fun other otherMem equal =>
    fresh.1 (List.mem_map.mpr ⟨other, otherMem, equal⟩)
  have untouched : ∀ (written : Record) (part : List Record), key written = key record →
      (∀ other ∈ part, key other ≠ key record) → store key written part = part := by
    intro written part sameKey separate
    conv_rhs => rw [← List.map_id part]
    apply List.map_congr_left
    intro other otherMem
    simp [sameKey, separate other otherMem]
  refine ⟨before, after, rfl, ?_, ?_⟩
  · intro written sameKey
    have front := untouched written before sameKey fun other otherMem =>
      apart other (List.mem_append_left _ otherMem)
    have back := untouched written after sameKey fun other otherMem =>
      apart other (List.mem_append_right _ otherMem)
    rw [store, List.map_append, List.map_cons, if_pos sameKey.symm]
    exact congrArg₂ (fun front back => front ++ written :: back) front back
  · have kept : (before ++ after).filter (fun other => key other ≠ key record) =
        before ++ after := by
      apply List.filter_eq_self.mpr
      intro other otherMem
      simpa using apart other otherMem
    simpa [discard, List.filter_append] using kept

/-! ## First-match searches -/

/-- A search after a write searches the old table for what the write would make of a
record. -/
theorem find?_store (record : Record) (records : List Record) (test : Record → Bool) :
    (store key record records).find? test =
      (records.find? fun other => test (if key other = key record then record else other)).map
        fun other => if key other = key record then record else other :=
  List.find?_map

/-- A test that does not tell the records apart ends at the same place. -/
theorem find?_store_of_eq {old new : Record} {records : List Record} {test : Record → Bool}
    (nodup : (records.map key).Nodup) (oldMem : old ∈ records) (sameKey : key new = key old)
    (same : test new = test old) :
    (store key new records).find? test =
      (records.find? test).map fun other => if key other = key new then new else other := by
  rw [find?_store]
  congr 1
  apply List.find?_congr
  intro other member
  by_cases written : key other = key new
  · rw [if_pos written, same, eq_of_key_eq nodup member oldMem (written.trans sameKey)]
  · rw [if_neg written]

theorem find?_eq_some_of_unique {records : List Record} {test : Record → Bool}
    {wanted : Record} (member : wanted ∈ records) (passes : test wanted = true)
    (unique : ∀ other ∈ records, test other = true → other = wanted) :
    records.find? test = some wanted := by
  cases search : records.find? test with
  | none => simp [List.find?_eq_none.mp search wanted member] at passes
  | some found =>
      have same := unique found (List.mem_of_find?_eq_some search) (List.find?_some search)
      rw [same]

end Lorawan.RecordTable
