import Lorawan.Library.RecordTable
import Mathlib.Data.List.Perm.Basic

/-! # Mailboxes

A system of first-in first-out boxes that are opened, filled, emptied from the
front, and closed when empty. Its traffic is the sequence of puts and takes; the
results say what the contents are in terms of the traffic alone. -/

namespace Lorawan.Mailbox

open scoped List

/-- The open boxes with their contents, oldest item first. -/
abbrev Boxes (Box : Type u) (Item : Type v) := List (Box × List Item)

inductive Traffic (Box : Type u) (Item : Type v)
  | put (box : Box) (item : Item)
  | take (box : Box) (item : Item)

variable {Box : Type u} {Item : Type v} [DecidableEq Box]

/-- One step, labelled with its traffic if it has any. -/
inductive Step : Boxes Box Item → Option (Traffic Box Item) → Boxes Box Item → Prop
  | quiet (boxes : Boxes Box Item) : Step boxes none boxes
  | opens {boxes : Boxes Box Item} (box : Box) (fresh : box ∉ boxes.map Prod.fst) :
      Step boxes none ((box, []) :: boxes)
  | closes {boxes : Boxes Box Item} (box : Box) (empty : (box, []) ∈ boxes) :
      Step boxes none (RecordTable.discard Prod.fst box boxes)
  | put {boxes : Boxes Box Item} (box : Box) (items : List Item) (item : Item)
      (member : (box, items) ∈ boxes) :
      Step boxes (some (.put box item)) (RecordTable.store Prod.fst (box, items ++ [item]) boxes)
  | take {boxes : Boxes Box Item} (box : Box) (items : List Item) (item : Item)
      (member : (box, item :: items) ∈ boxes) :
      Step boxes (some (.take box item)) (RecordTable.store Prod.fst (box, items) boxes)

/-! ## Relabelling the items -/

section Relabel

variable {Other : Type w} (relabel : Item → Other)

def Traffic.map : Traffic Box Item → Traffic Box Other
  | .put box item => .put box (relabel item)
  | .take box item => .take box (relabel item)

def mapEntry (entry : Box × List Item) : Box × List Other :=
  (entry.1, entry.2.map relabel)

omit [DecidableEq Box] in
theorem fst_mapEntry (entry : Box × List Item) : (mapEntry relabel entry).fst = entry.fst :=
  rfl

def Boxes.mapItems (boxes : Boxes Box Item) : Boxes Box Other :=
  boxes.map (mapEntry relabel)

omit [DecidableEq Box] in
theorem Boxes.mem_mapItems {box : Box} {items : List Item} {boxes : Boxes Box Item}
    (member : (box, items) ∈ boxes) : (box, items.map relabel) ∈ Boxes.mapItems relabel boxes :=
  List.mem_map.mpr ⟨(box, items), member, rfl⟩

theorem Boxes.mapItems_store (box : Box) (items : List Item) (boxes : Boxes Box Item) :
    Boxes.mapItems relabel (RecordTable.store Prod.fst (box, items) boxes) =
      RecordTable.store Prod.fst (box, items.map relabel) (Boxes.mapItems relabel boxes) :=
  RecordTable.map_store_comm (mapEntry relabel) (fst_mapEntry relabel) (box, items) boxes

theorem Step.mapItems {boxes next : Boxes Box Item} {label : Option (Traffic Box Item)}
    (step : Step boxes label next) :
    Step (Boxes.mapItems relabel boxes) (label.map (Traffic.map relabel))
      (Boxes.mapItems relabel next) := by
  cases step with
  | quiet => exact .quiet _
  | opens box fresh =>
      apply Step.opens
      simpa [Boxes.mapItems, mapEntry] using fresh
  | closes box empty =>
      have dropped : Boxes.mapItems relabel (RecordTable.discard Prod.fst box boxes) =
          RecordTable.discard Prod.fst box (Boxes.mapItems relabel boxes) :=
        RecordTable.map_discard_comm (mapEntry relabel) (fst_mapEntry relabel) box boxes
      rw [dropped]
      exact .closes box (Boxes.mem_mapItems relabel empty)
  | put box items item member =>
      rw [Boxes.mapItems_store, List.map_append]
      exact .put box (items.map relabel) (relabel item) (Boxes.mem_mapItems relabel member)
  | take box items item member =>
      rw [Boxes.mapItems_store]
      exact .take box (items.map relabel) (relabel item) (Boxes.mem_mapItems relabel member)

end Relabel

/-! ## What the traffic says -/

/-- The items put into a box, in order. -/
def putInto (box : Box) (traffic : List (Option (Traffic Box Item))) : List Item :=
  traffic.filterMap fun
    | some (.put other item) => if other = box then some item else none
    | _ => none

/-- The items taken from a box, in order. -/
def takenFrom (box : Box) (traffic : List (Option (Traffic Box Item))) : List Item :=
  traffic.filterMap fun
    | some (.take other item) => if other = box then some item else none
    | _ => none

/-- All items put, into whichever box. -/
def allPut (traffic : List (Option (Traffic Box Item))) : List Item :=
  traffic.filterMap fun
    | some (.put _ item) => some item
    | _ => none

/-- All items taken, from whichever box. -/
def allTaken (traffic : List (Option (Traffic Box Item))) : List Item :=
  traffic.filterMap fun
    | some (.take _ item) => some item
    | _ => none

def contents (boxes : Boxes Box Item) : List Item :=
  boxes.flatMap Prod.snd

/-! ## The logs after one more step -/

section Logs

variable (traffic : List (Option (Traffic Box Item))) (box other : Box) (item : Item)

@[simp] theorem putInto_quiet : putInto box (traffic ++ [none]) = putInto box traffic := by
  simp [putInto]

@[simp] theorem putInto_put : putInto box (traffic ++ [some (.put other item)]) =
    putInto box traffic ++ if other = box then [item] else [] := by
  by_cases same : other = box <;> simp [putInto, same]

@[simp] theorem putInto_take :
    putInto box (traffic ++ [some (.take other item)]) = putInto box traffic := by
  simp [putInto]

@[simp] theorem takenFrom_quiet :
    takenFrom box (traffic ++ [none]) = takenFrom box traffic := by
  simp [takenFrom]

@[simp] theorem takenFrom_put :
    takenFrom box (traffic ++ [some (.put other item)]) = takenFrom box traffic := by
  simp [takenFrom]

@[simp] theorem takenFrom_take : takenFrom box (traffic ++ [some (.take other item)]) =
    takenFrom box traffic ++ if other = box then [item] else [] := by
  by_cases same : other = box <;> simp [takenFrom, same]

omit [DecidableEq Box] in
@[simp] theorem allPut_quiet : allPut (traffic ++ [none]) = allPut traffic := by
  simp [allPut]

omit [DecidableEq Box] in
@[simp] theorem allPut_put :
    allPut (traffic ++ [some (.put box item)]) = allPut traffic ++ [item] := by
  simp [allPut]

omit [DecidableEq Box] in
@[simp] theorem allPut_take : allPut (traffic ++ [some (.take box item)]) = allPut traffic := by
  simp [allPut]

omit [DecidableEq Box] in
@[simp] theorem allTaken_quiet : allTaken (traffic ++ [none]) = allTaken traffic := by
  simp [allTaken]

omit [DecidableEq Box] in
@[simp] theorem allTaken_put :
    allTaken (traffic ++ [some (.put box item)]) = allTaken traffic := by
  simp [allTaken]

omit [DecidableEq Box] in
@[simp] theorem allTaken_take :
    allTaken (traffic ++ [some (.take box item)]) = allTaken traffic ++ [item] := by
  simp [allTaken]

end Logs

/-! ## Conservation -/

/-- Nothing is lost, duplicated, reordered or delivered to another box. -/
structure Conserved (traffic : List (Option (Traffic Box Item))) (boxes : Boxes Box Item) :
    Prop where
  nodup : (boxes.map Prod.fst).Nodup
  open_box : ∀ box items, (box, items) ∈ boxes →
    putInto box traffic = takenFrom box traffic ++ items
  closed_box : ∀ box, box ∉ boxes.map Prod.fst → putInto box traffic = takenFrom box traffic
  total : (allPut traffic).Perm (contents boxes ++ allTaken traffic)

theorem Conserved.empty : Conserved ([] : List (Option (Traffic Box Item))) [] where
  nodup := List.nodup_nil
  open_box := by simp
  closed_box := by simp [putInto, takenFrom]
  total := by simp [allPut, allTaken, contents]

/-- The contents of an open box, split off from the rest. -/
theorem exists_contents_split {boxes : Boxes Box Item} (nodup : (boxes.map Prod.fst).Nodup)
    {box : Box} {items : List Item} (member : (box, items) ∈ boxes) :
    ∃ before after : List Item, contents boxes = before ++ items ++ after ∧
      (∀ written, contents (RecordTable.store Prod.fst (box, written) boxes) =
        before ++ written ++ after) ∧
      contents (RecordTable.discard Prod.fst box boxes) = before ++ after := by
  rcases RecordTable.exists_split nodup member with ⟨before, after, split, stored, dropped⟩
  refine ⟨contents before, contents after, ?_, fun written => ?_, ?_⟩
  · simp [split, contents]
  · simp [stored (box, written) rfl, contents]
  · have dropped : RecordTable.discard Prod.fst box boxes = before ++ after := dropped
    simp [dropped, contents]

/-! ## All contents after one step -/

section Contents

variable {boxes next : Boxes Box Item} {box : Box} {item : Item}

theorem Step.contents_of_none (nodup : (boxes.map Prod.fst).Nodup)
    (step : Step boxes none next) : contents next = contents boxes := by
  cases step with
  | quiet => rfl
  | opens box fresh => simp [contents]
  | closes box empty =>
      rcases exists_contents_split nodup empty with ⟨before, after, split, _, dropped⟩
      rw [dropped, split, List.append_nil]

theorem Step.contents_of_put (nodup : (boxes.map Prod.fst).Nodup)
    (step : Step boxes (some (.put box item)) next) :
    ∃ before after, contents boxes = before ++ after ∧
      contents next = before ++ item :: after := by
  cases step with
  | put box items item member =>
      rcases exists_contents_split nodup member with ⟨before, after, split, stored, _⟩
      exact ⟨before ++ items, after, split, by simp [stored]⟩

theorem Step.contents_of_take (nodup : (boxes.map Prod.fst).Nodup)
    (step : Step boxes (some (.take box item)) next) :
    ∃ before after, contents boxes = before ++ item :: after ∧
      contents next = before ++ after := by
  cases step with
  | take box items item member =>
      rcases exists_contents_split nodup member with ⟨before, after, split, stored, _⟩
      exact ⟨before, items ++ after, by simp [split], by simp [stored]⟩

end Contents

namespace Conserved

variable {traffic : List (Option (Traffic Box Item))} {boxes : Boxes Box Item}

theorem quiet (conserved : Conserved traffic boxes) : Conserved (traffic ++ [none]) boxes where
  nodup := conserved.nodup
  open_box := by simpa using conserved.open_box
  closed_box := by simpa using conserved.closed_box
  total := by simpa using conserved.total

theorem opens (conserved : Conserved traffic boxes) {box : Box}
    (fresh : box ∉ boxes.map Prod.fst) : Conserved (traffic ++ [none]) ((box, []) :: boxes) where
  nodup := List.nodup_cons.mpr ⟨fresh, conserved.nodup⟩
  open_box := by
    intro other items member
    rcases List.mem_cons.mp member with same | member
    · rcases Prod.mk.inj same with ⟨rfl, rfl⟩
      simpa using conserved.closed_box other fresh
    · simpa using conserved.open_box other items member
  closed_box := by
    intro other closed
    have stillClosed : other ∉ boxes.map Prod.fst := fun member =>
      closed (List.mem_cons_of_mem _ member)
    simpa using conserved.closed_box other stillClosed
  total := by simpa [contents] using conserved.total

theorem closes (conserved : Conserved traffic boxes) {box : Box} (empty : (box, []) ∈ boxes) :
    Conserved (traffic ++ [none]) (RecordTable.discard Prod.fst box boxes) where
  nodup := RecordTable.nodup_discard conserved.nodup
  open_box := by
    intro other items member
    have kept := RecordTable.mem_discard.mp member
    simpa using conserved.open_box other items kept.1
  closed_box := by
    intro other closed
    by_cases same : other = box
    · subst same
      simpa using conserved.open_box other [] empty
    · have wasClosed : other ∉ boxes.map Prod.fst := by
        intro member
        rcases List.mem_map.mp member with ⟨entry, entryMem, rfl⟩
        exact closed (List.mem_map_of_mem (RecordTable.mem_discard.mpr ⟨entryMem, same⟩))
      simpa using conserved.closed_box other wasClosed
  total := by
    rcases exists_contents_split conserved.nodup empty with ⟨before, after, whole, _, dropped⟩
    have total := conserved.total
    rw [whole] at total
    simpa [dropped] using total

theorem put (conserved : Conserved traffic boxes) {box : Box} {items : List Item}
    (member : (box, items) ∈ boxes) (item : Item) :
    Conserved (traffic ++ [some (.put box item)])
      (RecordTable.store Prod.fst (box, items ++ [item]) boxes) := by
  have present : box ∈ boxes.map Prod.fst := List.mem_map_of_mem member
  constructor
  case nodup => simpa using conserved.nodup
  case open_box =>
    intro other otherItems otherMem
    rcases (RecordTable.mem_store present).mp otherMem with same | ⟨otherMem, different⟩
    · rcases Prod.mk.inj same with ⟨rfl, rfl⟩
      simp [conserved.open_box other items member]
    · have apart : ¬box = other := fun equal => different equal.symm
      simp [conserved.open_box other otherItems otherMem, apart]
  case closed_box =>
    intro other closed
    have wasClosed : other ∉ boxes.map Prod.fst := by simpa using closed
    have apart : ¬box = other := fun equal => wasClosed (equal ▸ present)
    simp [conserved.closed_box other wasClosed, apart]
  case total =>
    rcases exists_contents_split conserved.nodup member with ⟨before, after, whole, stored, _⟩
    have total := conserved.total
    rw [whole] at total
    rw [allPut_put, allTaken_put, stored]
    calc allPut traffic ++ [item]
        _ ~ before ++ items ++ after ++ allTaken traffic ++ [item] := total.append_right [item]
        _ = before ++ items ++ (after ++ allTaken traffic ++ [item]) := by simp
        _ ~ before ++ items ++ ([item] ++ (after ++ allTaken traffic)) :=
          List.perm_append_comm.append_left (before ++ items)
        _ = before ++ (items ++ [item]) ++ after ++ allTaken traffic := by simp

theorem take (conserved : Conserved traffic boxes) {box : Box} {items : List Item} {item : Item}
    (member : (box, item :: items) ∈ boxes) :
    Conserved (traffic ++ [some (.take box item)])
      (RecordTable.store Prod.fst (box, items) boxes) := by
  have present : box ∈ boxes.map Prod.fst := List.mem_map_of_mem member
  constructor
  case nodup => simpa using conserved.nodup
  case open_box =>
    intro other otherItems otherMem
    rcases (RecordTable.mem_store present).mp otherMem with same | ⟨otherMem, different⟩
    · rcases Prod.mk.inj same with ⟨rfl, rfl⟩
      simp [conserved.open_box other (item :: otherItems) member]
    · have apart : ¬box = other := fun equal => different equal.symm
      simp [conserved.open_box other otherItems otherMem, apart]
  case closed_box =>
    intro other closed
    have wasClosed : other ∉ boxes.map Prod.fst := by simpa using closed
    have apart : ¬box = other := fun equal => wasClosed (equal ▸ present)
    simp [conserved.closed_box other wasClosed, apart]
  case total =>
    rcases exists_contents_split conserved.nodup member with ⟨before, after, whole, stored, _⟩
    have total := conserved.total
    rw [whole] at total
    rw [allPut_take, allTaken_take, stored]
    calc allPut traffic
        _ ~ before ++ (item :: items) ++ after ++ allTaken traffic := total
        _ = before ++ ([item] ++ (items ++ after ++ allTaken traffic)) := by simp
        _ ~ before ++ ((items ++ after ++ allTaken traffic) ++ [item]) :=
          List.perm_append_comm.append_left before
        _ = before ++ items ++ after ++ (allTaken traffic ++ [item]) := by simp

/-- One step of any kind. -/
theorem step {next : Boxes Box Item} {label : Option (Traffic Box Item)}
    (conserved : Conserved traffic boxes) (step : Step boxes label next) :
    Conserved (traffic ++ [label]) next := by
  cases step with
  | quiet => exact conserved.quiet
  | opens box fresh => exact conserved.opens fresh
  | closes box empty => exact conserved.closes empty
  | put box items item member => exact conserved.put member item
  | take box items item member => exact conserved.take member

/-- What was taken from a box is the beginning of what was put into it. -/
theorem exists_putInto_eq (conserved : Conserved traffic boxes) (box : Box) :
    ∃ rest, putInto box traffic = takenFrom box traffic ++ rest := by
  by_cases present : box ∈ boxes.map Prod.fst
  · rcases List.mem_map.mp present with ⟨⟨_, items⟩, member, rfl⟩
    exact ⟨items, conserved.open_box _ items member⟩
  · exact ⟨[], by simp [conserved.closed_box box present]⟩

end Conserved

end Lorawan.Mailbox
