import ErpLens.Proofs.Fields
import ErpLens.Proofs.Outcomes
import ErpLens.Stock.DeliveryTrip
import Mathlib

/-!
# Rearranged stops of a trip

Stops are numbered where they stand, in the new order, and then written over the part they are from.
Each place is named once, so a stop has its old content when its turn comes.
-/

open List

namespace ErpLens.Stock

/-! ## Numbering in place -/

section Numbering

variable {σ : Type} {assign : σ → Int → Outcome σ} {number : σ → Int → σ} (start : Nat)

theorem changeAt_eq_ok {change : σ → Outcome σ} {stops : List σ} {place : Nat} {stop new : σ}
    (read : stops[place]? = some stop) (changes : change stop = .ok new) :
    changeAt change place stops = .ok (stops.set place new) := by
  induction stops generalizing place with
  | nil => simp at read
  | cons first rest ih =>
    cases place with
    | zero =>
      obtain rfl : first = stop := by simpa using read
      rw [changeAt, changes]
      rfl
    | succ place =>
      rw [changeAt, ih (by simpa using read)]
      rfl

theorem position?_of_lt {size place : Nat} (inside : place < size) :
    Value.position? size place = some place := by
  simp [Value.position?, inside]

theorem bound_of_le {size index : Nat} (le : index ≤ size) : Value.bound size index = index := by
  rw [Value.bound, if_neg (by omega)]
  simp [le]

/-- Stops that an order names, each once, have got the numbers from `next` on, and the others are as
they were. -/
structure Numbers (number : σ → Int → σ) (next : Int) (order : List Nat)
    (stops numbered : List σ) : Prop where
  length : numbered.length = stops.length
  named : ∀ (j old : Nat), order[j]? = some old →
    numbered[start + old]? = stops[start + old]?.map (number · (start + (next + j)))
  others : ∀ place : Nat, (∀ old ∈ order, place ≠ start + old) → numbered[place]? = stops[place]?

/-- An order that names places once and with a stop at each of them can be followed. The stops are
changed one after the other, and each one has its first content when it gets its number. -/
theorem exists_numberStops {order : List Nat} (distinct : order.Nodup) (next : Int)
    (stops : List σ) (inside : ∀ old ∈ order, start + old < stops.length)
    (takes : ∀ old ∈ order, ∀ stop, stops[start + old]? = some stop →
      ∀ n, assign stop n = .ok (number stop n)) :
    ∃ numbered, numberStops assign start next (order.map Nat.cast) stops =
        .ok (order.map (start + ·), numbered) ∧
      Numbers start number next order stops numbered := by
  induction order generalizing next stops with
  | nil => exact ⟨stops, rfl, rfl, by simp, by simp⟩
  | cons old rest ih =>
    rw [nodup_cons] at distinct
    rw [forall_mem_cons] at inside takes
    have read : stops[start + old]? = some stops[start + old] := getElem?_eq_getElem inside.1
    generalize stops[start + old] = stop at read
    have notAgain : ∀ later ∈ rest, start + old ≠ start + later := by
      intro later laterMem same
      obtain rfl : old = later := by omega
      exact distinct.1 laterMem
    have laterTakes : ∀ later ∈ rest, ∀ other,
        (stops.set (start + old) (number stop (start + next)))[start + later]? = some other →
          ∀ n, assign other n = .ok (number other n) := by
      intro later laterMem other isOther
      rw [getElem?_set_ne (notAgain later laterMem)] at isOther
      exact takes.2 later laterMem other isOther
    obtain ⟨numbered, ran, length, named, others⟩ := ih distinct.2 (next + 1)
      (stops.set (start + old) (number stop (start + next))) (by simpa using inside.2) laterTakes
    refine ⟨numbered, ?_, by simpa using length, ?_, ?_⟩
    · have place : Value.position? stops.length ((start : Int) + old) = some (start + old) := by
        exact_mod_cast position?_of_lt inside.1
      have changed : changeAt (assign · (start + next)) (start + old) stops = .ok _ :=
        changeAt_eq_ok read (takes.1 stop read (start + next))
      simp only [map_cons, numberStops, place, changed, ok_bind, ran]
      rfl
    · intro j later isLater
      cases j with
      | zero =>
        obtain rfl : old = later := by simpa using isLater
        rw [others _ notAgain, getElem?_set_self inside.1, read]
        simp
      | succ j =>
        rw [getElem?_cons_succ] at isLater
        have apart := notAgain later (mem_of_getElem? isLater)
        rw [named j later isLater, getElem?_set_ne apart]
        congr 2
        push_cast
        ring_nf
    · intro place notNamed
      rw [forall_mem_cons] at notNamed
      rw [others place notNamed.2, getElem?_set_ne notNamed.1.symm]

end Numbering

/-! ## Writing over the part -/

theorem getElem?_filterMap_of_isSome {α β : Type} {read : α → Option β} {items : List α}
    (reads : ∀ item ∈ items, (read item).isSome) (j : Nat) :
    (items.filterMap read)[j]? = items[j]?.bind read := by
  induction items generalizing j with
  | nil => simp
  | cons item rest ih =>
    rw [forall_mem_cons] at reads
    obtain ⟨result, isResult⟩ := Option.isSome_iff_exists.mp reads.1
    cases j with
    | zero => simp [isResult]
    | succ j => simp [isResult, ih reads.2]

section Rearranging

variable {σ : Type} {assign : σ → Int → Outcome σ} {number : σ → Int → σ} {start : Nat}
  {order : List Nat} {stops : List σ}

/-- The stops of the part stand in the new order and are numbered by it. -/
structure Rearranges (number : σ → Int → σ) (start : Nat) (order : List Nat)
    (stops after : List σ) : Prop where
  length : after.length = stops.length
  inPart : ∀ (j old : Nat), order[j]? = some old →
    after[start + j]? = stops[start + old]?.map (number · (start + j + 1 : Nat))
  outside : ∀ place : Nat, place < start ∨ start + order.length ≤ place →
    after[place]? = stops[place]?

theorem exists_rearrange (isOrder : order.Perm (List.range order.length))
    (fits : start + order.length ≤ stops.length)
    (takes : ∀ stop ∈ stops, ∀ n, assign stop n = .ok (number stop n)) :
    ∃ after, rearrange assign (order.map Nat.cast) start stops = .ok after ∧
      Rearranges number start order stops after := by
  have inPart : ∀ old ∈ order, old < order.length := by
    intro old oldMem
    exact mem_range.mp (isOrder.mem_iff.mp oldMem)
  have inside : ∀ old ∈ order, start + old < stops.length := by
    intro old oldMem
    have := inPart old oldMem
    omega
  obtain ⟨numbered, ran, length, named, others⟩ := exists_numberStops start
    (isOrder.nodup_iff.mpr nodup_range) 1 stops inside
    fun _ _ stop isStop => takes stop (mem_of_getElem? isStop)
  have there : ∀ old ∈ order, (numbered[start + old]?).isSome := by
    intro old oldMem
    simpa [length] using inside old oldMem
  let chosen := order.filterMap fun old => numbered[start + old]?
  have chosenLength : chosen.length = order.length := filterMap_length_eq_length.mpr there
  have low : Value.bound numbered.length start = start := bound_of_le (by omega)
  have high : Value.bound numbered.length (start + chosen.length) = start + order.length := by
    rw [chosenLength]
    exact_mod_cast bound_of_le (by omega)
  refine ⟨numbered.take start ++ chosen ++ numbered.drop (start + order.length), ?_, ?_⟩
  · have read : (order.map (start + ·)).filterMap (numbered[·]?) = chosen := filterMap_map
    simp only [rearrange, ran, ok_bind, read, low, high]
    rw [max_eq_right (by omega)]
    rfl
  · have takeLength : (numbered.take start).length = start := by
      simp [length]
      omega
    refine ⟨?_, ?_, ?_⟩
    · simp [chosenLength, length]
      omega
    · intro j old isOld
      have before : j < order.length := (List.getElem?_eq_some_iff.mp isOld).1
      rw [append_assoc, getElem?_append_right (by omega), takeLength,
        Nat.add_sub_cancel_left, getElem?_append_left (by omega),
        getElem?_filterMap_of_isSome there, isOld, Option.bind_some, named j old isOld]
      congr 2
      push_cast
      ring_nf
    · intro place notInPart
      have notNamed : ∀ old ∈ order, place ≠ start + old := by
        intro old oldMem
        have := inPart old oldMem
        omega
      rw [← others place notNamed]
      rcases notInPart with isBefore | isAfter
      · simp [getElem?_append_left, takeLength, isBefore]
      · rw [getElem?_append_right (by simp [takeLength, chosenLength, isAfter])]
        simp [takeLength, chosenLength, isAfter]

theorem eq_parts (start count : Nat) (items : List σ) :
    items = items.take start ++ (items.drop start).take count ++ items.drop (start + count) := by
  rw [← drop_drop, append_assoc, take_append_drop, take_append_drop]

/-- What a part of a list holds, read place by place. -/
theorem map_part {κ : Type} (identity : σ → κ) (items : List σ) {places : List Nat}
    (inside : ∀ place ∈ places, start + place < stops.length)
    (each : ∀ j : Nat, j < places.length → items[start + j]?.map identity =
      places[j]?.bind fun place => stops[start + place]?.map identity) :
    ((items.drop start).take places.length).map identity =
      places.filterMap fun place => stops[start + place]?.map identity := by
  apply ext_getElem?
  intro j
  rw [getElem?_filterMap_of_isSome (by simpa using inside)]
  by_cases before : j < places.length
  · rw [← each j before]
    simp [before]
  · simp [before]

/-- Up to what numbering changes, the stops after are those before in another order. -/
theorem Rearranges.perm {κ : Type} {after : List σ}
    (rearranges : Rearranges number start order stops after)
    (isOrder : order.Perm (List.range order.length)) (fits : start + order.length ≤ stops.length)
    {identity : σ → κ} (kept : ∀ stop n, identity (number stop n) = identity stop) :
    (after.map identity).Perm (stops.map identity) := by
  have first : after.take start = stops.take start := by
    apply ext_getElem?
    intro place
    by_cases before : place < start
    · simp [before, rearranges.outside place (.inl before)]
    · simp [before]
  have last : after.drop (start + order.length) = stops.drop (start + order.length) := by
    apply ext_getElem?
    intro place
    simp only [getElem?_drop]
    exact rearranges.outside _ (.inr (by omega))
  have inside : ∀ place ∈ List.range order.length, start + place < stops.length := by
    intro place placeMem
    rw [mem_range] at placeMem
    omega
  have now := map_part identity after
    (fun place placeMem => inside place (isOrder.mem_iff.mp placeMem)) (by
      intro j before
      have isOld := getElem?_eq_getElem before
      simp [rearranges.inPart j _ isOld, isOld, Function.comp_def, kept])
  have old := map_part identity stops inside (by
    intro j before
    simp [getElem?_range (length_range ▸ before)])
  rw [length_range] at old
  rw [eq_parts start order.length after, eq_parts start order.length stops, first, last]
  simp only [map_append, now, old]
  exact ((isOrder.filterMap _).append_left _).append_right _

end Rearranging

/-! ## Stops of a document -/

/-- A stop with a number, where it takes one. -/
def renumbered (stop : Value) (n : Int) : Value :=
  (numberStop stop n).toOption.getD stop

theorem numberStop_eq_ok {stop : Value} (isStop : (stop.field? "idx").isSome) (n : Int) :
    numberStop stop n = .ok (renumbered stop n) := by
  obtain ⟨old, isOld⟩ := Option.isSome_iff_exists.mp isStop
  obtain ⟨new, set, _⟩ := Value.exists_setField isOld (.int n)
  rw [renumbered, numberStop, set]
  rfl

/-- A stop without its number, as far as it has one. -/
def unnumbered (stop : Value) : Value :=
  (stop.setField "idx" .null).toOption.getD stop

theorem unnumbered_renumbered (stop : Value) (n : Int) :
    unnumbered (renumbered stop n) = unnumbered stop := by
  cases stop with
  | dict kind entries =>
    cases kind with
    | plain => rfl
    | record =>
      exact congrArg (Value.dict .record) (Value.putEntry_putEntry "idx" (.int n) .null entries)
  | object class_ fields =>
    exact congrArg (Value.object class_) (Value.putField_putField "idx" (.int n) .null fields)
  | _ => rfl

/-- An order that names each place of a part of the stops once is followed: the stop at each place
of the part is the one that the order names for it, with the number of its new place, and all other
stops are as they were. Up to their numbers the stops of the trip are the same ones, and nothing
else of the trip changes. -/
theorem rearrangeStops_follows_order {trip : Value} {stops : List Value} {order : List Nat}
    {start : Nat} (holds : trip.field? "delivery_stops" = some (.list stops))
    (areStops : ∀ stop ∈ stops, (stop.field? "idx").isSome)
    (isOrder : order.Perm (List.range order.length))
    (fits : start + order.length ≤ stops.length) :
    ∃ changed after, rearrangeStops trip (.list (order.map .nat)) (.nat start) = .ok changed ∧
      trip.setField "delivery_stops" (.list after) = .ok changed ∧
      changed.field? "delivery_stops" = some (.list after) ∧
      (after.map unnumbered).Perm (stops.map unnumbered) ∧
      (∀ (j : Nat) old, order[j]? = some old → ∃ stop new, stops[start + old]? = some stop ∧
        after[start + j]? = some new ∧ stop.setField "idx" (.nat (start + j + 1)) = .ok new ∧
        new.field? "idx" = some (.nat (start + j + 1))) ∧
      after.length = stops.length ∧
      ∀ place, place < start ∨ start + order.length ≤ place → after[place]? = stops[place]? := by
  obtain ⟨after, ran, rearranges⟩ := exists_rearrange isOrder fits
    fun stop stopMem => numberStop_eq_ok (areStops stop stopMem)
  obtain ⟨changed, set, held⟩ := Value.exists_setField holds (.list after)
  refine ⟨changed, after, ?_, set, held, rearranges.perm isOrder fits unnumbered_renumbered, ?_,
    rearranges.length, rearranges.outside⟩
  · have indices : (order.map Value.nat).mapM wholeIndex = .ok (order.map Nat.cast) := by
      rw [List.mapM_map]
      exact mapM_eq_ok fun old _ => rfl
    have field : trip.field "delivery_stops" = .ok (.list stops) := by
      rw [Value.field, holds]
    have index : wholeIndex (.nat start) = .ok (start : Int) := rfl
    rw [rearrangeStops, Value.items, ok_bind, indices, ok_bind, field, ok_bind, Value.items,
      ok_bind, index, ok_bind, ran, ok_bind]
    exact set
  · intro j old isOld
    have inPart := rearranges.inPart j old isOld
    have oldMem := isOrder.mem_iff.mp (List.mem_of_getElem? isOld)
    rw [List.mem_range] at oldMem
    have inside : start + old < stops.length := by omega
    have read := List.getElem?_eq_getElem inside
    generalize stops[start + old] = stop at read
    obtain ⟨number, isNumber⟩ := Option.isSome_iff_exists.mp
      (areStops stop (List.mem_of_getElem? read))
    obtain ⟨new, setNew, heldNew⟩ := Value.exists_setField isNumber (.nat (start + j + 1))
    have numbered : renumbered stop (start + j + 1 : Nat) = new := by
      have setInt : stop.setField "idx" (.int (start + j + 1 : Nat)) = .ok new := setNew
      rw [renumbered, numberStop, setInt]
      rfl
    rw [read, Option.map_some, numbered] at inPart
    exact ⟨stop, new, read, inPart, setNew, heldNew⟩

/-- Four stops, of which the last three are to be visited in another order. -/
def cityStops : List Value :=
  [("Harbour", 1), ("Mill", 2), ("Station", 3), ("Market", 4)].map fun stop =>
    .ofRecord [("customer", .str stop.1), ("idx", .nat stop.2)]

theorem rearrangeStops_of_cityStops : ∃ changed after stop new,
    rearrangeStops (.ofRecord [("delivery_stops", .list cityStops)])
        (.list ([2, 0, 1].map .nat)) (.nat 1) = .ok changed ∧
      changed.field? "delivery_stops" = some (.list after) ∧ after[0]? = cityStops[0]? ∧
      cityStops[3]? = some stop ∧ after[1]? = some new ∧
      stop.setField "idx" (.nat 2) = .ok new := by
  obtain ⟨changed, after, ran, _, held, _, inPart, _, outside⟩ :=
    @rearrangeStops_follows_order (.ofRecord [("delivery_stops", .list cityStops)]) cityStops
      [2, 0, 1] 1 (by simp [Value.field?, Value.ofRecord, Value.findEntry, Value.same])
      (by simp [cityStops, Value.field?, Value.ofRecord, Value.findEntry, Value.same]) (by decide)
      (by decide)
  obtain ⟨stop, new, isStop, isNew, set, _⟩ := inPart 0 2 rfl
  exact ⟨changed, after, stop, new, ran, held, outside 0 (by decide), isStop, isNew, set⟩

end ErpLens.Stock
