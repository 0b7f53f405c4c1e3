import EvalForge.Foundation.Tables

/-! # Growing tables

A table grows when every stored row stays at its place, up to what a relation
between rows permits, and rows are only appended. A lookup by what the relation
keeps finds the same row for ever. It is independent of what the rows are.
-/

namespace EvalForge.Foundation

variable {Row : Type u}

inductive Grows (Kept : Row → Row → Prop) : List Row → List Row → Prop
  | nil (added) : Grows Kept [] added
  | cons {row later rest laterRest} :
      Kept row later → Grows Kept rest laterRest → Grows Kept (row :: rest) (later :: laterRest)

section

variable {Kept : Row → Row → Prop} {table middle next : List Row}

theorem Grows.append (kept : ∀ row, Kept row row) (table added : List Row) :
    Grows Kept table (table ++ added) := by
  induction table with
  | nil => exact .nil added
  | cons row rest induction => exact .cons (kept row) induction

theorem Grows.refl (kept : ∀ row, Kept row row) (table : List Row) : Grows Kept table table := by
  have grows := Grows.append kept table []
  rw [List.append_nil] at grows
  exact grows

theorem Grows.trans
    (kept : ∀ {first second third}, Kept first second → Kept second third → Kept first third)
    (before : Grows Kept table middle) (after : Grows Kept middle next) :
    Grows Kept table next := by
  induction before generalizing next with
  | nil => exact .nil next
  | cons first _ induction =>
      cases after with
      | cons second rest => exact .cons (kept first second) (induction rest)

theorem Grows.updateWhere {selected : Row → Bool} {change : Row → Row}
    (kept : ∀ row, Kept row row) (changed : ∀ row, Kept row (change row)) (table : List Row) :
    Grows Kept table (updateWhere selected change table) := by
  induction table with
  | nil => exact .nil _
  | cons row rest induction =>
      have keptRow : Kept row (if selected row then change row else row) := by
        split
        · exact changed row
        · exact kept row
      exact .cons keptRow induction

theorem Grows.exists_mem (grows : Grows Kept table next) {row : Row} (member : row ∈ table) :
    ∃ later ∈ next, Kept row later := by
  induction grows with
  | nil => cases member
  | cons kept _ induction =>
      rcases List.mem_cons.mp member with rfl | stored
      · exact ⟨_, List.mem_cons_self, kept⟩
      · rcases induction stored with ⟨later, laterMember, laterKept⟩
        exact ⟨later, List.mem_cons_of_mem _ laterMember, laterKept⟩

theorem Grows.find?_eq_some (grows : Grows Kept table next) {selected : Row → Bool}
    (same : ∀ row later, Kept row later → selected later = selected row) {row : Row}
    (found : table.find? selected = some row) :
    ∃ later, next.find? selected = some later ∧ Kept row later := by
  induction grows with
  | nil => cases found
  | @cons first later rest laterRest kept _ induction =>
      have sameFirst := same first later kept
      cases chosen : selected first with
      | true =>
          rw [List.find?_cons_of_pos chosen] at found
          cases found
          exact ⟨later, List.find?_cons_of_pos (sameFirst.trans chosen), kept⟩
      | false =>
          rw [List.find?_cons_of_neg (by simp [chosen])] at found
          rw [List.find?_cons_of_neg (by simp [sameFirst, chosen])]
          exact induction found

end

theorem find?_append_new {table : List Row} {selected : Row → Bool} {row : Row}
    (chosen : selected row = true) (others : ∀ stored ∈ table, selected stored = false) :
    (table ++ [row]).find? selected = some row := by
  have unfound : table.find? selected = none :=
    List.find?_eq_none.mpr fun stored member => by simp [others stored member]
  rw [List.find?_append, unfound, Option.none_or, List.find?_cons_of_pos chosen]

/-! ## Rows in groups -/

section

variable {Item : Type v} {Key : Type w} [BEq Key] [LawfulBEq Key] {key : Row → Key}
variable {name : Item → Key}

theorem filter_flatten_mapIdx_of_absent {rows : Nat → Item → List Row} {items : List Item}
    {asked : Key} (keyed : ∀ index, ∀ item ∈ items, ∀ row ∈ rows index item, key row = name item)
    (absent : ∀ item ∈ items, name item ≠ asked) :
    (items.mapIdx rows).flatten.filter (fun row => key row == asked) = [] := by
  rw [List.filter_eq_nil_iff]
  intro row member
  rcases List.mem_flatten.mp member with ⟨group, groupMember, inGroup⟩
  rcases List.mem_mapIdx.mp groupMember with ⟨index, bound, rfl⟩
  rw [keyed index _ (List.getElem_mem bound) row inGroup, beq_iff_eq]
  exact absent _ (List.getElem_mem bound)

theorem filter_flatten_mapIdx {rows : Nat → Item → List Row} {items : List Item}
    (keyed : ∀ index, ∀ item ∈ items, ∀ row ∈ rows index item, key row = name item)
    (distinct : (items.map name).Nodup) {index : Nat} {item : Item}
    (held : items[index]? = some item) :
    (items.mapIdx rows).flatten.filter (fun row => key row == name item) = rows index item := by
  induction items generalizing rows index with
  | nil => cases held
  | cons first rest induction =>
      rw [List.map_cons, List.nodup_cons] at distinct
      rw [List.mapIdx_cons, List.flatten_cons, List.filter_append]
      have restKeyed : ∀ index, ∀ item ∈ rest, ∀ row ∈ rows (index + 1) item, key row = name item :=
        fun index item member => keyed (index + 1) item (List.mem_cons_of_mem first member)
      cases index with
      | zero =>
          cases held
          have own : (rows 0 item).filter (fun row => key row == name item) = rows 0 item := by
            rw [List.filter_eq_self]
            intro row member
            rw [keyed 0 item List.mem_cons_self row member, beq_self_eq_true]
          have apart : ∀ other ∈ rest, name other ≠ name item := by
            intro other member same
            exact distinct.1 (same ▸ List.mem_map_of_mem member)
          have others := filter_flatten_mapIdx_of_absent restKeyed apart
          rw [own, others, List.append_nil]
      | succ index =>
          rw [List.getElem?_cons_succ] at held
          have member := List.mem_of_getElem? held
          have absent : (rows 0 first).filter (fun row => key row == name item) = [] := by
            rw [List.filter_eq_nil_iff]
            intro row rowMember
            rw [keyed 0 first List.mem_cons_self row rowMember, beq_iff_eq]
            intro same
            exact distinct.1 (same ▸ List.mem_map_of_mem member)
          rw [absent, List.nil_append]
          exact induction restKeyed distinct.2 held

end

/-! ## Updates by key -/

section

variable {Item : Type v} {Key : Type w} [BEq Key] [LawfulBEq Key] {key : Row → Key}

theorem updateWhere_map_eq_set {shown : Item → Row} {items : List Item} {index : Nat}
    {item replacement : Item} {change : Row → Row}
    (distinct : (items.map fun item => key (shown item)).Nodup)
    (held : items[index]? = some item) (same : shown replacement = change (shown item)) :
    updateWhere (fun row => key row == key (shown item)) change (items.map shown) =
      (items.set index replacement).map shown := by
  induction items generalizing index with
  | nil => cases held
  | cons first rest induction =>
      rw [List.map_cons, List.nodup_cons] at distinct
      cases index with
      | zero =>
          cases held
          have others : updateWhere (fun row => key row == key (shown item)) change
              (rest.map shown) = rest.map shown := by
            rw [updateWhere, List.map_map]
            refine List.map_congr_left fun other member => ?_
            have apart : key (shown other) ≠ key (shown item) := by
              intro equal
              exact distinct.1 (List.mem_map.mpr ⟨other, member, equal⟩)
            rw [Function.comp_apply, beq_false_of_ne apart, if_neg Bool.false_ne_true]
          have own : updateWhere (fun row => key row == key (shown item)) change
              (shown item :: rest.map shown) = change (shown item) :: rest.map shown := by
            rw [updateWhere, List.map_cons, if_pos (beq_self_eq_true _), ← updateWhere, others]
          rw [List.set_cons_zero, List.map_cons, List.map_cons, own, same]
      | succ index =>
          rw [List.getElem?_cons_succ] at held
          have apart : key (shown first) ≠ key (shown item) := by
            intro equal
            exact distinct.1 (List.mem_map.mpr ⟨item, List.mem_of_getElem? held, equal.symm⟩)
          have rest := induction distinct.2 held
          rw [List.set_cons_succ, List.map_cons, List.map_cons, ← rest]
          simp [updateWhere, apart]

theorem updateWhere_of_absent {selected : Row → Bool} {change : Row → Row} {table : List Row}
    (absent : ∀ row ∈ table, selected row = false) : updateWhere selected change table = table := by
  rw [updateWhere]
  conv_rhs => rw [← List.map_id table]
  refine List.map_congr_left fun row member => ?_
  rw [absent row member, if_neg Bool.false_ne_true, id]

theorem foldl_updateWhere_map {shown changed : Item → Row} {change : Item → Row → Row}
    {items : List Item} (distinct : (items.map fun item => key (shown item)).Nodup)
    (each : ∀ item ∈ items, change item (shown item) = changed item)
    (sameKey : ∀ item ∈ items, key (changed item) = key (shown item)) (before : List Row)
    (apart : ∀ row ∈ before, ∀ item ∈ items, key row ≠ key (shown item)) :
    items.foldl (fun rows item => updateWhere (fun row => key row == key (shown item))
      (change item) rows) (before ++ items.map shown) = before ++ items.map changed := by
  induction items generalizing before with
  | nil => rfl
  | cons item items induction =>
      rw [List.map_cons, List.nodup_cons] at distinct
      have first : updateWhere (fun row => key row == key (shown item)) (change item)
          (before ++ shown item :: items.map shown) =
          (before ++ [changed item]) ++ items.map shown := by
        have own := each item List.mem_cons_self
        have absent : updateWhere (fun row => key row == key (shown item)) (change item)
            before = before := updateWhere_of_absent fun row member =>
          beq_false_of_ne (apart row member item List.mem_cons_self)
        have later : updateWhere (fun row => key row == key (shown item)) (change item)
            (items.map shown) = items.map shown := by
          refine updateWhere_of_absent fun row member => beq_false_of_ne fun same => ?_
          rcases List.mem_map.mp member with ⟨other, otherMember, rfl⟩
          exact distinct.1 (List.mem_map.mpr ⟨other, otherMember, same⟩)
        rw [updateWhere] at absent later ⊢
        rw [List.map_append, List.map_cons, absent, later, if_pos (beq_self_eq_true _), own,
          List.append_assoc]
        rfl
      have keptApart : ∀ row ∈ before ++ [changed item], ∀ other ∈ items,
          key row ≠ key (shown other) := by
        intro row member other otherMember
        rcases List.mem_append.mp member with old | new
        · exact apart row old other (List.mem_cons_of_mem item otherMember)
        · rw [List.mem_singleton.mp new, sameKey item List.mem_cons_self]
          intro same
          exact distinct.1 (List.mem_map.mpr ⟨other, otherMember, same.symm⟩)
      rw [List.foldl_cons, List.map_cons, first,
        induction distinct.2 (fun other member => each other (List.mem_cons_of_mem item member))
          (fun other member => sameKey other (List.mem_cons_of_mem item member)) _ keptApart,
        List.append_assoc, List.map_cons]
      rfl

end

end EvalForge.Foundation
