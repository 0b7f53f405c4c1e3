import Mathlib.Data.List.Sort

/-! # Keyed tables

A table is a list of rows in the order of their insertion. What its primary key
and its unique constraints refuse is one relation between rows: two rows
conflict. This file has the statements on such tables and says how they keep
the keys. It is independent of what the rows are.
-/

namespace EvalForge.Foundation

variable {Row : Type u}

/-- Insert a row, unless it conflicts with a stored one. -/
def insertUnique (conflicts : Row → Row → Bool) (row : Row) (table : List Row) :
    Option (List Row) :=
  if table.any (conflicts row) then none else some (table ++ [row])

/-- Insert a row whose references are there. -/
def insertReferencing (referenced : Bool) (conflicts : Row → Row → Bool) (row : Row)
    (table : List Row) : Option (List Row) :=
  if referenced then insertUnique conflicts row table else none

/-- `UPDATE table SET … WHERE selected`. -/
def updateWhere (selected : Row → Bool) (change : Row → Row) (table : List Row) : List Row :=
  table.map fun row => if selected row then change row else row

/-- `SELECT … ORDER BY key DESC LIMIT limit OFFSET offset`. -/
def page (key : Row → Nat) (limit offset : Nat) (rows : List Row) : List Row :=
  ((rows.insertionSort fun row other => key other ≤ key row).drop offset).take limit

/-- No two rows conflict. -/
def Keyed (conflicts : Row → Row → Bool) (table : List Row) : Prop :=
  table.Pairwise fun stored row => conflicts row stored = false

section

variable {conflicts : Row → Row → Bool} {table next : List Row} {row : Row}
variable {selected : Row → Bool} {change : Row → Row}

theorem insertUnique_eq_some_iff :
    insertUnique conflicts row table = some next ↔
      (∀ stored ∈ table, conflicts row stored = false) ∧ next = table ++ [row] := by
  unfold insertUnique
  split
  · next refused =>
      rcases List.any_eq_true.mp refused with ⟨stored, member, conflict⟩
      simp only [reduceCtorEq, false_iff, not_and]
      intro free
      rw [free stored member] at conflict
      cases conflict
  · next accepted =>
      have free : ∀ stored ∈ table, conflicts row stored = false := by
        simpa using accepted
      simp only [Option.some.injEq]
      exact ⟨fun equal => ⟨free, equal.symm⟩, fun both => both.2.symm⟩

theorem insertUnique_of_conflict (conflict : table.any (conflicts row) = true) :
    insertUnique conflicts row table = none := by
  rw [insertUnique, if_pos conflict]

theorem insertUnique_of_free (free : table.any (conflicts row) = false) :
    insertUnique conflicts row table = some (table ++ [row]) := by
  rw [insertUnique, free, if_neg Bool.false_ne_true]

theorem insertReferencing_eq_some_iff {referenced : Bool} :
    insertReferencing referenced conflicts row table = some next ↔
      referenced = true ∧ (∀ stored ∈ table, conflicts row stored = false) ∧
        next = table ++ [row] := by
  unfold insertReferencing
  cases referenced with
  | true => simp [insertUnique_eq_some_iff]
  | false => simp

theorem keyed_nil : Keyed conflicts [] := List.Pairwise.nil

theorem Keyed.insert (keyed : Keyed conflicts table)
    (free : ∀ stored ∈ table, conflicts row stored = false) :
    Keyed conflicts (table ++ [row]) := by
  refine List.pairwise_append.mpr ⟨keyed, List.pairwise_singleton _ _, ?_⟩
  intro stored member last lastMember
  rw [List.mem_singleton.mp lastMember]
  exact free stored member

theorem Keyed.filter (keyed : Keyed conflicts table) (selected : Row → Bool) :
    Keyed conflicts (table.filter selected) :=
  List.Pairwise.filter selected keyed

theorem Keyed.update (keyed : Keyed conflicts table)
    (sameKeys : ∀ row other, conflicts (change row) other = conflicts row other ∧
      conflicts other (change row) = conflicts other row) :
    Keyed conflicts (updateWhere selected change table) := by
  refine List.pairwise_map.mpr (List.Pairwise.imp ?_ keyed)
  intro stored row free
  split <;> split <;> simp [sameKeys, free]

theorem mem_updateWhere :
    row ∈ updateWhere selected change table ↔
      ∃ stored ∈ table, row = if selected stored then change stored else stored := by
  simp only [updateWhere, List.mem_map, eq_comm]

end

theorem Keyed.eq_of_conflicts {conflicts : Row → Row → Bool} {table : List Row}
    (keyed : Keyed conflicts table) {row other : Row} (member : row ∈ table)
    (otherMember : other ∈ table) (left : conflicts row other = true)
    (right : conflicts other row = true) : row = other := by
  induction table with
  | nil => cases member
  | cons first rest induction =>
      rcases List.pairwise_cons.mp keyed with ⟨free, restKeyed⟩
      rcases List.mem_cons.mp member with equal | later
      · rcases List.mem_cons.mp otherMember with otherEqual | otherLater
        · exact equal.trans otherEqual.symm
        · rw [equal, free other otherLater] at right
          cases right
      · rcases List.mem_cons.mp otherMember with otherEqual | otherLater
        · rw [otherEqual, free row later] at left
          cases left
        · exact induction restKeyed later otherLater

theorem Keyed.nodup_map {Name : Type v} {name : Row → Name} {conflicts : Row → Row → Bool}
    {table : List Row} (keyed : Keyed conflicts table)
    (same : ∀ stored ∈ table, ∀ row ∈ table, name stored = name row →
      conflicts row stored = true) : (table.map name).Nodup := by
  rw [List.Nodup, List.pairwise_map]
  apply List.Pairwise.imp_of_mem _ keyed
  intro stored row storedMember member free equal
  rw [same stored storedMember row member equal] at free
  cases free

theorem Keyed.length_le_one {conflicts : Row → Row → Bool} {table : List Row}
    (keyed : Keyed conflicts table)
    (conflict : ∀ row ∈ table, ∀ other ∈ table, conflicts row other = true) :
    table.length ≤ 1 := by
  cases table with
  | nil => exact Nat.zero_le _
  | cons first rest =>
      cases rest with
      | nil => exact Nat.le_refl _
      | cons second rest =>
          have free := (List.pairwise_cons.mp keyed).1 second List.mem_cons_self
          have both := conflict second (by simp) first (by simp)
          rw [free] at both
          cases both

theorem countP_split (counted selected : Row → Bool) (table : List Row) :
    table.countP counted =
      (table.filter fun row => !selected row).countP counted +
        (table.filter selected).countP counted := by
  induction table with
  | nil => rfl
  | cons row rest induction =>
      cases chosen : selected row <;> simp [List.countP_cons, chosen, induction] <;> omega

theorem Keyed.find?_eq_some {conflicts : Row → Row → Bool} {table : List Row}
    (keyed : Keyed conflicts table) {row : Row} (member : row ∈ table) {selected : Row → Bool}
    (chosen : selected row = true)
    (same : ∀ other, selected other = true →
      conflicts other row = true ∧ conflicts row other = true) :
    table.find? selected = some row := by
  cases found : table.find? selected with
  | none =>
      rw [List.find?_eq_none] at found
      exact absurd chosen (found row member)
  | some other =>
      have conflict := same other (List.find?_some found)
      rw [keyed.eq_of_conflicts (List.mem_of_find?_eq_some found) member conflict.1 conflict.2]

theorem mem_of_find?_key {Key : Type v} [BEq Key] [LawfulBEq Key] {table : List Row}
    {rowKey : Row → Key} {key : Key} {row : Row}
    (found : table.find? (fun row => rowKey row == key) = some row) :
    row ∈ table ∧ rowKey row = key := by
  have selected := List.find?_some found
  exact ⟨List.mem_of_find?_eq_some found, beq_iff_eq.mp selected⟩

theorem Keyed.find?_of_find?_and {Key : Type v} [BEq Key] [LawfulBEq Key]
    {conflicts : Row → Row → Bool} {table : List Row} (keyed : Keyed conflicts table)
    {rowId : Row → Key} (same : ∀ left right, rowId left = rowId right → conflicts left right = true)
    {id : Key} {asked : Row → Bool} {row : Row}
    (found : table.find? (fun row => rowId row == id && asked row) = some row) :
    rowId row = id ∧ asked row = true ∧ table.find? (fun row => rowId row == id) = some row := by
  have selected := List.find?_some found
  rw [Bool.and_eq_true, beq_iff_eq] at selected
  refine ⟨selected.1, selected.2, keyed.find?_eq_some (List.mem_of_find?_eq_some found)
    (beq_iff_eq.mpr selected.1) fun other chosen => ?_⟩
  have sameId : rowId other = rowId row := (beq_iff_eq.mp chosen).trans selected.1.symm
  exact ⟨same other row sameId, same row other sameId.symm⟩

/-! ## Lookups in an updated table -/

section

variable {chosen selected : Row → Bool} (change : Row → Row) (table : List Row)

theorem find?_updateWhere (same : ∀ row, selected (change row) = selected row) :
    (updateWhere chosen change table).find? selected =
      (table.find? selected).map fun row => if chosen row then change row else row := by
  have kept : (selected ∘ fun row => if chosen row then change row else row) = selected := by
    funext row
    rw [Function.comp_apply]
    split
    · exact same row
    · rfl
  rw [updateWhere, List.find?_map, kept]

theorem any_updateWhere (same : ∀ row, selected (change row) = selected row) :
    (updateWhere chosen change table).any selected = table.any selected := by
  rw [updateWhere, List.any_map]
  congr 1
  funext row
  rw [Function.comp_apply]
  split
  · exact same row
  · rfl

theorem map_filter_updateWhere {Key : Type v} {key : Row → Key}
    (same : ∀ row, selected (change row) = selected row)
    (sameKey : ∀ row, key (change row) = key row) :
    ((updateWhere chosen change table).filter selected).map key =
      (table.filter selected).map key := by
  induction table with
  | nil => rfl
  | cons row rest induction =>
      have keptRow : selected (if chosen row then change row else row) = selected row := by
        split
        · exact same row
        · rfl
      have keyRow : key (if chosen row then change row else row) = key row := by
        split
        · exact sameKey row
        · rfl
      rw [updateWhere] at induction ⊢
      rw [List.map_cons, List.filter_cons, List.filter_cons, keptRow]
      cases selected row with
      | true => simp [keyRow, induction]
      | false => simpa using induction

end

/-! ## Queries that an update does not touch -/

section

variable {table : List Row} {selected kept : Row → Bool} {change : Row → Row}

theorem filter_updateWhere_of_apart
    (apart : ∀ row ∈ table, selected row = true → kept row = false ∧ kept (change row) = false) :
    (updateWhere selected change table).filter kept = table.filter kept := by
  induction table with
  | nil => rfl
  | cons row rest induction =>
      have restApart := induction fun other member => apart other (List.mem_cons_of_mem row member)
      rw [updateWhere] at restApart ⊢
      rw [List.map_cons]
      cases chosen : selected row with
      | true =>
          rcases apart row List.mem_cons_self chosen with ⟨before, after⟩
          simp [before, after, restApart]
      | false => simp [List.filter_cons, restApart]

theorem any_updateWhere_of_apart
    (apart : ∀ row ∈ table, selected row = true → kept row = false ∧ kept (change row) = false) :
    (updateWhere selected change table).any kept = table.any kept := by
  have counted := congrArg List.isEmpty (filter_updateWhere_of_apart apart)
  rw [Bool.eq_iff_iff, List.isEmpty_iff, List.isEmpty_iff, List.filter_eq_nil_iff,
    List.filter_eq_nil_iff] at counted
  rw [Bool.eq_iff_iff, ← not_iff_not]
  simpa using counted

end

/-! ## Lookups in a part of a table -/

theorem find?_append_of_some {table rows : List Row} {selected : Row → Bool} {row : Row}
    (found : table.find? selected = some row) : (table ++ rows).find? selected = some row := by
  rw [List.find?_append, found, Option.some_or]

theorem find?_filter_of_imp {table : List Row} {kept selected : Row → Bool}
    (implied : ∀ row ∈ table, selected row = true → kept row = true) :
    (table.filter kept).find? selected = table.find? selected := by
  induction table with
  | nil => rfl
  | cons row rest induction =>
      have restImplied : ∀ other ∈ rest, selected other = true → kept other = true :=
        fun other member => implied other (List.mem_cons_of_mem row member)
      cases chosen : selected row with
      | true =>
          have keptRow := implied row List.mem_cons_self chosen
          rw [List.filter_cons_of_pos keptRow, List.find?_cons_of_pos chosen,
            List.find?_cons_of_pos chosen]
      | false =>
          rw [List.find?_cons_of_neg (by simp [chosen]), ← induction restImplied]
          cases keptRow : kept row with
          | true =>
              rw [List.filter_cons_of_pos keptRow, List.find?_cons_of_neg (by simp [chosen])]
          | false => rw [List.filter_cons_of_neg (by simp [keptRow])]

theorem find?_filter_of_some {table : List Row} {kept selected : Row → Bool} {row : Row}
    (found : table.find? selected = some row) (keptRow : kept row = true) :
    (table.filter kept).find? selected = some row := by
  induction table with
  | nil => cases found
  | cons first rest induction =>
      cases chosen : selected first with
      | true =>
          rw [List.find?_cons_of_pos chosen] at found
          cases found
          rw [List.filter_cons_of_pos keptRow, List.find?_cons_of_pos chosen]
      | false =>
          rw [List.find?_cons_of_neg (by simp [chosen])] at found
          cases keptFirst : kept first with
          | true =>
              rw [List.filter_cons_of_pos keptFirst, List.find?_cons_of_neg (by simp [chosen])]
              exact induction found
          | false =>
              rw [List.filter_cons_of_neg (by simp [keptFirst])]
              exact induction found

theorem filter_filter_of_imp {table : List Row} {kept selected : Row → Bool}
    (implied : ∀ row ∈ table, selected row = true → kept row = true) :
    (table.filter kept).filter selected = table.filter selected := by
  rw [List.filter_filter]
  apply List.filter_congr
  intro row member
  cases chosen : selected row with
  | true => simp [implied row member chosen]
  | false => rfl

theorem any_filter_of_imp {table : List Row} {kept selected : Row → Bool}
    (implied : ∀ row ∈ table, selected row = true → kept row = true) :
    (table.filter kept).any selected = table.any selected := by
  rw [Bool.eq_iff_iff, List.any_eq_true, List.any_eq_true]
  constructor
  · rintro ⟨row, member, chosen⟩
    exact ⟨row, (List.mem_filter.mp member).1, chosen⟩
  · rintro ⟨row, member, chosen⟩
    exact ⟨row, List.mem_filter.mpr ⟨member, implied row member chosen⟩, chosen⟩

/-! ## The part of an owner -/

section

variable {table : List Row} {Key : Type v} {owned selected : Row → Bool}

theorem find?_filter_own :
    (table.filter fun row => owned row == true).find? (fun row => selected row && owned row) =
      table.find? fun row => selected row && owned row := by
  refine find?_filter_of_imp fun row _ chosen => ?_
  rw [Bool.and_eq_true] at chosen
  rw [chosen.2, beq_self_eq_true]

theorem any_filter_own :
    (table.filter fun row => owned row == true).any (fun row => selected row && owned row) =
      table.any fun row => selected row && owned row := by
  refine any_filter_of_imp fun row _ chosen => ?_
  rw [Bool.and_eq_true] at chosen
  rw [chosen.2, beq_self_eq_true]

theorem filter_filter_own :
    (table.filter fun row => owned row == true).filter owned = table.filter owned :=
  filter_filter_of_imp fun _ _ chosen => by rw [chosen, beq_self_eq_true]

/-! Below an owner, rows are selected by what they refer to. -/

variable [BEq Key] [LawfulBEq Key] {reference : Row → Key} {ownedKey : Key → Bool} {key : Key}

theorem filter_filter_below (own : ownedKey key = true) :
    (table.filter fun row => ownedKey (reference row) == true).filter
        (fun row => reference row == key) =
      table.filter fun row => reference row == key :=
  filter_filter_of_imp fun _ _ chosen => by rw [beq_iff_eq.mp chosen, own, beq_self_eq_true]

theorem find?_filter_below (own : ownedKey key = true) :
    (table.filter fun row => ownedKey (reference row) == true).find?
        (fun row => reference row == key) =
      table.find? fun row => reference row == key :=
  find?_filter_of_imp fun _ _ chosen => by rw [beq_iff_eq.mp chosen, own, beq_self_eq_true]

theorem any_filter_below (own : ownedKey key = true) :
    (table.filter fun row => ownedKey (reference row) == true).any
        (fun row => reference row == key) =
      table.any fun row => reference row == key :=
  any_filter_of_imp fun _ _ chosen => by rw [beq_iff_eq.mp chosen, own, beq_self_eq_true]

end

theorem any_of_find? {table : List Row} {selected : Row → Bool} {row : Row}
    (found : table.find? selected = some row) : table.any selected = true :=
  List.any_eq_true.mpr ⟨row, List.mem_of_find?_eq_some found, List.find?_some found⟩

theorem any_of_any_and {table : List Row} {selected other : Row → Bool}
    (both : (table.any fun row => selected row && other row) = true) :
    table.any selected = true := by
  rcases List.any_eq_true.mp both with ⟨row, member, chosen⟩
  rw [Bool.and_eq_true] at chosen
  exact List.any_eq_true.mpr ⟨row, member, chosen.1⟩

theorem any_congr_of_mem {table : List Row} {selected other : Row → Bool}
    (same : ∀ row ∈ table, selected row = other row) : table.any selected = table.any other := by
  rw [Bool.eq_iff_iff, List.any_eq_true, List.any_eq_true]
  constructor
  · rintro ⟨row, member, chosen⟩
    exact ⟨row, member, (same row member).symm.trans chosen⟩
  · rintro ⟨row, member, chosen⟩
    exact ⟨row, member, (same row member).trans chosen⟩

theorem insertReferencing_filter {conflicts : Row → Row → Bool} {row : Row} {table : List Row}
    {kept : Row → Bool} (referenced : Bool) (keptRow : kept row = true)
    (clear : ∀ stored ∈ table, kept stored = false → conflicts row stored = false) :
    insertReferencing referenced conflicts row (table.filter kept) =
      (insertReferencing referenced conflicts row table).map (·.filter kept) := by
  have sameConflicts : (table.filter kept).any (conflicts row) = table.any (conflicts row) := by
    apply any_filter_of_imp
    intro stored member conflict
    cases keptStored : kept stored with
    | true => rfl
    | false => rw [clear stored member keptStored] at conflict; cases conflict
  unfold insertReferencing insertUnique
  rw [sameConflicts]
  cases referenced <;> cases table.any (conflicts row) <;> simp [keptRow]

end EvalForge.Foundation
