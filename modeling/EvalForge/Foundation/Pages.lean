import EvalForge.Foundation.OrderStatistics

/-! # Pages of a listing

A query lists its rows in the order of a key, and a page is a slice of that
listing. Rows with one key come in any order, which each query chooses anew.
-/

namespace EvalForge.Foundation

variable {Row : Type u} {Shown : Type v} {K : Type w}

/-- The rows from an offset on, up to a limit. -/
def pageAt (limit offset : Nat) (listing : List Row) : List Row :=
  (listing.drop offset).take limit

theorem flatMap_pageAt (limit count : Nat) (listing : List Row) :
    (List.range count).flatMap (fun number => pageAt limit (number * limit) listing) =
      listing.take (count * limit) := by
  induction count with
  | zero => simp
  | succ count induction =>
      rw [List.range_succ, List.flatMap_append, induction, List.flatMap_singleton, pageAt,
        Nat.succ_mul, List.take_add]

section Order

variable [LinearOrder K] {key : Row → K} {rows listing other : List Row} {row : Row}
variable {limit position boundary : Nat}

/-- A listing of the rows in the order of their keys. -/
structure Lists (key : Row → K) (rows listing : List Row) : Prop where
  perm : listing.Perm rows
  sorted : listing.Pairwise fun row other => key row ≤ key other

theorem lists_insertionSort (key : Row → K) (rows : List Row) :
    Lists key rows (rows.insertionSort fun row other => key row ≤ key other) where
  perm := List.perm_insertionSort _ _
  sorted := pairwise_le_insertionSort key rows

/-- The rows with the key of this one have places on both sides of the boundary. -/
def Straddles (key : Row → K) (rows : List Row) (boundary : Nat) (row : Row) : Prop :=
  rows.countP (key · < key row) < boundary ∧ boundary < rows.countP (key · ≤ key row)

/-! ## The places of a row -/

variable (position) in
theorem Lists.countP_lt_le (lists : Lists key rows listing) (bound : position < listing.length) :
    rows.countP (key · < key listing[position]) ≤ position := by
  have later : (listing.drop position).countP (key · < key listing[position]) = 0 := by
    rw [List.countP_eq_zero]
    intro other member
    rcases List.getElem_of_mem member with ⟨index, inside, rfl⟩
    rw [List.getElem_drop, decide_eq_true_eq, not_lt]
    rcases Nat.eq_zero_or_pos index with rfl | positive
    · exact le_refl _
    · exact List.pairwise_iff_getElem.mp lists.sorted _ _ bound _ (by omega)
  calc rows.countP (key · < key listing[position])
      = listing.countP (key · < key listing[position]) := lists.perm.symm.countP_eq _
    _ = (listing.take position).countP (key · < key listing[position]) +
          (listing.drop position).countP (key · < key listing[position]) := by
        rw [← List.countP_append, List.take_append_drop]
    _ ≤ position := by
        rw [later, Nat.add_zero]
        exact List.countP_le_length.trans (List.length_take_le _ _)

variable (position) in
theorem Lists.lt_countP_le (lists : Lists key rows listing) (bound : position < listing.length) :
    position < rows.countP (key · ≤ key listing[position]) := by
  have earlier : (listing.take (position + 1)).countP (key · ≤ key listing[position]) =
      position + 1 := by
    rw [List.countP_eq_length.mpr, List.length_take]
    · omega
    · intro other member
      rcases List.getElem_of_mem member with ⟨index, inside, rfl⟩
      rw [List.length_take] at inside
      rw [List.getElem_take, decide_eq_true_eq]
      rcases Nat.lt_or_ge index position with before | here
      · exact List.pairwise_iff_getElem.mp lists.sorted _ _ _ bound before
      · exact le_of_eq (by congr; omega)
  have counted : rows.countP (key · ≤ key listing[position]) =
      (listing.take (position + 1)).countP (key · ≤ key listing[position]) +
        (listing.drop (position + 1)).countP (key · ≤ key listing[position]) := by
    rw [← List.countP_append, List.take_append_drop, lists.perm.countP_eq]
  omega

theorem Lists.le_of_lt_countP_le (lists : Lists key rows listing)
    (inside : position < rows.countP (key · ≤ key row)) (bound : position < listing.length) :
    key listing[position] ≤ key row := by
  by_contra above
  have few : rows.countP (key · ≤ key row) ≤ rows.countP (key · < key listing[position]) := by
    apply List.countP_mono_left
    intro other _ atMost
    rw [decide_eq_true_eq] at atMost ⊢
    exact lt_of_le_of_lt atMost (not_le.mp above)
  have places := lists.countP_lt_le position bound
  omega

theorem Lists.le_of_countP_lt_le (lists : Lists key rows listing)
    (outside : rows.countP (key · < key row) ≤ position) (bound : position < listing.length) :
    key row ≤ key listing[position] := by
  by_contra below
  have few : rows.countP (key · ≤ key listing[position]) ≤ rows.countP (key · < key row) := by
    apply List.countP_mono_left
    intro other _ atMost
    rw [decide_eq_true_eq] at atMost ⊢
    exact lt_of_le_of_lt atMost (not_le.mp below)
  have places := lists.lt_countP_le position bound
  omega

/-! ## Pages of one order chosen for each of them -/

/-- The first pages, each of a listing of its own, show the rows together. A row
may be left out. -/
def PagesPartition (key : Row → K) (rows : List Row) (render : Row → Option Shown)
    (limit count : Nat) : Prop :=
  ∀ listings : Nat → List Row, (∀ number, Lists key rows (listings number)) →
    ((List.range count).flatMap fun number =>
      (pageAt limit (number * limit) (listings number)).filterMap render).Perm
        (rows.filterMap render)

variable {render : Row → Option Shown} {listings : Nat → List Row} {count : Nat}

theorem filterMap_filter_of_shown {selected : Row → Bool}
    (keeps : ∀ row ∈ rows, (render row).isSome = true → selected row = true) :
    (rows.filter selected).filterMap render = rows.filterMap render := by
  induction rows with
  | nil => rfl
  | cons row rows induction =>
      have rest := induction fun other member => keeps other (List.mem_cons_of_mem _ member)
      cases chosen : selected row with
      | true => rw [List.filter_cons_of_pos chosen, List.filterMap_cons, List.filterMap_cons, rest]
      | false =>
          have hidden : render row = none := by
            rw [← Option.not_isSome_iff_eq_none]
            intro shown
            rw [keeps row List.mem_cons_self shown] at chosen
            cases chosen
          rw [List.filter_cons_of_neg (by simp [chosen]), List.filterMap_cons_none hidden, rest]

theorem Lists.filterMap_take (lists : Lists key rows listing)
    (clean : ∀ row ∈ rows, (render row).isSome = true → ¬Straddles key rows boundary row) :
    (listing.take boundary).filterMap render =
      (listing.filter fun row => rows.countP (key · ≤ key row) ≤ boundary).filterMap render := by
  have before : ∀ row ∈ listing.take boundary, (render row).isSome = true →
      decide (rows.countP (key · ≤ key row) ≤ boundary) = true := by
    intro row member shown
    rcases List.getElem_of_mem member with ⟨position, inside, rfl⟩
    rw [List.length_take] at inside
    rw [List.getElem_take] at shown ⊢
    have places := lists.countP_lt_le position (by omega)
    have stays := clean _ (lists.perm.mem_iff.mp (List.getElem_mem (by omega))) shown
    rw [decide_eq_true_eq]
    exact not_lt.mp fun straddles => stays ⟨by omega, straddles⟩
  have after : (listing.drop boundary).filter
      (fun row => rows.countP (key · ≤ key row) ≤ boundary) = [] := by
    rw [List.filter_eq_nil_iff]
    intro row member
    rcases List.getElem_of_mem member with ⟨index, inside, rfl⟩
    rw [List.length_drop] at inside
    rw [List.getElem_drop, decide_eq_true_eq, not_le]
    have places := lists.lt_countP_le (boundary + index) (by omega)
    omega
  calc (listing.take boundary).filterMap render
      = ((listing.take boundary).filter fun row =>
          rows.countP (key · ≤ key row) ≤ boundary).filterMap render :=
        (filterMap_filter_of_shown before).symm
    _ = (listing.filter fun row => rows.countP (key · ≤ key row) ≤ boundary).filterMap render := by
        conv_rhs => rw [← List.take_append_drop boundary listing, List.filter_append, after,
          List.append_nil]

theorem Lists.perm_take (lists : Lists key rows listing) (otherLists : Lists key rows other)
    (clean : ∀ row ∈ rows, (render row).isSome = true → ¬Straddles key rows boundary row) :
    ((listing.take boundary).filterMap render).Perm ((other.take boundary).filterMap render) := by
  rw [lists.filterMap_take clean, otherLists.filterMap_take clean]
  exact ((lists.perm.trans otherLists.perm.symm).filter _).filterMap _

variable (count) in
theorem flatMap_pages_perm (lists : ∀ number, Lists key rows (listings number))
    (clean : ∀ row ∈ rows, (render row).isSome = true →
      ∀ number, ¬Straddles key rows (number * limit) row)
    (otherLists : Lists key rows other) :
    ((List.range count).flatMap fun number =>
        (pageAt limit (number * limit) (listings number)).filterMap render).Perm
      ((other.take (count * limit)).filterMap render) := by
  induction count generalizing other with
  | zero => simp
  | succ count induction =>
      have boundary := fun row member shown => clean row member shown (count + 1)
      calc (List.range (count + 1)).flatMap (fun number =>
            (pageAt limit (number * limit) (listings number)).filterMap render)
          = (List.range count).flatMap (fun number =>
                (pageAt limit (number * limit) (listings number)).filterMap render) ++
              (pageAt limit (count * limit) (listings count)).filterMap render := by
            rw [List.range_succ, List.flatMap_append, List.flatMap_singleton]
        List.Perm _ (((listings count).take (count * limit)).filterMap render ++
              (pageAt limit (count * limit) (listings count)).filterMap render) :=
            (induction (lists count)).append_right _
        _ = ((listings count).take ((count + 1) * limit)).filterMap render := by
            rw [← List.filterMap_append, pageAt, Nat.succ_mul, List.take_add]
        List.Perm _ ((other.take ((count + 1) * limit)).filterMap render) :=
            (lists count).perm_take otherLists boundary

/-! ## A row on both sides of a boundary -/

theorem exists_lists_getElem? (member : row ∈ rows)
    (first : rows.countP (key · < key row) ≤ position)
    (last : position < rows.countP (key · ≤ key row)) :
    ∃ listing, Lists key rows listing ∧ listing[position]? = some row := by
  rcases List.append_of_mem member with ⟨earlier, later, split⟩
  have others : rows.Perm (row :: (earlier ++ later)) := by
    rw [split]
    exact List.perm_middle
  have rest := lists_insertionSort key (earlier ++ later)
  generalize (earlier ++ later).insertionSort (fun row other => key row ≤ key other) = sorted
    at rest
  have whole : rows.Perm (row :: sorted) := others.trans (rest.perm.symm.cons row)
  rw [whole.countP_eq, List.countP_cons_of_neg (by simp)] at first
  rw [whole.countP_eq, List.countP_cons_of_pos (by simp)] at last
  have self := Lists.mk (List.Perm.refl sorted) rest.sorted
  have below : ∀ other ∈ sorted.take position, key other ≤ key row := by
    intro other otherMember
    rcases List.getElem_of_mem otherMember with ⟨index, inside, rfl⟩
    rw [List.length_take] at inside
    rw [List.getElem_take]
    exact self.le_of_lt_countP_le (by omega) (by omega)
  have above : ∀ other ∈ sorted.drop position, key row ≤ key other := by
    intro other otherMember
    rcases List.getElem_of_mem otherMember with ⟨index, inside, rfl⟩
    rw [List.length_drop] at inside
    rw [List.getElem_drop]
    exact self.le_of_countP_lt_le (by omega) (by omega)
  have enough : position ≤ sorted.length := by
    have most := sorted.countP_le_length (p := fun other => key other ≤ key row)
    omega
  refine ⟨sorted.take position ++ row :: sorted.drop position, ⟨?_, ?_⟩, ?_⟩
  · exact List.perm_middle.trans (by rw [List.take_append_drop]; exact whole.symm)
  · refine List.pairwise_append.mpr ⟨rest.sorted.sublist (List.take_sublist _ _),
      List.pairwise_cons.mpr ⟨above, rest.sorted.sublist (List.drop_sublist _ _)⟩, ?_⟩
    intro left leftMember right rightMember
    rcases List.mem_cons.mp rightMember with rfl | later
    · exact below left leftMember
    · exact (below left leftMember).trans (above right later)
  · rw [List.getElem?_append_right (by simp), List.length_take, Nat.min_eq_left enough,
      Nat.sub_self]
    rfl

theorem mem_pageAt {offset : Nat} (found : listing[position]? = some row)
    (lower : offset ≤ position) (upper : position < offset + limit) :
    row ∈ pageAt limit offset listing := by
  apply List.mem_of_getElem? (i := position - offset)
  rw [pageAt, List.getElem?_take_of_lt (by omega), List.getElem?_drop, Nat.add_sub_cancel' lower,
    found]

theorem not_pagesPartition (distinct : (rows.filterMap render).Nodup) (member : row ∈ rows)
    (shown : (render row).isSome = true) {number : Nat}
    (straddles : Straddles key rows (number * limit) row)
    (covers : rows.length ≤ count * limit) :
    ¬PagesPartition key rows render limit count := by
  intro partition
  rcases Option.isSome_iff_exists.mp shown with ⟨answer, shown⟩
  rcases straddles with ⟨before, after⟩
  have positive : 0 < number * limit := by omega
  have numberPositive : 0 < number := Nat.pos_of_mul_pos_right positive
  have limitPositive : 0 < limit := Nat.pos_of_mul_pos_left positive
  have lastBefore : rows.countP (key · < key row) ≤ number * limit - 1 := by omega
  have lastInside : number * limit - 1 < rows.countP (key · ≤ key row) := by omega
  rcases exists_lists_getElem? member lastBefore lastInside with ⟨early, earlyLists, earlyFound⟩
  rcases exists_lists_getElem? member (Nat.le_of_lt before) after with
    ⟨late, lateLists, lateFound⟩
  have within : number < count := by
    have most := rows.countP_le_length (p := fun other => key other ≤ key row)
    exact Nat.lt_of_mul_lt_mul_right (by omega : number * limit < count * limit)
  have together := partition (fun other => if other < number then early else late)
    (fun other => by
      split
      · exact earlyLists
      · exact lateLists)
  have disjoint := (List.nodup_flatMap.mp (together.nodup_iff.mpr distinct)).2
  have apart := List.pairwise_iff_getElem.mp disjoint (number - 1) number
    (by rw [List.length_range]; omega) (by rw [List.length_range]; exact within) (by omega)
  simp only [List.getElem_range, Function.onFun] at apart
  have multiple : (number - 1) * limit + limit = number * limit := by
    rw [← Nat.succ_mul, Nat.succ_eq_add_one, Nat.sub_add_cancel numberPositive]
  apply apart (a := answer)
  · rw [if_pos (by omega)]
    exact List.mem_filterMap.mpr
      ⟨row, mem_pageAt earlyFound (by omega) (by omega), shown⟩
  · rw [if_neg (by omega)]
    exact List.mem_filterMap.mpr
      ⟨row, mem_pageAt lateFound (le_refl _) (by omega), shown⟩

/-- The pages partition the rows exactly if no shown row straddles a boundary
between them. -/
theorem pagesPartition_iff (distinct : (rows.filterMap render).Nodup)
    (covers : rows.length ≤ count * limit) :
    PagesPartition key rows render limit count ↔
      ∀ row ∈ rows, (render row).isSome = true →
        ∀ number, ¬Straddles key rows (number * limit) row := by
  constructor
  · intro partition row member shown number straddles
    exact not_pagesPartition distinct member shown straddles covers partition
  · intro clean listings lists
    have sorted := lists_insertionSort key rows
    have whole := flatMap_pages_perm count lists clean sorted
    rw [List.take_of_length_le (by rwa [sorted.perm.length_eq])] at whole
    exact whole.trans (sorted.perm.filterMap _)

theorem countP_le_eq_add (key : Row → K) (row : Row) (rows : List Row) :
    rows.countP (key · ≤ key row) =
      rows.countP (key · < key row) + rows.countP (key · = key row) := by
  induction rows with
  | nil => rfl
  | cons other rows induction =>
      rw [List.countP_cons, List.countP_cons, List.countP_cons, induction]
      rcases lt_trichotomy (key other) (key row) with less | equal | greater
      · simp [less, less.le, less.ne]
        omega
      · simp [equal]
        omega
      · simp [greater.not_gt, greater.not_ge, greater.ne']

theorem nodup_filterMap {Name : Type x} {name : Row → Name} (label : Shown → Name)
    (distinct : (rows.map name).Nodup)
    (named : ∀ row shown, render row = some shown → label shown = name row) :
    (rows.filterMap render).Nodup := by
  rw [List.Nodup, List.pairwise_filterMap]
  apply (List.pairwise_map.mp distinct).imp
  intro row other different shown found otherShown otherFound equal
  apply different
  rw [← named row shown found, ← named other otherShown otherFound, equal]

/-- Rows of distinct keys never straddle. -/
theorem not_straddles_of_distinct (distinct : (rows.map key).Nodup) :
    ¬Straddles key rows boundary row := by
  rintro ⟨before, after⟩
  have one : rows.countP (fun other => decide (key other = key row)) ≤ 1 := by
    have counted := List.nodup_iff_count_le_one.mp distinct (key row)
    rwa [List.count, List.countP_map] at counted
  rw [countP_le_eq_add] at after
  omega

/-! ## Listings of selected rows -/

theorem filter_orderedInsert {selected : Row → Bool} (left : selected row = false) :
    (listing.orderedInsert (fun row other => key row ≤ key other) row).filter selected =
      listing.filter selected := by
  induction listing with
  | nil => simp [left]
  | cons first listing induction =>
      rw [List.orderedInsert_cons]
      split
      · rw [List.filter_cons_of_neg (by simp [left])]
      · rw [List.filter_cons, List.filter_cons, induction]

theorem Lists.exists_filter {selected : Row → Bool} {matching : List Row}
    (lists : Lists key (rows.filter selected) matching) :
    ∃ listing, Lists key rows listing ∧ listing.filter selected = matching := by
  have split : ((rows.filter fun row => !selected row) ++ matching).Perm rows := by
    calc List.Perm _ (matching ++ rows.filter fun row => !selected row) := List.perm_append_comm
      List.Perm _ (rows.filter selected ++ rows.filter fun row => !selected row) :=
        lists.perm.append_right _
      List.Perm _ rows := List.filter_append_perm selected rows
  have others : ∀ row ∈ rows.filter (fun row => !selected row), selected row = false := by
    intro row member
    simpa using (List.mem_filter.mp member).2
  have sorted := lists_insertionSort key ((rows.filter fun row => !selected row) ++ matching)
  refine ⟨_, ⟨sorted.perm.trans split, sorted.sorted⟩, ?_⟩
  -- The rows that are not selected are inserted one by one into the matching ones.
  generalize rows.filter (fun row => !selected row) = remaining at others
  induction remaining with
  | nil =>
      rw [List.nil_append, lists.sorted.insertionSort_eq, List.filter_eq_self]
      exact fun row member => (List.mem_filter.mp (lists.perm.mem_iff.mp member)).2
  | cons row remaining induction =>
      rw [List.cons_append, List.insertionSort_cons, filter_orderedInsert (others row (by simp))]
      exact induction fun other member => others other (List.mem_cons_of_mem _ member)

end Order

end EvalForge.Foundation
