import Mathlib.Data.List.Perm.Basic
import Mathlib.Order.Lattice
import Mathlib.Order.Nat

/-!
# Reading an ordered table by pages

Every page is cut from the rows in some order by a key, and rows with equal keys may be
ordered anew for every page.  All pages together are the table, whatever the orders are,
exactly when no page ends between rows with equal keys.
-/

namespace DistributedComputing

namespace Pagination

variable {Row Key : Type*}

/-- A page of an ordered table. -/
def page (size : Nat) (rows : List Row) (index : Nat) : List Row :=
  (rows.drop (index * size)).take size

/-- The pages before the first empty one, one after the other. -/
def ReadsTo (pages : Nat → List Row) (all : List Row) : Prop :=
  ∃ count, (∀ index < count, pages index ≠ []) ∧ pages count = [] ∧
    all = (List.range count).flatMap pages

section Order

variable [LinearOrder Key] (key : Row → Key)

/-- The rows in an order by the key, the greatest first. -/
structure Ordered (rows ordered : List Row) : Prop where
  perm : ordered.Perm rows
  descending : ordered.Pairwise fun first second => key second ≤ key first

/-- How many rows come before those with a key, and how many up to the last of them. -/
def before (rows : List Row) (value : Key) : Nat :=
  rows.countP fun row => decide (value < key row)

def upTo (rows : List Row) (value : Key) : Nat :=
  rows.countP fun row => decide (value ≤ key row)

/-- No page ends between rows with equal keys. -/
def TiesWithinPages (size : Nat) (rows : List Row) : Prop :=
  ∀ index, ∀ row ∈ rows, index * size ≤ before key rows (key row) ∨
    upTo key rows (key row) ≤ index * size

variable {key} {rows ordered other : List Row}

/-- The place of a row among the keys. -/
theorem Ordered.place {front back : List Row} {row : Row}
    (isOrder : Ordered key rows (front ++ row :: back)) :
    before key rows (key row) ≤ front.length ∧ front.length < upTo key rows (key row) := by
  obtain ⟨_, notGreater, notLess⟩ := List.pairwise_append.mp isOrder.descending
  have counted : ∀ test : Row → Bool,
      rows.countP test = front.countP test + (row :: back).countP test := by
    intro test
    rw [← List.countP_append]
    exact (isOrder.perm.countP_eq test).symm
  constructor
  · have none : (row :: back).countP (fun other => decide (key row < key other)) = 0 := by
      rw [List.countP_eq_zero]
      intro other member
      rw [decide_eq_true_iff, not_lt]
      rcases List.mem_cons.mp member with rfl | later
      · exact le_rfl
      · exact (List.pairwise_cons.mp notGreater).1 other later
    rw [before, counted, none, Nat.add_zero]
    exact List.countP_le_length
  · have all : front.countP (fun other => decide (key row ≤ key other)) = front.length := by
      rw [List.countP_eq_length]
      intro other member
      exact decide_eq_true (notLess other member row List.mem_cons_self)
    rw [upTo, counted, all, List.countP_cons_of_pos (by simp)]
    omega

/-- The rows up to the end of a page that does not end between equal keys. -/
theorem Ordered.take_eq_filter (isOrder : Ordered key rows ordered) {bound : Nat}
    (together : ∀ row ∈ rows, bound ≤ before key rows (key row) ∨
      upTo key rows (key row) ≤ bound) :
    ordered.take bound =
      ordered.filter fun row => decide (upTo key rows (key row) ≤ bound) := by
  have inside : ∀ row ∈ ordered.take bound, upTo key rows (key row) ≤ bound := by
    intro row member
    obtain ⟨front, back, split⟩ := List.append_of_mem member
    have length : front.length < bound := by
      have taken := congrArg List.length split
      rw [List.length_take, List.length_append, List.length_cons] at taken
      omega
    rw [← List.take_append_drop bound ordered, split, List.append_assoc] at isOrder
    have place := isOrder.place.1
    have inRows : row ∈ rows := isOrder.perm.mem_iff.mp (by simp)
    rcases together row inRows with later | early
    · omega
    · exact early
  have outside : ∀ row ∈ ordered.drop bound, ¬ upTo key rows (key row) ≤ bound := by
    intro row member
    obtain ⟨front, back, split⟩ := List.append_of_mem member
    have length : (ordered.take bound).length = bound := by
      have dropped := congrArg List.length split
      rw [List.length_drop, List.length_append, List.length_cons] at dropped
      rw [List.length_take]
      omega
    rw [← List.take_append_drop bound ordered, split, ← List.append_assoc] at isOrder
    have place := isOrder.place.2
    rw [List.length_append, length] at place
    omega
  have whole := List.filter_append (p := fun row => decide (upTo key rows (key row) ≤ bound))
    (ordered.take bound) (ordered.drop bound)
  rw [List.take_append_drop] at whole
  rw [whole, List.filter_eq_self.mpr (by simpa using inside),
    List.filter_eq_nil_iff.mpr (by simpa using outside), List.append_nil]

/-- Whatever the orders are, a page shows the same rows. -/
theorem TiesWithinPages.page_perm {size : Nat} (within : TiesWithinPages key size rows)
    (isOrder : Ordered key rows ordered) (isOther : Ordered key rows other) (index : Nat) :
    (page size ordered index).Perm (page size other index) := by
  have taken : ∀ index, (ordered.take (index * size)).Perm (other.take (index * size)) := by
    intro index
    rw [isOrder.take_eq_filter (within index), isOther.take_eq_filter (within index)]
    exact (isOrder.perm.trans isOther.perm.symm).filter _
  have next := taken (index + 1)
  rw [Nat.succ_mul, List.take_add, List.take_add] at next
  exact (List.perm_append_left_iff _).mp ((taken index).append_right _ |>.symm.trans next)

/-! ## All pages together -/

theorem flatMap_page (size : Nat) (ordered : List Row) (count : Nat) :
    (List.range count).flatMap (page size ordered) = ordered.take (count * size) := by
  induction count with
  | zero => simp
  | succ count ih =>
      rw [List.range_succ, List.flatMap_append, ih, Nat.succ_mul, List.take_add]
      simp [page]

theorem TiesWithinPages.pages_perm {size : Nat} (within : TiesWithinPages key size rows)
    {orders : Nat → List Row} (isOrder : ∀ index, Ordered key rows (orders index)) {count : Nat}
    (enough : rows.length ≤ count * size) :
    ((List.range count).flatMap fun index => page size (orders index) index).Perm rows := by
  have alike : ((List.range count).flatMap fun index => page size (orders index) index).Perm
      ((List.range count).flatMap (page size (orders 0))) :=
    List.Perm.flatMap_left _ fun index _ =>
      within.page_perm (isOrder index) (isOrder 0) index
  refine alike.trans ?_
  rw [flatMap_page, List.take_of_length_le ((isOrder 0).perm.length_eq.trans_le enough)]
  exact (isOrder 0).perm

/-! ## A row on two pages -/

theorem upTo_le_before {lesser greater : Key} (less : lesser < greater) :
    upTo key rows greater ≤ before key rows lesser := by
  apply List.countP_mono_left
  intro row _ reached
  exact decide_eq_true (less.trans_le (of_decide_eq_true reached))

/-- A row is on the page that its place is on. -/
theorem mem_page {size index place : Nat} {row : Row} (found : ordered[place]? = some row)
    (least : index * size ≤ place) (most : place < (index + 1) * size) :
    row ∈ page size ordered index := by
  rw [Nat.succ_mul] at most
  apply List.mem_of_getElem? (i := place - index * size)
  rw [page, List.getElem?_take_of_lt (by omega), List.getElem?_drop,
    Nat.add_sub_cancel' least]
  exact found

/-- Neighbours with equal keys change places in another order. -/
theorem Ordered.swap {front back : List Row} {first second : Row}
    (isOrder : Ordered key rows (front ++ first :: second :: back))
    (same : key first = key second) : Ordered key rows (front ++ second :: first :: back) where
  perm := ((List.Perm.swap first second back).append_left front).trans isOrder.perm
  descending := by
    have descending := isOrder.descending
    simp only [List.pairwise_append, List.pairwise_cons, List.mem_cons] at descending ⊢
    obtain ⟨inFront, ⟨firstGreatest, secondGreatest, inBack⟩, across⟩ := descending
    refine ⟨inFront, ⟨?_, ?_, inBack⟩, ?_⟩
    · rintro row (rfl | member)
      · exact same.le
      · exact secondGreatest row member
    · exact fun row member => firstGreatest row (.inr member)
    · rintro row member other (rfl | rfl | later)
      · exact across row member other (.inr (.inl rfl))
      · exact across row member other (.inl rfl)
      · exact across row member other (.inr (.inr later))

/-- If a page ends between equal keys, then two orders show one row on that page and on the
next. -/
theorem exists_row_on_two_pages (isOrder : Ordered key rows ordered) {size : Nat}
    (positive : 0 < size) (split : ¬ TiesWithinPages key size rows) :
    ∃ first second index row, Ordered key rows first ∧ Ordered key rows second ∧
      row ∈ page size first index ∧ row ∈ page size second (index + 1) := by
  simp only [TiesWithinPages, not_forall, not_or, not_le, exists_prop] at split
  obtain ⟨boundary, row, _, started, unfinished⟩ := split
  have short : boundary * size < ordered.length := by
    rw [isOrder.perm.length_eq]
    exact lt_of_lt_of_le unfinished List.countP_le_length
  -- The rows on both sides of the boundary.
  obtain ⟨front, last, next, back, whole, length⟩ : ∃ front last next back,
      ordered = front ++ last :: next :: back ∧ front.length + 1 = boundary * size := by
    obtain ⟨place, isPlace⟩ : ∃ place, boundary * size = place + 1 :=
      Nat.exists_eq_succ_of_ne_zero (by omega)
    have fromLast := List.drop_eq_getElem_cons (l := ordered) (i := place) (by omega)
    have fromNext := List.drop_eq_getElem_cons (l := ordered) (i := place + 1) (by omega)
    refine ⟨ordered.take place, ordered[place], ordered[place + 1], ordered.drop (place + 2), ?_,
      ?_⟩
    · rw [← fromNext, ← fromLast, List.take_append_drop]
    · rw [List.length_take]
      omega
  subst whole
  have lastPlace := isOrder.place.2
  have nextPlace : before key rows (key next) ≤ front.length + 1 := by
    rw [List.append_cons] at isOrder
    simpa using isOrder.place.1
  have notBelow : key row ≤ key next := by
    by_contra below
    have few : upTo key rows _ ≤ before key rows _ := upTo_le_before (not_le.mp below)
    omega
  have notAbove : key last ≤ key row := by
    by_contra above
    have many : upTo key rows _ ≤ before key rows _ := upTo_le_before (not_le.mp above)
    omega
  have same : key last = key next := by
    have descending : key next ≤ key last := by
      have inBack := (List.pairwise_append.mp isOrder.descending).2.1
      exact (List.pairwise_cons.mp inBack).1 next List.mem_cons_self
    exact le_antisymm (notAbove.trans notBelow) descending
  obtain ⟨index, rfl⟩ : ∃ index, boundary = index + 1 := by
    apply Nat.exists_eq_succ_of_ne_zero
    rintro rfl
    omega
  have sizes : (index + 1) * size = index * size + size := Nat.succ_mul index size
  refine ⟨_, _, index, last, isOrder, isOrder.swap same, ?_, ?_⟩
  · have lastPlace : (front ++ last :: next :: back)[front.length]? = some last := by simp
    exact mem_page lastPlace (by omega) (by omega)
  · have swapped : (front ++ next :: last :: back)[front.length + 1]? = some last := by simp
    apply mem_page swapped (by omega)
    rw [Nat.succ_mul]
    omega

end Order

end Pagination

end DistributedComputing
