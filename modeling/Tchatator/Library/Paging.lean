/-
**Offset paging over a list that may grow between two fetches.**

A reader asks for the items at positions `offset .. offset + size - 1`, then for the next `size`
ones, until a page comes back empty; between two fetches the list may have become another one.

* **`cut_disjoint`** — different pages have no item in common;
* `Browse size grows offset items pages` — `pages` is what such a reader gets from `items`
  on, when each list is related to the next by `grows`;
* **`Browse.covers`** — when items are only ever inserted (each list is a sublist of the next),
  nothing that stood at or after `offset` is missed: an insertion moves an item towards the pages
  still to come, never past them;
* **`Browse.flatten_eq`** — when nothing changes, the pages are the list, cut.
-/

import Mathlib.Data.List.Basic

namespace Paging

variable {α : Type*}

/-- The items at positions `offset .. offset + size - 1`. -/
def cut (size offset : Nat) (items : List α) : List α := (items.drop offset).take size

theorem cut_append_drop (size offset : Nat) (items : List α) :
    cut size offset items ++ items.drop (offset + size) = items.drop offset := by
  rw [cut, ← List.drop_drop, List.take_append_drop]

theorem mem_of_mem_cut {size offset : Nat} {items : List α} {item : α}
    (member : item ∈ cut size offset items) : item ∈ items :=
  List.mem_of_mem_drop (List.mem_of_mem_take member)

/-- The items of a page, by position. -/
theorem getElem?_cut (size offset index : Nat) (items : List α) :
    (cut size offset items)[index]? = if index < size then items[offset + index]? else none := by
  rw [cut, List.getElem?_take, List.getElem?_drop]

/-- Different pages have no position in common. -/
theorem position_ne {size page other index position : Nat} (inPage : index < size)
    (inOther : position < size) (different : page ≠ other) :
    size * page + index ≠ size * other + position := by
  intro same
  have divided : ∀ {page index : Nat}, index < size → (size * page + index) / size = page := by
    intro page index within
    rw [Nat.mul_add_div (Nat.zero_lt_of_lt within), Nat.div_eq_of_lt within, Nat.add_zero]
  exact different ((divided inPage).symm.trans ((congrArg (· / size) same).trans (divided inOther)))

/-- **Different pages have no item in common**, when the items have different keys. -/
theorem cut_disjoint {κ : Type*} {key : α → κ} {items : List α} (unique : (items.map key).Nodup)
    {size page other : Nat} (different : page ≠ other) :
    ∀ first ∈ cut size (size * page) items, ∀ second ∈ cut size (size * other) items,
      key first ≠ key second := by
  intro first inPage second inOther same
  obtain ⟨index, isFirst⟩ := List.mem_iff_getElem?.mp inPage
  obtain ⟨position, isSecond⟩ := List.mem_iff_getElem?.mp inOther
  rw [getElem?_cut] at isFirst isSecond
  split at isFirst
  · rename_i within
    split at isSecond
    · rename_i withinOther
      have keyOf : ∀ {position : Nat} {item : α}, items[position]? = some item →
          (items.map key)[position]? = some (key item) := by
        intro position item isItem
        rw [List.getElem?_map, isItem]
        rfl
      have firstKey := keyOf isFirst
      have inBounds := (List.getElem?_eq_some_iff.mp firstKey).1
      refine position_ne within withinOther different
        ((List.getElem?_inj inBounds unique).mp ?_)
      rw [firstKey, keyOf isSecond, same]
    · cases isSecond
  · cases isFirst

/-- A page is no longer than its size. -/
theorem take_cut (size offset : Nat) (items : List α) :
    (cut size offset items).take size = cut size offset items :=
  List.take_of_length_le (List.length_take_le _ _)

/-- A page of positive size is empty only past the end. -/
theorem drop_eq_nil_of_cut {size offset : Nat} {items : List α} (positive : 0 < size)
    (empty : cut size offset items = []) : items.drop offset = [] := by
  rcases List.take_eq_nil_iff.mp empty with zero | past
  · omega
  · exact past

/-- **The pages a reader gets**, from `offset` on, until one is empty. -/
inductive Browse (size : Nat) (grows : List α → List α → Prop) :
    Nat → List α → List (List α) → Prop
  | stop (offset : Nat) (items : List α) :
      cut size offset items = [] → Browse size grows offset items [[]]
  | next (offset : Nat) (items later : List α) (pages : List (List α)) :
      cut size offset items ≠ [] → grows items later →
      Browse size grows (offset + size) later pages →
      Browse size grows offset items (cut size offset items :: pages)

namespace Browse

variable {size offset : Nat} {items : List α} {pages : List (List α)}

/-- **Nothing is lost while items are inserted.** -/
theorem covers (positive : 0 < size) (browse : Browse size List.Sublist offset items pages) :
    ∀ item ∈ items.drop offset, ∃ page ∈ pages, item ∈ page := by
  induction browse with
  | stop offset items empty =>
    intro item member
    rw [drop_eq_nil_of_cut positive empty] at member
    cases member
  | next offset items later pages _ grows _ ih =>
    intro item member
    rw [← cut_append_drop size] at member
    rcases List.mem_append.mp member with here | after
    · exact ⟨_, List.mem_cons_self, here⟩
    · obtain ⟨page, inPages, inside⟩ := ih item ((grows.drop (offset + size)).subset after)
      exact ⟨page, List.mem_cons_of_mem _ inPages, inside⟩

/-- **Without changes, the pages are the list, cut.** -/
theorem flatten_eq (positive : 0 < size) (browse : Browse size Eq offset items pages) :
    pages.flatten = items.drop offset := by
  induction browse with
  | stop offset items empty =>
    rw [drop_eq_nil_of_cut positive empty]
    rfl
  | next offset items later pages _ same _ ih =>
    subst same
    rw [List.flatten_cons, ih, cut_append_drop]

end Browse

end Paging
