import Mathlib.Algebra.Group.End
import Mathlib.Data.List.GetD
import Mathlib.Data.List.Nodup
import Mathlib.Data.List.Range
import Mathlib.Logic.Equiv.Basic
import QueryWorkload.Proofs.Names
import QueryWorkload.Proofs.Spread

set_option autoImplicit false

namespace QueryWorkload.Shuffle

open Equiv (swap)

-- Where the number at a place was before the swaps of the places from `place` on.
def origin (place : Nat) : List Nat → Equiv.Perm Nat
  | [] => 1
  | j :: rest => swap place j * origin (place + 1) rest

theorem origin_append (place : Nat) (left right : List Nat) :
    origin place (left ++ right) = origin place left * origin (place + left.length) right := by
  induction left generalizing place with
  | nil => simp [origin]
  | cons j left ih => simp [origin, ih, mul_assoc, Nat.add_assoc, Nat.add_comm 1]

theorem origin_concat (place : Nat) (swaps : List Nat) (j p : Nat) :
    origin place (swaps ++ [j]) p = origin place swaps (swap (place + swaps.length) j p) := by
  simp [origin_append, origin]

theorem getElem?_swapIfInBounds {indices : Array Nat} {i j : Nat} (left : i < indices.size)
    (right : j < indices.size) (k : Nat) :
    (indices.swapIfInBounds i j)[k]? = indices[swap i j k]? := by
  rw [Array.swapIfInBounds_def, dif_pos left, dif_pos right, Array.getElem?_swap]
  by_cases atSecond : j = k
  · subst atSecond
    rw [if_pos rfl, Equiv.swap_apply_right, Array.getElem?_eq_getElem left]
  · rw [if_neg atSecond]
    by_cases atFirst : i = k
    · subst atFirst
      rw [if_pos rfl, Equiv.swap_apply_left, Array.getElem?_eq_getElem right]
    · rw [if_neg atFirst, Equiv.swap_apply_of_ne_of_ne (Ne.symm atFirst) (Ne.symm atSecond)]

theorem getElem?_apply {indices : Array Nat} {place : Nat} {swaps : List Nat}
    (fits : Fits place swaps) (inside : place + swaps.length ≤ indices.size) (i : Nat) :
    (apply indices place swaps)[i]? = indices[origin place swaps i]? := by
  induction swaps generalizing indices place with
  | nil => rfl
  | cons j rest ih =>
    rw [List.length_cons] at inside
    have later : place + 1 + rest.length ≤ (indices.swapIfInBounds place j).size := by
      rw [Array.size_swapIfInBounds]
      omega
    have here : place < indices.size := by omega
    have there : j < indices.size := Nat.lt_of_le_of_lt fits.1 here
    rw [apply, ih fits.2 later, getElem?_swapIfInBounds here there]
    rfl

theorem origin_of_le {place : Nat} {swaps : List Nat} (fits : Fits place swaps) {p : Nat}
    (past : place + swaps.length ≤ p) : origin place swaps p = p := by
  induction swaps generalizing place with
  | nil => rfl
  | cons j rest ih =>
    rw [List.length_cons] at past
    have later : origin (place + 1) rest p = p := ih fits.2 (by omega)
    have other : p ≠ place := by omega
    have other' : p ≠ j := by
      have low := fits.1
      omega
    rw [origin, Equiv.Perm.mul_apply, later, Equiv.swap_apply_of_ne_of_ne other other']

theorem origin_lt {place : Nat} {swaps : List Nat} (fits : Fits place swaps) {p : Nat}
    (before : p < place + swaps.length) : origin place swaps p < place + swaps.length := by
  by_contra past
  have fixed := origin_of_le fits (Nat.le_of_not_lt past)
  have same := (origin place swaps).injective fixed
  omega

theorem swaps_succ (place n : Nat) {swaps : List Nat} (member : swaps ∈ Swaps place (n + 1)) :
    ∃ left ∈ Swaps place n, ∃ j ≤ place + n, swaps = left ++ [j] := by
  rw [swaps_add] at member
  obtain ⟨left, inside, last, one, rfl⟩ := member
  obtain ⟨j, below, rfl⟩ := (swaps_one (place + n)).surjOn one
  exact ⟨left, inside, j, Nat.le_of_lt_succ below, rfl⟩

theorem concat_mem_swaps {place n j : Nat} {left : List Nat} (member : left ∈ Swaps place n)
    (low : j ≤ place + n) : left ++ [j] ∈ Swaps place (n + 1) := by
  rw [swaps_add]
  exact ⟨left, member, [j], (swaps_one (place + n)).mapsTo (Nat.lt_succ_of_le low), rfl⟩

-- The last place of all has its own number still, so the last swap shows where that went.
theorem origin_concat_eq_last {place n j : Nat} {early : List Nat} (inside : early ∈ Swaps place n)
    (p : Nat) : origin place (early ++ [j]) p = place + n ↔ p = j := by
  have fixed : origin place early (place + n) = place + n :=
    origin_of_le inside.2 (Nat.le_of_eq (by rw [inside.1]))
  rw [origin_concat, inside.1]
  constructor
  · intro shown
    have back : swap (place + n) j p = place + n :=
      (origin place early).injective (shown.trans fixed.symm)
    exact (swap (place + n) j).injective (back.trans (Equiv.swap_apply_right _ _).symm)
  · rintro rfl
    rw [Equiv.swap_apply_right, fixed]

theorem origin_concat_of_ne {place n j p : Nat} {early : List Nat} (inside : early ∈ Swaps place n)
    (before : p < place + n) (other : p ≠ j) :
    origin place (early ++ [j]) p = origin place early p := by
  rw [origin_concat, inside.1, Equiv.swap_apply_of_ne_of_ne (Nat.ne_of_lt before) other]

theorem origin_concat_last {place n j : Nat} {early : List Nat} (inside : early ∈ Swaps place n) :
    origin place (early ++ [j]) (place + n) = origin place early j := by
  rw [origin_concat, inside.1, Equiv.swap_apply_left]

-- By induction on the number of places: the last swap shows, and undoing it leaves the others.
theorem eq_of_origin_eq {place n : Nat} {swaps swaps' : List Nat} (left : swaps ∈ Swaps place n)
    (right : swaps' ∈ Swaps place n)
    (same : ∀ p, place ≤ p → p < place + n → origin place swaps p = origin place swaps' p) :
    swaps = swaps' := by
  induction n generalizing swaps swaps' with
  | zero =>
    rw [swaps_zero] at left right
    rw [left, right]
  | succ n ih =>
    obtain ⟨early, inside, j, low, rfl⟩ := swaps_succ place n left
    obtain ⟨early', inside', j', low', rfl⟩ := swaps_succ place n right
    have last := same (place + n) (Nat.le_add_right place n) (Nat.lt_succ_self _)
    rw [origin_concat_last inside, origin_concat_last inside'] at last
    have shown : place ≤ j ∨ place ≤ j' → j = j' := by
      rintro (late | late)
      · have top := (origin_concat_eq_last inside j).2 rfl
        rw [same j late (Nat.lt_succ_of_le low)] at top
        exact (origin_concat_eq_last inside' j).1 top
      · have top := (origin_concat_eq_last inside' j').2 rfl
        rw [← same j' late (Nat.lt_succ_of_le low')] at top
        exact ((origin_concat_eq_last inside j').1 top).symm
    have earlier : early = early' := by
      apply ih inside inside'
      intro p late before
      by_cases here : p = j
      · subst here
        rw [last, shown (.inl late)]
      · have there : p ≠ j' := by
          rintro rfl
          exact here (shown (.inr late)).symm
        rw [← origin_concat_of_ne inside before here, ← origin_concat_of_ne inside' before there]
        exact same p late (Nat.lt_succ_of_lt before)
    subst earlier
    rw [(origin place early).injective last]

section Bringing

variable {place n : Nat} {g : Nat → Nat}

theorem mem_ico_succ {p : Nat} :
    p ∈ Set.Ico place (place + (n + 1)) ↔ p = place + n ∨ p ∈ Set.Ico place (place + n) := by
  simp only [Set.mem_Ico]
  omega

theorem swap_mem_ico_succ {k p : Nat} (member : k ∈ Set.Ico place (place + (n + 1)))
    (earlier : p ∈ Set.Ico place (place + n)) :
    swap (place + n) k p ∈ Set.Ico place (place + (n + 1)) := by
  rw [Equiv.swap_apply_def]
  split_ifs
  · exact member
  · exact mem_ico_succ.2 (.inl rfl)
  · exact mem_ico_succ.2 (.inr earlier)

theorem swap_ne_of_earlier {k p : Nat} (earlier : p ∈ Set.Ico place (place + n)) :
    swap (place + n) k p ≠ k := by
  intro moved
  have last := (swap (place + n) k).injective (moved.trans (Equiv.swap_apply_left _ k).symm)
  exact Nat.ne_of_lt earlier.2 last

-- The place that shows the last number got it by the last swap, for the number it had before.
theorem origin_concat_of_shown {k : Nat} {early : List Nat} (inside : early ∈ Swaps place n)
    (member : k ∈ Set.Ico place (place + (n + 1))) (top : g k = place + n)
    (agrees : ∀ p ∈ Set.Ico place (place + n), origin place early p = g (swap (place + n) k p)) :
    ∀ p ∈ Set.Ico place (place + (n + 1)), origin place (early ++ [k]) p = g p := by
  intro p left
  by_cases here : p = k
  · rw [(origin_concat_eq_last inside p).2 here, here, top]
  · rcases mem_ico_succ.1 left with rfl | earlier
    · have before := (mem_ico_succ.1 member).resolve_left (Ne.symm here)
      rw [origin_concat_last inside, agrees k before, Equiv.swap_apply_right]
    · rw [origin_concat_of_ne inside earlier.2 here, agrees p earlier,
        Equiv.swap_apply_of_ne_of_ne (Nat.ne_of_lt earlier.2) here]

-- Otherwise the number that is to stand last is taken from wherever it is.
theorem origin_concat_of_taken {j : Nat} {early : List Nat} (inside : early ∈ Swaps place n)
    (injective : Set.InjOn g (Set.Ico place (place + (n + 1))))
    (taken : origin place early j = g (place + n))
    (agrees : ∀ p ∈ Set.Ico place (place + n), origin place early p = g p) :
    ∀ p ∈ Set.Ico place (place + (n + 1)), origin place (early ++ [j]) p = g p := by
  intro p left
  rcases mem_ico_succ.1 left with rfl | earlier
  · rw [origin_concat_last inside, taken]
  · have other : p ≠ j := by
      rintro rfl
      rw [agrees _ earlier] at taken
      have last := injective left (mem_ico_succ.2 (.inl rfl)) taken
      exact Nat.ne_of_lt earlier.2 last
    rw [origin_concat_of_ne inside earlier.2 other, agrees p earlier]

theorem exists_origin_eq (injective : Set.InjOn g (Set.Ico place (place + n)))
    (below : ∀ p ∈ Set.Ico place (place + n), g p < place + n) :
    ∃ swaps ∈ Swaps place n, ∀ p ∈ Set.Ico place (place + n), origin place swaps p = g p := by
  induction n generalizing g with
  | zero =>
    refine ⟨[], by rw [swaps_zero]; rfl, ?_⟩
    rintro p ⟨late, before⟩
    omega
  | succ n ih =>
    by_cases shown : ∃ k ∈ Set.Ico place (place + (n + 1)), g k = place + n
    · obtain ⟨k, member, top⟩ := shown
      have apart : Set.InjOn (fun p => g (swap (place + n) k p)) (Set.Ico place (place + n)) := by
        intro p left q right same
        exact (swap (place + n) k).injective
          (injective (swap_mem_ico_succ member left) (swap_mem_ico_succ member right) same)
      have lower : ∀ p ∈ Set.Ico place (place + n), g (swap (place + n) k p) < place + n := by
        intro p earlier
        have moved := swap_mem_ico_succ member earlier
        have bound := below _ moved
        have other : g (swap (place + n) k p) ≠ place + n := fun same =>
          swap_ne_of_earlier earlier (injective moved member (same.trans top.symm))
        omega
      obtain ⟨early, inside, agrees⟩ := ih apart lower
      exact ⟨early ++ [k], concat_mem_swaps inside (Nat.le_of_lt_succ member.2),
        origin_concat_of_shown inside member top agrees⟩
    · have lower {p : Nat} (left : p ∈ Set.Ico place (place + (n + 1))) : g p < place + n := by
        have bound := below p left
        have other : g p ≠ place + n := fun same => shown ⟨p, left, same⟩
        omega
      have wider : Set.Ico place (place + n) ⊆ Set.Ico place (place + (n + 1)) :=
        fun p earlier => mem_ico_succ.2 (.inr earlier)
      obtain ⟨early, inside, agrees⟩ := ih (injective.mono wider) fun p earlier =>
        lower (wider earlier)
      obtain ⟨j, taken⟩ := (origin place early).surjective (g (place + n))
      have low : j ≤ place + n := by
        by_contra past
        have fixed : origin place early j = j := origin_of_le inside.2 (by rw [inside.1]; omega)
        have bound := lower (mem_ico_succ.2 (.inl rfl))
        omega
      exact ⟨early ++ [j], concat_mem_swaps inside low,
        origin_concat_of_taken inside injective taken agrees⟩

end Bringing

def Selections (total n : Nat) : Set (List Nat) :=
  {chosen | chosen.length = n ∧ chosen.Nodup ∧ ∀ i ∈ chosen, i < total}

theorem chosen_eq_map {count total : Nat} (fits : count ≤ total) {swaps : List Nat}
    (member : swaps ∈ Swaps (total - count) count) :
    chosen count total swaps =
      (List.range' (total - count) count).map (origin (total - count) swaps) := by
  have whole : total - count + swaps.length = total := by
    rw [member.1]
    omega
  have inside : total - count + swaps.length ≤ (Array.range total).size := by
    rw [whole, Array.size_range]
  apply List.ext_getElem?
  intro i
  rw [chosen, Array.getElem?_toList, Array.getElem?_extract, getElem?_apply member.2 inside,
    List.getElem?_map, size_apply, Array.size_range, Nat.min_self, Array.getElem?_range]
  by_cases here : i < count
  · have below : origin (total - count) swaps (total - count + i) < total := by
      have bound := origin_lt member.2 (p := total - count + i) (by omega)
      rwa [whole] at bound
    rw [if_pos (by omega), if_pos below, List.getElem?_range' here, Nat.one_mul]
    rfl
  · rw [if_neg (by omega), List.getElem?_eq_none (by rw [List.length_range']; omega)]
    rfl

theorem mem_range'_iff_mem_ico {place n p : Nat} :
    p ∈ List.range' place n ↔ p ∈ Set.Ico place (place + n) := by
  rw [List.mem_range'_1]
  rfl

theorem map_getD_range' (place : Nat) (l : List Nat) :
    (List.range' place l.length).map (fun p => l.getD (p - place) 0) = l := by
  apply List.ext_getElem?
  intro i
  rw [List.getElem?_map]
  by_cases here : i < l.length
  · rw [List.getElem?_range' here, Nat.one_mul, Option.map_some, Nat.add_sub_cancel_left,
      List.getD_eq_getElem l 0 here, List.getElem?_eq_getElem here]
  · rw [List.getElem?_eq_none (by rw [List.length_range']; omega),
      List.getElem?_eq_none (Nat.le_of_not_lt here)]
    rfl

theorem chosen_bijOn {count total : Nat} (fits : count ≤ total) :
    Set.BijOn (chosen count total) (Swaps (total - count) count) (Selections total count) := by
  have whole : total - count + count = total := Nat.sub_add_cancel fits
  refine ⟨?_, ?_, ?_⟩
  · intro swaps member
    rw [chosen_eq_map fits member]
    refine ⟨?_, (List.nodup_range' _ Nat.one_pos).map (origin _ swaps).injective, ?_⟩
    · rw [List.length_map, List.length_range']
    · intro i among
      obtain ⟨p, place, rfl⟩ := List.mem_map.1 among
      have before := (mem_range'_iff_mem_ico.1 place).2
      have bound := origin_lt member.2 (p := p) (by rwa [member.1])
      rwa [member.1, whole] at bound
  · intro swaps left swaps' right same
    rw [chosen_eq_map fits left, chosen_eq_map fits right] at same
    apply eq_of_origin_eq left right
    intro p late before
    exact List.map_inj_left.1 same p (mem_range'_iff_mem_ico.2 ⟨late, before⟩)
  · rintro l ⟨length, apart, below⟩
    subst length
    let g := fun p => l.getD (p - (total - l.length)) 0
    have shown : (List.range' (total - l.length) l.length).map g = l := map_getD_range' _ l
    have injective : Set.InjOn g (Set.Ico (total - l.length) (total - l.length + l.length)) := by
      intro p left q right same
      rw [← shown] at apart
      exact List.inj_on_of_nodup_map apart (mem_range'_iff_mem_ico.2 left)
        (mem_range'_iff_mem_ico.2 right) same
    have bounds : ∀ p ∈ Set.Ico (total - l.length) (total - l.length + l.length),
        g p < total - l.length + l.length := by
      intro p place
      rw [whole]
      apply below
      rw [← shown]
      exact List.mem_map_of_mem (mem_range'_iff_mem_ico.2 place)
    obtain ⟨swaps, member, agrees⟩ := exists_origin_eq injective bounds
    have same : (List.range' (total - l.length) l.length).map (origin _ swaps) =
        (List.range' (total - l.length) l.length).map g :=
      List.map_congr_left fun p place => agrees p (mem_range'_iff_mem_ico.1 place)
    refine ⟨swaps, member, ?_⟩
    rw [chosen_eq_map fits member, same, shown]

end QueryWorkload.Shuffle
