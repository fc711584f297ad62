import QueryWorkload.Proofs.Draw
import QueryWorkload.Proofs.Permutation

set_option autoImplicit false

namespace QueryWorkload

namespace Shuffle

structure Chunk.Covers (c : Chunk) (place : Nat) : Prop where
  first : c.first = place
  positive : 0 < c.places
  bound : c.bound = (place + 1).ascFactorial c.places

theorem Chunk.grow_covers (place fuel : Nat) {places bound : Nat} (positive : 0 < places)
    (product : bound = (place + 1).ascFactorial places) :
    (Chunk.grow place fuel places bound).Covers place := by
  induction fuel generalizing places bound with
  | zero => exact ⟨rfl, positive, product⟩
  | succ fuel ih =>
    simp only [Chunk.grow]
    split_ifs
    · apply ih (Nat.succ_pos places)
      rw [product, Nat.ascFactorial_succ]
      ring
    · exact ⟨rfl, positive, product⟩

theorem Chunk.at_covers (place : Nat) : (Chunk.at place).Covers place := by
  apply Chunk.grow_covers place 32 Nat.one_pos
  rw [Nat.ascFactorial_succ, Nat.ascFactorial_zero]
  ring

-- The chunks of the places `place, …, total - 1`.
def chunksFrom : Nat → Nat → Nat → List Chunk
  | 0, _, _ => []
  | fuel + 1, place, total =>
    if total ≤ place then []
    else Chunk.at place :: chunksFrom fuel (place + (Chunk.at place).places) total

def chunks (count total : Nat) : List Chunk :=
  chunksFrom count (if total = count then 1 else total - count) total

def Bounded (chunks : List Chunk) : Set (List Nat) :=
  {values | List.Forall₂ (fun value c => value < c.bound) values chunks}

def heldFrom (total : Nat) : List Chunk → List Nat → List Nat
  | c :: chunks, value :: values => c.swaps (total - c.first) value ++ heldFrom total chunks values
  | _, _ => []

def held (count total : Nat) (values : List Nat) : List Nat :=
  let later := heldFrom total (chunks count total) values
  if total = count ∧ 0 < count then 0 :: later else later

def indices (count total : Nat) (values : List Nat) : List Nat :=
  chosen count total (held count total values)

section Drawing

variable {σ : Type} [WordSource σ]

def drawn : List Chunk → σ → List Nat × σ
  | [], s => ([], s)
  | c :: chunks, s =>
    let (value, s) := Draw.below32 c.bound s
    let (values, s) := drawn chunks s
    (value :: values, s)

theorem drawFrom_eq (fuel place total : Nat) (s : σ) :
    drawFrom fuel place total s =
      (heldFrom total (chunksFrom fuel place total) (drawn (chunksFrom fuel place total) s).1,
        (drawn (chunksFrom fuel place total) s).2) := by
  induction fuel generalizing place s with
  | zero => rfl
  | succ fuel ih =>
    by_cases done : total ≤ place
    · simp [drawFrom, chunksFrom, done, heldFrom, drawn]
    · simp [drawFrom, chunksFrom, done, heldFrom, drawn, ih, (Chunk.at_covers place).first]

theorem draw_eq (count total : Nat) (s : σ) :
    draw count total s =
      (held count total (drawn (chunks count total) s).1, (drawn (chunks count total) s).2) := by
  by_cases whole : total = count
  · by_cases none : count = 0
    · subst none
      subst whole
      rfl
    · simp [draw, whole, held, chunks, drawFrom_eq, none, Nat.pos_of_ne_zero none]
  · simp [draw, whole, held, chunks, drawFrom_eq]

theorem bound_pos_of_mem_chunksFrom {fuel place total : Nat} {c : Chunk}
    (member : c ∈ chunksFrom fuel place total) : 0 < c.bound := by
  induction fuel generalizing place with
  | zero => cases member
  | succ fuel ih =>
    rw [chunksFrom] at member
    split_ifs at member
    · cases member
    · rcases List.mem_cons.1 member with rfl | later
      · rw [(Chunk.at_covers place).bound]
        exact Nat.ascFactorial_pos _ _
      · exact ih later

theorem drawn_bounded {chunks : List Chunk} (positive : ∀ c ∈ chunks, 0 < c.bound) (s : σ) :
    (drawn chunks s).1 ∈ Bounded chunks := by
  induction chunks generalizing s with
  | nil => exact .nil
  | cons c chunks ih =>
    have here := Draw.below32_lt (positive c List.mem_cons_self) s
    have later := ih (fun c' member => positive c' (List.mem_cons_of_mem c member))
      (Draw.below32 c.bound s).2
    exact .cons here later

end Drawing

theorem bounded_nil : Bounded [] = {[]} := by
  ext values
  exact List.forall₂_nil_right_iff

theorem bounded_cons (c : Chunk) (chunks : List Chunk) :
    Bounded (c :: chunks) = Set.image2 List.cons (Set.Iio c.bound) (Bounded chunks) := by
  ext values
  constructor
  · rintro (_ | ⟨here, later⟩)
    exact ⟨_, here, _, later, rfl⟩
  · rintro ⟨value, here, values, later, rfl⟩
    exact .cons here later

theorem swaps_split (place places total : Nat) :
    Swaps place (total - place) = Set.image2 (· ++ ·) (Swaps place (min (total - place) places))
      (Swaps (place + places) (total - (place + places))) := by
  by_cases inside : places ≤ total - place
  · rw [Nat.min_eq_right inside, ← swaps_add]
    congr 1
    omega
  · have last : total - (place + places) = 0 := by omega
    rw [Nat.min_eq_left (by omega), last, swaps_zero, ← swaps_zero (place + (total - place)),
      ← swaps_add, Nat.add_zero]

theorem heldFrom_nil_spread (place total : Nat) :
    Spreads (heldFrom total []) (Bounded []) (Swaps place 0) := by
  rw [bounded_nil, swaps_zero]
  exact .const [] (Set.finite_singleton _) (Set.singleton_nonempty _)

-- By induction on the chunks. The last one may hold more places than are left; those are given up.
theorem heldFrom_spread (fuel place total : Nat) (enough : total - place ≤ fuel) :
    Spreads (heldFrom total (chunksFrom fuel place total)) (Bounded (chunksFrom fuel place total))
      (Swaps place (total - place)) := by
  induction fuel generalizing place with
  | zero =>
    rw [Nat.le_zero.1 enough]
    exact heldFrom_nil_spread place total
  | succ fuel ih =>
    by_cases done : total ≤ place
    · rw [chunksFrom, if_pos done, Nat.sub_eq_zero_of_le done]
      exact heldFrom_nil_spread place total
    · have covers := Chunk.at_covers place
      have here := Chunk.swaps_spread place covers.positive (total - place)
      have positive := covers.positive
      have later := ih (place + (Chunk.at place).places) (by omega)
      rw [chunksFrom, if_neg done, bounded_cons, covers.bound,
        swaps_split place (Chunk.at place).places total]
      refine here.append later ?_ ?_ fun swaps member => member.1
      · intro value _ value' _ values values' same
        exact List.cons.inj same
      · intro value _ values
        simp only [heldFrom, Chunk.swaps, covers.first]

-- The first place of all has one swap only.
theorem cons_zero_bijOn (n : Nat) : Set.BijOn (List.cons 0) (Swaps 1 n) (Swaps 0 (n + 1)) := by
  refine ⟨?_, fun _ _ _ _ same => (List.cons.inj same).2, ?_⟩
  · rintro swaps ⟨length, fits⟩
    exact ⟨congrArg (· + 1) length, Nat.le_refl 0, fits⟩
  · rintro (_ | ⟨j, swaps⟩) ⟨length, fits⟩
    · cases length
    · rw [Nat.le_zero.1 fits.1]
      exact ⟨swaps, ⟨Nat.succ.inj length, fits.2⟩, rfl⟩

theorem held_spread {count total : Nat} (positive : 1 ≤ count) (fits : count ≤ total) :
    Spreads (held count total) (Bounded (chunks count total)) (Swaps (total - count) count) := by
  by_cases whole : total = count
  · obtain ⟨n, rfl⟩ : ∃ n, count = n + 1 := ⟨count - 1, by omega⟩
    subst whole
    have later := heldFrom_spread (n + 1) 1 (n + 1) (by omega)
    have values : held (n + 1) (n + 1) =
        fun values => 0 :: heldFrom (n + 1) (chunksFrom (n + 1) 1 (n + 1)) values := by
      funext values
      simp [held, chunks]
    rw [values, Nat.sub_self, chunks, if_pos rfl]
    exact later.comp (cons_zero_bijOn n)
  · have spread := heldFrom_spread count (total - count) total (by omega)
    have values : held count total = heldFrom total (chunksFrom count (total - count) total) := by
      funext values
      simp [held, chunks, whole]
    rw [values, chunks, if_neg whole]
    rwa [Nat.sub_sub_self fits] at spread

theorem indices_spread {count total : Nat} (positive : 1 ≤ count) (fits : count ≤ total) :
    Spreads (indices count total) (Bounded (chunks count total)) (Selections total count) := by
  have chosen := (held_spread positive fits).comp (chosen_bijOn fits)
  exact chosen

end Shuffle

namespace Names

open Shuffle

variable {σ : Type} [WordSource σ]

/-- Names stand for the indices that the numbers of the chunks choose, and every ordered choice of
`count` different indices is chosen by the same number of sequences of such numbers. -/
theorem draw_equally_likely (kind : EntityKind) {count total : Nat} (positive : 1 ≤ count)
    (fits : count ≤ total) (small : total < UInt32.size) :
    (∀ s : σ, (drawn (chunks count total) s).1 ∈ Bounded (chunks count total) ∧
      draw kind count total s =
        (.ok ((indices count total (drawn (chunks count total) s).1).map (name kind)),
          (drawn (chunks count total) s).2)) ∧
    (∀ values ∈ Bounded (chunks count total), indices count total values ∈ Selections total count) ∧
    ∃ n, 0 < n ∧ ∀ selection ∈ Selections total count,
      {values ∈ Bounded (chunks count total) |
        indices count total values = selection}.ncard = n := by
  have spread := indices_spread positive fits
  refine ⟨fun s => ⟨drawn_bounded (fun c => bound_pos_of_mem_chunksFrom) s, ?_⟩, spread.maps,
    spread.share⟩
  have memory : total * indexSize < Text.signedLimit := by
    have small : total < 4294967296 := small
    simp only [indexSize, Text.signedLimit]
    omega
  have checked : check kind count total = .ok () :=
    (check_ok_iff kind count total).2
      ⟨(checkCount_ok_iff _ _ _).2 ⟨positive, fits⟩, (Fault.checkMemory_ok_iff _ _).2 memory⟩
  rw [draw_of_ok checked, draw_eq]
  rfl

theorem draw_equally_likely_of_three :
    ∃ n, 0 < n ∧
      {values ∈ Bounded (chunks 2 3) | indices 2 3 values = [0, 1]}.ncard = n ∧
      {values ∈ Bounded (chunks 2 3) | indices 2 3 values = [2, 0]}.ncard = n := by
  obtain ⟨_, _, n, positive, equal⟩ :=
    draw_equally_likely (σ := Script) .host (show 1 ≤ 2 by decide) (show 2 ≤ 3 by decide) (by decide)
  exact ⟨n, positive, equal _ ⟨rfl, by decide, by decide⟩, equal _ ⟨rfl, by decide, by decide⟩⟩

end Names

end QueryWorkload
