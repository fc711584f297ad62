import Mathlib.Data.Nat.Factorial.Basic
import Mathlib.Data.Set.Card.Arithmetic
import Mathlib.Order.Interval.Finset.Nat
import QueryWorkload.Random.Shuffle

set_option autoImplicit false

namespace QueryWorkload

structure Spreads {α β : Type} (f : α → β) (source : Set α) (target : Set β) : Prop where
  maps : Set.MapsTo f source target
  share : ∃ n, 0 < n ∧ ∀ b ∈ target, {a ∈ source | f a = b}.ncard = n

namespace Spreads

variable {α β γ : Type}

theorem of_bijOn {f : α → β} {source : Set α} {target : Set β}
    (bijective : Set.BijOn f source target) : Spreads f source target := by
  refine ⟨bijective.mapsTo, 1, Nat.one_pos, fun b member => Set.ncard_eq_one.2 ?_⟩
  obtain ⟨a, inside, rfl⟩ := bijective.surjOn member
  refine ⟨a, Set.ext fun a' => ⟨fun same => bijective.injOn same.1 inside same.2, ?_⟩⟩
  rintro rfl
  exact ⟨inside, rfl⟩

theorem const {source : Set α} (b : β) (finite : source.Finite) (nonempty : source.Nonempty) :
    Spreads (fun _ => b) source {b} := by
  refine ⟨fun _ _ => rfl, source.ncard, (Set.ncard_pos finite).2 nonempty, ?_⟩
  rintro _ rfl
  simp

theorem comp {f : α → β} {g : β → γ} {source : Set α} {middle : Set β} {target : Set γ}
    (bijective : Set.BijOn g middle target) (spreads : Spreads f source middle) :
    Spreads (fun a => g (f a)) source target := by
  obtain ⟨n, positive, equal⟩ := spreads.share
  refine ⟨bijective.mapsTo.comp spreads.maps, n, positive, fun c member => ?_⟩
  obtain ⟨b, inside, rfl⟩ := bijective.surjOn member
  have fibre : {a ∈ source | g (f a) = g b} = {a ∈ source | f a = b} := by
    ext a
    constructor
    · rintro ⟨left, same⟩
      exact ⟨left, bijective.injOn (spreads.maps left) inside same⟩
    · rintro ⟨left, rfl⟩
      exact ⟨left, rfl⟩
  rw [fibre]
  exact equal b inside

-- Lists of one length are cut in one way only, so the hits of both parts multiply.
theorem append {pair : α → β → γ} {f : α → List Nat} {g : β → List Nat} {h : γ → List Nat}
    {source : Set α} {source' : Set β} {target target' : Set (List Nat)} {length : Nat}
    (first : Spreads f source target) (second : Spreads g source' target')
    (apart : ∀ a ∈ source, ∀ a' ∈ source, ∀ b b', pair a b = pair a' b' → a = a' ∧ b = b')
    (joined : ∀ a ∈ source, ∀ b, h (pair a b) = f a ++ g b)
    (long : ∀ x ∈ target, x.length = length) :
    Spreads h (Set.image2 pair source source') (Set.image2 (· ++ ·) target target') := by
  obtain ⟨m, positive, equal⟩ := first.share
  obtain ⟨n, positive', equal'⟩ := second.share
  refine ⟨?_, m * n, Nat.mul_pos positive positive', ?_⟩
  · rintro _ ⟨a, left, b, right, rfl⟩
    exact ⟨f a, first.maps left, g b, second.maps right, (joined a left b).symm⟩
  · rintro _ ⟨x, left, y, right, rfl⟩
    have fibre : {c ∈ Set.image2 pair source source' | h c = x ++ y} =
        (fun p : α × β => pair p.1 p.2) '' ({a ∈ source | f a = x} ×ˢ {b ∈ source' | g b = y}) := by
      ext c
      constructor
      · rintro ⟨⟨a, inside, b, inside', rfl⟩, same⟩
        rw [joined a inside b] at same
        have lengths := (long _ (first.maps inside)).trans (long x left).symm
        have parts := List.append_inj same lengths
        exact ⟨(a, b), ⟨⟨inside, parts.1⟩, ⟨inside', parts.2⟩⟩, rfl⟩
      · rintro ⟨⟨a, b⟩, ⟨⟨inside, rfl⟩, ⟨inside', rfl⟩⟩, rfl⟩
        exact ⟨⟨a, inside, b, inside', rfl⟩, joined a inside b⟩
    have injective : Set.InjOn (fun p : α × β => pair p.1 p.2)
        ({a ∈ source | f a = x} ×ˢ {b ∈ source' | g b = y}) := by
      rintro ⟨a, b⟩ ⟨⟨inside, _⟩, _⟩ ⟨a', b'⟩ ⟨⟨inside', _⟩, _⟩ same
      obtain ⟨rfl, rfl⟩ := apart a inside a' inside' b b' same
      rfl
    rw [fibre, injective.ncard_image, Set.ncard_prod, equal x left, equal' y right]

end Spreads

namespace Shuffle

-- The first swap is with a place up to `place`, and each later one with a place up to the next.
def Fits : Nat → List Nat → Prop
  | _, [] => True
  | place, j :: rest => j ≤ place ∧ Fits (place + 1) rest

def Swaps (place places : Nat) : Set (List Nat) :=
  {swaps | swaps.length = places ∧ Fits place swaps}

theorem fits_append (place : Nat) (left right : List Nat) :
    Fits place (left ++ right) ↔ Fits place left ∧ Fits (place + left.length) right := by
  induction left generalizing place with
  | nil => simp [Fits]
  | cons j left ih => simp [Fits, ih, and_assoc, Nat.add_assoc, Nat.add_comm 1]

theorem swaps_zero (place : Nat) : Swaps place 0 = {[]} := by
  ext swaps
  simp only [Swaps, Set.mem_ofPred_eq, List.length_eq_zero_iff, Set.mem_singleton_iff]
  constructor
  · exact And.left
  · rintro rfl
    exact ⟨rfl, trivial⟩

theorem swaps_one (place : Nat) :
    Set.BijOn (fun j => [j]) (Set.Iio (place + 1)) (Swaps place 1) := by
  refine ⟨?_, fun _ _ _ _ same => List.singleton_injective same, ?_⟩
  · intro j below
    exact ⟨rfl, Nat.le_of_lt_succ below, trivial⟩
  · rintro swaps ⟨one, fits⟩
    obtain ⟨j, rfl⟩ := List.length_eq_one_iff.1 one
    exact ⟨j, Nat.lt_succ_of_le fits.1, rfl⟩

theorem swaps_add (place m n : Nat) :
    Swaps place (m + n) = Set.image2 (· ++ ·) (Swaps place m) (Swaps (place + m) n) := by
  ext swaps
  constructor
  · rintro ⟨length, fits⟩
    have left : (swaps.take m).length = m := by
      rw [List.length_take]
      omega
    have right : (swaps.drop m).length = n := by
      rw [List.length_drop]
      omega
    rw [← List.take_append_drop m swaps, fits_append, left] at fits
    exact ⟨_, ⟨left, fits.1⟩, _, ⟨right, fits.2⟩, List.take_append_drop m swaps⟩
  · rintro ⟨left, ⟨length, fits⟩, right, ⟨length', fits'⟩, rfl⟩
    refine ⟨?_, (fits_append _ _ _).2 ⟨fits, ?_⟩⟩
    · simp [length, length']
    · rw [length]
      exact fits'

theorem iio_mul {m : Nat} (positive : 0 < m) (n : Nat) :
    Set.Iio (m * n) = Set.image2 (fun j rest => j + m * rest) (Set.Iio m) (Set.Iio n) := by
  ext value
  constructor
  · intro below
    exact ⟨value % m, Nat.mod_lt value positive, value / m, Nat.div_lt_of_lt_mul below,
      Nat.mod_add_div value m⟩
  · rintro ⟨j, digit, rest, below, rfl⟩
    simp only [Set.mem_Iio] at digit below ⊢
    calc
      j + m * rest < m + m * rest := by omega
      _ = m * (rest + 1) := by ring
      _ ≤ m * n := Nat.mul_le_mul_left m below

theorem low_digit {m j : Nat} (digit : j < m) (rest : Nat) : (j + m * rest) % m = j := by
  rw [Nat.add_mul_mod_self_left, Nat.mod_eq_of_lt digit]

theorem high_digits {m j : Nat} (digit : j < m) (rest : Nat) : (j + m * rest) / m = rest := by
  rw [Nat.add_mul_div_left j rest (Nat.zero_lt_of_lt digit), Nat.div_eq_of_lt digit, Nat.zero_add]

theorem ascFactorial_cons (n k : Nat) :
    n.ascFactorial (k + 1) = n * (n + 1).ascFactorial k := by
  rw [Nat.ascFactorial_succ, ← Nat.succ_ascFactorial]

theorem Chunk.swaps_spread (place : Nat) {places : Nat} (positive : 0 < places) (wanted : Nat) :
    Spreads (Chunk.swaps.go place places wanted) (Set.Iio ((place + 1).ascFactorial places))
      (Swaps place (min wanted places)) := by
  induction places generalizing place wanted with
  | zero => exact absurd positive (Nat.lt_irrefl 0)
  | succ places ih =>
    cases wanted with
    | zero =>
      have whole : Chunk.swaps.go place (places + 1) 0 = fun _ => [] := by
        funext value
        cases places <;> rfl
      rw [whole, Nat.zero_min, swaps_zero]
      exact .const [] (Set.finite_Iio _) ⟨0, Nat.ascFactorial_pos place _⟩
    | succ wanted =>
      cases places with
      | zero =>
        have last : Chunk.swaps.go place 1 (wanted + 1) = fun j => [j] := by
          funext value
          rfl
        rw [last, Nat.min_eq_right (Nat.le_add_left 1 wanted), ascFactorial_cons,
          Nat.ascFactorial_zero, Nat.mul_one]
        exact .of_bijOn (swaps_one place)
      | succ places =>
        have digit := Spreads.of_bijOn (swaps_one place)
        have later := ih (place + 1) (Nat.succ_pos places) wanted
        have size : min (wanted + 1) (places + 1 + 1) = 1 + min wanted (places + 1) := by omega
        rw [ascFactorial_cons, iio_mul (Nat.succ_pos place), size, swaps_add]
        refine digit.append later ?_ ?_ fun x member => member.1
        · intro j below j' below' rest rest' same
          have digits := congrArg (· % (place + 1)) same
          have rests := congrArg (· / (place + 1)) same
          simp only [Nat.succ_eq_add_one, low_digit below, low_digit below'] at digits
          simp only [Nat.succ_eq_add_one, high_digits below, high_digits below'] at rests
          exact ⟨digits, rests⟩
        · intro j below rest
          simp only [Chunk.swaps.go, Nat.succ_eq_add_one, low_digit below, high_digits below,
            List.singleton_append]

end Shuffle

end QueryWorkload
