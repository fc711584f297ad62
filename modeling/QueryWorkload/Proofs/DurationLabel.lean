import Mathlib.Tactic.Ring
import QueryWorkload.Duration
import QueryWorkload.Proofs.Numeral

set_option autoImplicit false

namespace QueryWorkload.Duration

open Text

inductive Scale where
  | hours
  | minutes
  | seconds
  | millis
  | micros
  | nanos
  deriving DecidableEq, Repr

namespace Scale

def symbol : Scale → String
  | .hours => "h"
  | .minutes => "m"
  | .seconds => "s"
  | .millis => "ms"
  | .micros => "µs"
  | .nanos => "ns"

def length : Scale → Nat
  | .hours => 3600 * nanosPerSecond
  | .minutes => 60 * nanosPerSecond
  | .seconds => nanosPerSecond
  | .millis => 1000000
  | .micros => 1000
  | .nanos => 1

def inNumber (c : Char) : Bool :=
  c.isDigit || c == '.'

theorem letter_of_mem_symbol (u : Scale) : ∀ c ∈ u.symbol.toList, (!inNumber c) = true := by
  cases u <;> simp [symbol, inNumber]

theorem ends_symbol (u : Scale) (text : List Char) : Ends inNumber (u.symbol.toList ++ text) := by
  cases u <;> exact ends_cons.2 (by decide)

theorem symbol_injective {u v : Scale} (same : u.symbol.toList = v.symbol.toList) : u = v := by
  revert same
  cases u <;> cases v <;> decide

end Scale

-- A number with a unit. The part after the point counts nanoseconds.
structure Component where
  whole : Nat
  part : Nat
  scale : Scale
  deriving DecidableEq, Repr

namespace Component

def nanos (c : Component) : Nat :=
  c.whole * c.scale.length + c.part

def text (c : Component) : String :=
  decimal c.whole c.part 9 c.scale.symbol

theorem nanos_of_whole (n : Nat) (u : Scale) : nanos ⟨n, 0, u⟩ = n * u.length := by
  rw [nanos, Nat.add_zero]

def pointText (part : Nat) : List Char :=
  if part = 0 then [] else '.' :: (fraction 9 part).toList

theorem toList_text (c : Component) :
    c.text.toList = digits c.whole ++ (pointText c.part ++ c.scale.symbol.toList) := by
  unfold text decimal pointText
  split <;> simp

def textOf (parts : List Component) : List Char :=
  parts.flatMap fun c => c.text.toList

end Component

def subsecondComponent (n : Nat) : Component :=
  if n % 1000000 = 0 then ⟨n / 1000000, 0, .millis⟩
  else if n % 1000 = 0 then ⟨n / 1000, 0, .micros⟩
  else ⟨n, 0, .nanos⟩

def clockComponents (total : Nat) : List Component :=
  let h := total / 3600
  let m := total % 3600 / 60
  if 0 < h then [⟨h, 0, .hours⟩, ⟨m, 0, .minutes⟩]
  else if 0 < m then [⟨m, 0, .minutes⟩]
  else []

def components (d : Duration) : List Component :=
  if d.nanos = 0 then [⟨0, 0, .seconds⟩]
  else if d.seconds = 0 then [subsecondComponent d.subsecond]
  else clockComponents d.seconds ++ [⟨d.seconds % 60, d.subsecond, .seconds⟩]

theorem seconds_mul_add_subsecond (d : Duration) :
    d.seconds * nanosPerSecond + d.subsecond = d.nanos := by
  rw [Nat.mul_comm]
  exact Nat.div_add_mod d.nanos nanosPerSecond

theorem nanos_subsecondComponent (n : Nat) : (subsecondComponent n).nanos = n := by
  unfold subsecondComponent
  split_ifs <;> simp only [Component.nanos, Scale.length] <;> omega

-- The second is a variable here: its length in nanoseconds plays no part.
theorem clock_mul (total second : Nat) :
    total / 3600 * (3600 * second) + total % 3600 / 60 * (60 * second) + total % 60 * second =
      total * second := by
  have clock : total / 3600 * 3600 + total % 3600 / 60 * 60 + total % 60 = total := by omega
  calc
    _ = (total / 3600 * 3600 + total % 3600 / 60 * 60 + total % 60) * second := by ring
    _ = total * second := by rw [clock]

theorem nanos_clockComponents (total : Nat) :
    ((clockComponents total).map Component.nanos).sum + total % 60 * nanosPerSecond =
      total * nanosPerSecond := by
  have clock := clock_mul total nanosPerSecond
  unfold clockComponents
  simp only
  split_ifs with hours minutes
  · rw [List.map_cons, List.map_cons, List.map_nil, List.sum_cons, List.sum_cons, List.sum_nil,
      Component.nanos_of_whole, Component.nanos_of_whole, Nat.add_zero]
    exact clock
  · rw [Nat.eq_zero_of_not_pos hours, Nat.zero_mul, Nat.zero_add] at clock
    rw [List.map_cons, List.map_nil, List.sum_cons, List.sum_nil, Component.nanos_of_whole,
      Nat.add_zero]
    exact clock
  · rw [Nat.eq_zero_of_not_pos hours, Nat.eq_zero_of_not_pos minutes, Nat.zero_mul, Nat.zero_mul,
      Nat.zero_add] at clock
    rw [List.map_nil, List.sum_nil, Nat.zero_add]
    exact clock

theorem nanos_components (d : Duration) : (d.components.map Component.nanos).sum = d.nanos := by
  have split := d.seconds_mul_add_subsecond
  by_cases zero : d.nanos = 0
  · rw [components, if_pos zero, zero]
    rfl
  · rw [components, if_neg zero]
    by_cases below : d.seconds = 0
    · rw [below, Nat.zero_mul, Nat.zero_add] at split
      rw [if_pos below, List.map_cons, List.map_nil, List.sum_cons, List.sum_nil,
        nanos_subsecondComponent, Nat.add_zero]
      exact split
    · have clock := nanos_clockComponents d.seconds
      rw [if_neg below, List.map_append, List.sum_append, List.map_cons, List.map_nil,
        List.sum_cons, List.sum_nil, Nat.add_zero, Component.nanos, ← split, ← clock, Nat.add_assoc]
      rfl

theorem toList_subsecondLabel (n : Nat) :
    (subsecondLabel n).toList = Component.textOf [subsecondComponent n] := by
  unfold subsecondLabel subsecondComponent
  split_ifs <;> simp [Component.textOf, Component.text, decimal, Scale.symbol]

theorem toList_clockLabel (total : Nat) :
    (clockLabel total).toList = Component.textOf (clockComponents total) := by
  unfold clockLabel clockComponents
  simp only
  split_ifs <;> simp [Component.textOf, Component.text, decimal, Scale.symbol]

theorem toList_secondsLabel (s n : Nat) :
    (secondsLabel s n).toList = Component.textOf [⟨s, n, .seconds⟩] := by
  simp [secondsLabel, Component.textOf, Component.text, decimal, Scale.symbol]

theorem toList_label (d : Duration) : d.label.toList = Component.textOf d.components := by
  unfold label components
  split_ifs
  · rfl
  · exact toList_subsecondLabel d.subsecond
  · rw [String.toList_append, toList_clockLabel, toList_secondsLabel]
    exact List.flatMap_append.symm

end QueryWorkload.Duration
