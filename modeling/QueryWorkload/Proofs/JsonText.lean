import QueryWorkload.Json
import QueryWorkload.Proofs.NumeralReading

set_option autoImplicit false

namespace QueryWorkload.Json

open Text

inductive Exact : Json → Prop where
  | null : Exact .null
  | bool (b : Bool) : Exact (.bool b)
  | int (n : Int) : Exact (.int n)
  | str (s : String) : Exact (.str s)
  | arr {items : List Json} (each : ∀ v ∈ items, Exact v) : Exact (.arr items)
  | obj {members : List (String × Json)} (each : ∀ m ∈ members, Exact m.2) : Exact (.obj members)

attribute [simp] Exact.null Exact.bool Exact.int Exact.str

@[simp] theorem exact_ofNat (n : Nat) : Exact (ofNat n) := .int n

@[simp] theorem exact_arr_iff {items : List Json} : Exact (.arr items) ↔ ∀ v ∈ items, Exact v := by
  constructor
  · intro exact
    cases exact with
    | arr each => exact each
  · exact .arr

@[simp] theorem exact_obj_iff {members : List (String × Json)} :
    Exact (.obj members) ↔ ∀ m ∈ members, Exact m.2 := by
  constructor
  · intro exact
    cases exact with
    | obj each => exact each
  · exact .obj

def Shown (text : List Char) : Prop :=
  ∀ c ∈ text, 32 ≤ c.toNat

@[simp] theorem shown_nil : Shown [] := nofun

@[simp] theorem shown_cons {c : Char} {text : List Char} : Shown (c :: text) ↔ 32 ≤ c.toNat ∧ Shown text := by
  simp [Shown]

@[simp] theorem shown_append {a b : List Char} : Shown (a ++ b) ↔ Shown a ∧ Shown b := by
  simp only [Shown, List.mem_append, or_imp, forall_and]

theorem le_toNat_hexDigit {n : Nat} (small : n < 16) : 32 ≤ (hexDigit n).toNat := by
  revert n
  decide

theorem shown_escapeChar (c : Char) : Shown (escapeChar c) := by
  fun_cases escapeChar c with
  | case8 _ _ _ _ _ _ _ control =>
    have high := le_toNat_hexDigit (n := c.toNat / 16) (by omega)
    have low := le_toNat_hexDigit (n := c.toNat % 16) (by omega)
    simp [high, low]
  | case9 _ _ _ _ _ _ _ control => simp [Nat.not_lt.1 control]
  | _ => simp

theorem shown_quote (s : String) : Shown (quote s) := by
  have inside : Shown (escape s.toList) := by
    intro c member
    obtain ⟨d, _, escaped⟩ := List.mem_flatMap.1 member
    exact shown_escapeChar d c escaped
  simp [quote, inside]

theorem shown_itemChars {items : List Json} (each : ∀ v ∈ items, Shown v.chars) :
    Shown (itemChars items) := by
  induction items with
  | nil => simp [itemChars]
  | cons v more ih =>
    have first := each v List.mem_cons_self
    have later := ih fun w member => each w (List.mem_cons_of_mem v member)
    cases more with
    | nil => simpa [itemChars] using first
    | cons w more => simp [itemChars, first, later]

theorem shown_memberChars {members : List (String × Json)}
    (each : ∀ m ∈ members, Shown m.2.chars) : Shown (memberChars members) := by
  induction members with
  | nil => simp [memberChars]
  | cons m more ih =>
    have key := shown_quote m.1
    have first := each m List.mem_cons_self
    have later := ih fun w member => each w (List.mem_cons_of_mem m member)
    cases more with
    | nil => simp [memberChars, key, first]
    | cons w more => simp [memberChars, key, first, later]

theorem Exact.shown {v : Json} (exact : Exact v) : Shown v.chars := by
  induction exact with
  | null => simp [chars]
  | bool b => cases b <;> simp [chars]
  | int n =>
    intro c member
    rw [chars] at member
    have signed := isSigned_of_mem_signedNumeral member
    simp only [isSigned, Bool.or_eq_true, beq_iff_eq, isDigit_iff] at signed
    rcases signed with rfl | digit
    · decide
    · omega
  | str s =>
    rw [chars]
    exact shown_quote s
  | arr each ih => simp [chars, shown_itemChars ih]
  | obj each ih => simp [chars, shown_memberChars ih]

end QueryWorkload.Json
