import Mathlib.Algebra.Order.Field.Rat
import Mathlib.Tactic.FieldSimp
import QueryWorkload.Proofs.DurationLabel

set_option autoImplicit false

namespace QueryWorkload.Duration

open Text

-- A number with a unit as digits: those before the point, and those behind it if there is a point.
structure Written where
  whole : List Char
  point : List Char
  scale : Scale
  deriving DecidableEq, Repr

namespace Written

def pointText (point : List Char) : List Char :=
  if point = [] then [] else '.' :: point

def text (w : Written) : List Char :=
  w.whole ++ pointText w.point ++ w.scale.symbol.toList

structure Numeric (w : Written) : Prop where
  whole_ne_nil : w.whole ≠ []
  whole_isDigit : ∀ c ∈ w.whole, c.isDigit = true
  point_isDigit : ∀ c ∈ w.point, c.isDigit = true

def value (w : Written) : ℚ :=
  (Nat.ofDigitChars 10 w.whole 0 + Nat.ofDigitChars 10 w.point 0 / 10 ^ w.point.length) *
    w.scale.length

theorem pointText_injective {p q : List Char} (same : pointText p = pointText q) : p = q := by
  unfold pointText at same
  split_ifs at same with none none'
  · rw [none, none']
  · exact (List.cons.inj same).2

theorem ends_pointText (p : List Char) : Ends Char.isDigit (pointText p) := by
  unfold pointText
  split_ifs
  · exact nofun
  · exact ends_cons.2 (by decide)

theorem Numeric.inNumber {w : Written} (numeric : w.Numeric) :
    ∀ c ∈ w.whole ++ pointText w.point, Scale.inNumber c = true := by
  intro c member
  rcases List.mem_append.1 member with digit | point
  · simp [Scale.inNumber, numeric.whole_isDigit c digit]
  · unfold pointText at point
    split_ifs at point
    · cases point
    · rcases List.mem_cons.1 point with rfl | digit
      · rfl
      · simp [Scale.inNumber, numeric.point_isDigit c digit]

-- The text is a run of digits and points, then one of letters, and so are all texts after it.
theorem text_append_inj {a b : Written} {x y : List Char} (left : a.Numeric) (right : b.Numeric)
    (ends : Ends (!Scale.inNumber ·) x) (ends' : Ends (!Scale.inNumber ·) y)
    (same : a.text ++ x = b.text ++ y) : a = b ∧ x = y := by
  rw [text, text, List.append_assoc, List.append_assoc (b.whole ++ _)] at same
  obtain ⟨numbers, same⟩ := run_append_inj left.inNumber right.inNumber (a.scale.ends_symbol x)
    (b.scale.ends_symbol y) same
  obtain ⟨wholes, points⟩ := run_append_inj left.whole_isDigit right.whole_isDigit
    (ends_pointText _) (ends_pointText _) numbers
  obtain ⟨symbols, texts⟩ := run_append_inj a.scale.letter_of_mem_symbol
    b.scale.letter_of_mem_symbol ends ends' same
  have parts := pointText_injective points
  have scales := Scale.symbol_injective symbols
  cases a
  cases b
  exact ⟨by simp_all, texts⟩

theorem Numeric.newline_not_mem {w : Written} (numeric : w.Numeric) : '\n' ∉ w.text := by
  intro member
  cases List.mem_append.1 member with
  | inl number => exact absurd (numeric.inNumber _ number) (by decide)
  | inr symbol =>
    revert symbol
    cases w.scale <;> simp [Scale.symbol]

theorem Numeric.text_eq_cons {w : Written} (numeric : w.Numeric) :
    ∃ digit rest, w.text = digit :: rest ∧ Scale.inNumber digit = true := by
  obtain ⟨digit, rest, split⟩ := List.exists_cons_of_ne_nil numeric.whole_ne_nil
  have first := numeric.whole_isDigit digit (by simp [split])
  exact ⟨digit, _, by rw [text, split]; rfl, by simp [Scale.inNumber, first]⟩

end Written

structure Reads (text : List Char) (ws : List Written) : Prop where
  text_eq : text = ws.flatMap Written.text
  numeric : ∀ w ∈ ws, w.Numeric

theorem Reads.ends {text : List Char} {ws : List Written} (reads : Reads text ws) :
    Ends (!Scale.inNumber ·) text := by
  rw [reads.text_eq]
  cases ws with
  | nil => exact nofun
  | cons w ws =>
    obtain ⟨digit, rest, split, opens⟩ := (reads.numeric w List.mem_cons_self).text_eq_cons
    rw [List.flatMap_cons, split]
    exact ends_cons.2 (by simp [opens])

theorem Reads.tail {text : List Char} {w : Written} {ws : List Written}
    (reads : Reads text (w :: ws)) : Reads (ws.flatMap Written.text) ws :=
  ⟨rfl, fun v member => reads.numeric v (List.mem_cons_of_mem w member)⟩

theorem Reads.ne_nil {text : List Char} {w : Written} {ws : List Written}
    (reads : Reads text (w :: ws)) : text ≠ [] := by
  obtain ⟨digit, rest, split, _⟩ := (reads.numeric w List.mem_cons_self).text_eq_cons
  rw [reads.text_eq, List.flatMap_cons, split]
  exact List.cons_ne_nil _ _

theorem Reads.unique {text : List Char} {a b : List Written} (left : Reads text a)
    (right : Reads text b) : a = b := by
  induction a generalizing text b with
  | nil =>
    cases b with
    | nil => rfl
    | cons w b => exact absurd left.text_eq right.ne_nil
  | cons v a ih =>
    cases b with
    | nil => exact absurd right.text_eq left.ne_nil
    | cons w b =>
      have same := left.text_eq.symm.trans right.text_eq
      rw [List.flatMap_cons, List.flatMap_cons] at same
      obtain ⟨here, later⟩ := Written.text_append_inj (left.numeric v List.mem_cons_self)
        (right.numeric w List.mem_cons_self) left.tail.ends right.tail.ends same
      have rest := ih left.tail (later ▸ right.tail)
      rw [here, rest]

namespace Component

def pointDigits (part : Nat) : List Char :=
  if part = 0 then [] else (fraction 9 part).toList

def written (c : Component) : Written :=
  ⟨digits c.whole, pointDigits c.part, c.scale⟩

theorem pointDigits_zero : pointDigits 0 = [] := if_pos rfl

theorem pointDigits_of_ne_zero {part : Nat} (positive : part ≠ 0) :
    pointDigits part = (fraction 9 part).toList := if_neg positive

theorem pointDigits_value {part : Nat} (small : part < nanosPerSecond) :
    ∃ zeros, (pointDigits part).length + zeros = 9 ∧
      Nat.ofDigitChars 10 (pointDigits part) 0 * 10 ^ zeros = part := by
  by_cases whole : part = 0
  · subst whole
    exact ⟨9, rfl, rfl⟩
  · rw [pointDigits_of_ne_zero whole]
    exact fraction_value (by decide) small

theorem pointDigits_eq_nil_iff {part : Nat} (small : part < nanosPerSecond) :
    pointDigits part = [] ↔ part = 0 := by
  constructor
  · intro empty
    obtain ⟨zeros, _, value⟩ := pointDigits_value small
    rw [empty, Nat.ofDigitChars_nil, Nat.zero_mul] at value
    exact value.symm
  · intro whole
    rw [whole, pointDigits_zero]

theorem numeric_written (c : Component) : c.written.Numeric where
  whole_ne_nil := Nat.toDigits_ne_nil
  whole_isDigit := fun _ => isDigit_of_mem_digits
  point_isDigit := by
    intro d member
    change d ∈ pointDigits c.part at member
    unfold pointDigits at member
    split_ifs at member
    · cases member
    · exact isDigit_of_mem_fraction member

theorem pointText_pointDigits {part : Nat} (small : part < nanosPerSecond) :
    Written.pointText (pointDigits part) = pointText part := by
  unfold Written.pointText pointText
  simp only [pointDigits_eq_nil_iff small]
  split_ifs with whole
  · rfl
  · rw [pointDigits_of_ne_zero whole]

theorem text_written {c : Component} (small : c.part < nanosPerSecond) :
    c.written.text = c.text.toList := by
  rw [toList_text, ← pointText_pointDigits small, ← List.append_assoc]
  rfl

theorem value_written {c : Component} (small : c.part < nanosPerSecond)
    (seconds : c.part ≠ 0 → c.scale = .seconds) : c.written.value = c.nanos := by
  have number : Nat.ofDigitChars 10 (digits c.whole) 0 = c.whole := Nat.ofDigitChars_ten_toDigits
  obtain ⟨zeros, length, value⟩ := pointDigits_value small
  have part : (Nat.ofDigitChars 10 (pointDigits c.part) 0 : ℚ) / 10 ^ (pointDigits c.part).length *
      c.scale.length = c.part := by
    by_cases whole : c.part = 0
    · simp [whole, pointDigits_zero]
    · have second : ((nanosPerSecond : Nat) : ℚ) = 10 ^ (pointDigits c.part).length * 10 ^ zeros := by
        rw [← pow_add, length]
        norm_num
      rw [seconds whole, Scale.length, second, ← mul_assoc, div_mul_cancel₀ _ (pow_ne_zero _ (by norm_num))]
      exact_mod_cast value
  change ((Nat.ofDigitChars 10 (digits c.whole) 0 : ℚ) +
    Nat.ofDigitChars 10 (pointDigits c.part) 0 / 10 ^ (pointDigits c.part).length) * c.scale.length = _
  rw [add_mul, part, number, nanos]
  push_cast
  rfl

end Component

theorem Scale.off_clock {u : Scale} (short : u.length < Scale.seconds.length) :
    u ≠ .hours ∧ u ≠ .minutes ∧ u ≠ .seconds := by
  cases u <;> simp_all [Scale.length]

inductive Form : List Component → Prop where
  | subsecond (n : Nat) {u : Scale} (short : u.length < Scale.seconds.length) : Form [⟨n, 0, u⟩]
  | seconds {s part : Nat} (low : s < 60) (small : part < nanosPerSecond) :
    Form [⟨s, part, .seconds⟩]
  | minutes {m s part : Nat} (low : m < 60) (lower : s < 60) (small : part < nanosPerSecond) :
    Form [⟨m, 0, .minutes⟩, ⟨s, part, .seconds⟩]
  | hours (h : Nat) {m s part : Nat} (low : m < 60) (lower : s < 60) (small : part < nanosPerSecond) :
    Form [⟨h, 0, .hours⟩, ⟨m, 0, .minutes⟩, ⟨s, part, .seconds⟩]

theorem form_components (d : Duration) : Form d.components := by
  have small : d.subsecond < nanosPerSecond := Nat.mod_lt _ (by decide)
  have seconds : d.seconds % 60 < 60 := Nat.mod_lt _ (by decide)
  have minutes : d.seconds % 3600 / 60 < 60 := by omega
  unfold components
  split_ifs with zero below
  · exact .seconds (by decide) (by decide)
  · unfold subsecondComponent
    split_ifs <;> exact .subsecond _ (by decide)
  · unfold clockComponents
    simp only
    split_ifs with hours some
    · exact .hours _ minutes seconds small
    · exact .minutes minutes seconds small
    · exact .seconds seconds small

namespace Form

variable {cs : List Component}

theorem part_lt (form : Form cs) : ∀ c ∈ cs, c.part < nanosPerSecond := by
  have positive : 0 < nanosPerSecond := by decide
  cases form <;> simp_all

theorem scale_of_part (form : Form cs) : ∀ c ∈ cs, c.part ≠ 0 → c.scale = .seconds := by
  cases form <;> simp

theorem low (form : Form cs) :
    ∀ c ∈ cs, c.scale = .minutes ∨ c.scale = .seconds → c.whole < 60 := by
  cases form with
  | subsecond n short => simp [Scale.off_clock short]
  | _ => simp_all

theorem descending (form : Form cs) : cs.Pairwise fun c e => e.scale.length < c.scale.length := by
  cases form <;> simp [Scale.length]

theorem ne_nil (form : Form cs) : cs ≠ [] := by
  cases form <;> exact List.cons_ne_nil _ _

theorem minutes_of_hours (form : Form cs) (hours : ∃ c ∈ cs, c.scale = .hours) :
    ∃ c ∈ cs, c.scale = .minutes := by
  cases form with
  | subsecond n short => simp [Scale.off_clock short] at hours
  | _ => simp_all

theorem seconds_of_minutes (form : Form cs) (minutes : ∃ c ∈ cs, c.scale = .minutes) :
    ∃ c ∈ cs, c.scale = .seconds := by
  cases form with
  | subsecond n short => simp [Scale.off_clock short] at minutes
  | _ => simp_all

end Form

-- What the numbers of a label look like, and which units come with which.
structure Shape (ws : List Written) : Prop where
  ne_nil : ws ≠ []
  descending : ws.Pairwise fun v w => w.scale.length < v.scale.length
  point : ∀ w ∈ ws, w.point ≠ [] →
    w.scale = .seconds ∧ w.point.length ≤ 9 ∧ w.point.getLast? ≠ some '0'
  low : ∀ w ∈ ws, w.scale = .minutes ∨ w.scale = .seconds → Nat.ofDigitChars 10 w.whole 0 < 60
  minutes_of_hours : (∃ w ∈ ws, w.scale = .hours) → ∃ w ∈ ws, w.scale = .minutes
  seconds_of_minutes : (∃ w ∈ ws, w.scale = .minutes) → ∃ w ∈ ws, w.scale = .seconds

def written (d : Duration) : List Written :=
  d.components.map Component.written

theorem reads_label (d : Duration) : Reads d.label.toList d.written where
  text_eq := by
    have small := d.form_components.part_lt
    rw [toList_label, written, List.flatMap_map, Component.textOf]
    exact List.flatMap_congr fun c member => (Component.text_written (small c member)).symm
  numeric := by
    intro w member
    obtain ⟨c, _, rfl⟩ := List.mem_map.1 member
    exact c.numeric_written

theorem newline_not_mem_label (d : Duration) : '\n' ∉ d.label.toList := by
  have reads := d.reads_label
  rw [reads.text_eq, List.mem_flatMap]
  intro ⟨w, member, newline⟩
  exact (reads.numeric w member).newline_not_mem newline

theorem shape_written (d : Duration) : Shape d.written := by
  have form := d.form_components
  have clock (u : Scale) : (∃ w ∈ d.written, w.scale = u) ↔ ∃ c ∈ d.components, c.scale = u := by
    simp only [written, List.mem_map, exists_exists_and_eq_and]
    rfl
  refine ⟨?_, ?_, ?_, ?_, ?_, ?_⟩
  · exact fun empty => form.ne_nil (List.map_eq_nil_iff.1 empty)
  · exact List.pairwise_map.2 form.descending
  · intro w member pointed
    obtain ⟨c, of, rfl⟩ := List.mem_map.1 member
    have positive : c.part ≠ 0 := fun zero =>
      pointed ((Component.pointDigits_eq_nil_iff (form.part_lt c of)).2 zero)
    have digits : c.written.point = (fraction 9 c.part).toList :=
      Component.pointDigits_of_ne_zero positive
    obtain ⟨zeros, length, _⟩ := Component.pointDigits_value (form.part_lt c of)
    refine ⟨form.scale_of_part c of positive, ?_, ?_⟩
    · exact Nat.le.intro length
    · rw [digits]
      exact getLast?_fraction_ne_zero 9 c.part
  · intro w member scale
    obtain ⟨c, of, rfl⟩ := List.mem_map.1 member
    have number : Nat.ofDigitChars 10 c.written.whole 0 = c.whole := Nat.ofDigitChars_ten_toDigits
    rw [number]
    exact form.low c of scale
  · rw [clock, clock]
    exact form.minutes_of_hours
  · rw [clock, clock]
    exact form.seconds_of_minutes

theorem value_eq_nanos {cs : List Component} (small : ∀ c ∈ cs, c.part < nanosPerSecond)
    (seconds : ∀ c ∈ cs, c.part ≠ 0 → c.scale = .seconds) :
    ((cs.map Component.written).map Written.value).sum = (cs.map Component.nanos).sum := by
  induction cs with
  | nil => rfl
  | cons c cs ih =>
    have rest := ih (fun e later => small e (List.mem_cons_of_mem c later))
      (fun e later => seconds e (List.mem_cons_of_mem c later))
    have first := Component.value_written (small c List.mem_cons_self)
      (seconds c List.mem_cons_self)
    rw [List.map_cons, List.map_cons, List.sum_cons, List.map_cons, List.sum_cons, first, rest,
      Nat.cast_add]

theorem value_written (d : Duration) : (d.written.map Written.value).sum = d.nanos := by
  have form := d.form_components
  rw [written, value_eq_nanos form.part_lt form.scale_of_part, nanos_components]

theorem label_injective {d e : Duration} (same : d.label = e.label) : d = e := by
  have texts := e.reads_label
  rw [← same] at texts
  have values := d.value_written
  rw [d.reads_label.unique texts, e.value_written] at values
  have lengths : e.nanos = d.nanos := Nat.cast_injective values
  cases d
  exact congrArg Duration.mk lengths.symm

/-- A label is one number with a unit or several, and there is one way only to read it so. The units
descend, every one below hours or minutes is there down to seconds, only the seconds have a point, and
the numbers add up to the length. No other length has the same label. -/
theorem label_reads_uniquely (d : Duration) :
    (∃ ws, (∀ ws', Reads d.label.toList ws' ↔ ws' = ws) ∧ Shape ws ∧
      (ws.map Written.value).sum = d.nanos) ∧
    ∀ e : Duration, e.label = d.label ↔ e = d := by
  refine ⟨⟨d.written, ?_, d.shape_written, d.value_written⟩, ?_⟩
  · intro ws
    constructor
    · exact fun reads => reads.unique d.reads_label
    · intro same
      rw [same]
      exact d.reads_label
  · exact fun e => ⟨label_injective, congrArg label⟩

end QueryWorkload.Duration
