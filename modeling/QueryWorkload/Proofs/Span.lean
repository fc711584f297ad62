import QueryWorkload.Duration.Span
import QueryWorkload.Proofs.DurationLabel
import QueryWorkload.Proofs.NumeralReading

set_option autoImplicit false

namespace QueryWorkload

namespace Text

theorem trim_surrounded {before core after : List Char} (first : ∀ c ∈ before, isBlank c = true)
    (last : ∀ c ∈ after, isBlank c = true) (filled : core ≠ [])
    (visible : ∀ c ∈ core, isBlank c = false) : trim (before ++ (core ++ after)) = core := by
  have starts : Ends isBlank (core ++ after) := by
    obtain ⟨c, core, rfl⟩ := List.exists_cons_of_ne_nil filled
    exact ends_cons.2 (visible c List.mem_cons_self)
  have stops : Ends isBlank core.reverse := by
    intro c top
    exact visible c (List.mem_reverse.1 (List.mem_of_mem_head? top))
  have blanks : ∀ c ∈ after.reverse, isBlank c = true :=
    fun c member => last c (List.mem_reverse.1 member)
  rw [trim, trimStart, trimStart, dropWhile_run first starts, List.reverse_append,
    dropWhile_run blanks stops, List.reverse_reverse]

theorem exists_trim_surrounded (s : List Char) :
    ∃ before after, s = before ++ (trim s ++ after) ∧ (∀ c ∈ before, isBlank c = true) ∧
      ∀ c ∈ after, isBlank c = true := by
  have front := List.takeWhile_append_dropWhile (p := isBlank) (l := s)
  have back := List.takeWhile_append_dropWhile (p := isBlank) (l := (s.dropWhile isBlank).reverse)
  refine ⟨s.takeWhile isBlank, ((s.dropWhile isBlank).reverse.takeWhile isBlank).reverse, ?_, ?_, ?_⟩
  · rw [trim, trimStart, trimStart, ← List.reverse_append, back, List.reverse_reverse, front]
  · intro c member
    exact List.mem_takeWhile_imp member
  · intro c member
    exact List.mem_takeWhile_imp (List.mem_reverse.1 member)

theorem isBlank_eq_false_of_isDigit {c : Char} (digit : c.isDigit = true) : isBlank c = false := by
  have bounds := (isDigit_iff c).1 digit
  simp only [isBlank, Bool.or_eq_false_iff, Bool.and_eq_false_iff, decide_eq_false_iff_not,
    beq_eq_false_iff_ne]
  omega

theorem Signed.isBlank_eq_false {number : List Char} {n : Int} (signed : Signed number n) {c : Char}
    (member : c ∈ number) : isBlank c = false := by
  cases signed with
  | bare decimal => exact isBlank_eq_false_of_isDigit (decimal.isDigit c member)
  | plus decimal =>
    rcases List.mem_cons.1 member with rfl | member
    · rfl
    · exact isBlank_eq_false_of_isDigit (decimal.isDigit c member)
  | minus decimal =>
    rcases List.mem_cons.1 member with rfl | member
    · rfl
    · exact isBlank_eq_false_of_isDigit (decimal.isDigit c member)

theorem Decimal.exists_last {run : List Char} {n : Nat} (number : Decimal run n) :
    ∃ c, run.getLast? = some c ∧ c.isDigit = true :=
  ⟨_, List.getLast?_eq_some_getLast number.ne_nil, number.isDigit _ (List.getLast_mem _)⟩

theorem Signed.exists_last {number : List Char} {n : Int} (signed : Signed number n) :
    ∃ c, number.getLast? = some c ∧ c.isDigit = true := by
  have behind (sign : Char) {run : List Char} {n : Nat} (decimal : Decimal run n) :
      ∃ c, (sign :: run).getLast? = some c ∧ c.isDigit = true := by
    obtain ⟨c, last, digit⟩ := decimal.exists_last
    exact ⟨c, by simp [List.getLast?_cons, last], digit⟩
  cases signed with
  | bare decimal => exact decimal.exists_last
  | plus decimal => exact behind '+' decimal
  | minus decimal => exact behind '-' decimal

end Text

namespace Span

open Text

-- The letter for a unit, and its seconds. A number without a letter counts seconds.
inductive Suffix : List Char → Int → Prop where
  | bare : Suffix [] 1
  | days : Suffix ['d'] 86400
  | hours : Suffix ['h'] 3600
  | minutes : Suffix ['m'] 60
  | seconds : Suffix ['s'] 1

def Denotes (text : String) (v : Int) : Prop :=
  ∃ before number suffix after n scale,
    text.toList = before ++ (number ++ suffix ++ after) ∧ (∀ c ∈ before, isBlank c = true) ∧
      (∀ c ∈ after, isBlank c = true) ∧ Signed number n ∧ Suffix suffix scale ∧ InInt64 n ∧
      v = n * scale ∧ InInt64 v

theorem Suffix.isBlank_eq_false {suffix : List Char} {scale : Int} (s : Suffix suffix scale)
    {c : Char} (member : c ∈ suffix) : isBlank c = false := by
  cases s with
  | bare => cases member
  | _ =>
    rw [List.mem_singleton.1 member]
    rfl

theorem fitsInt64_iff (n : Int) : fitsInt64 n = true ↔ InInt64 n := by
  rw [fitsInt64, Bool.and_eq_true, decide_eq_true_eq, decide_eq_true_eq]
  exact Iff.rfl

def scaleOf (unit : Option Unit) : Int :=
  (unit.map Unit.inSeconds).getD 1

theorem split_letter (number : List Char) {c : Char} {u : Unit} (letter : Unit.ofLetter? c = some u) :
    split (number ++ [c]) = (number, some u) := by
  simp [split, letter]

theorem ofLetter?_of_isDigit {c : Char} (digit : c.isDigit = true) : Unit.ofLetter? c = none := by
  have other (letter : Char) (isLetter : letter.isDigit = false) : c ≠ letter := by
    rintro rfl
    exact absurd digit (by simp [isLetter])
  simp [Unit.ofLetter?, other 'd' rfl, other 'h' rfl, other 'm' rfl, other 's' rfl]

theorem split_append {number suffix : List Char} {n scale : Int} (signed : Signed number n)
    (s : Suffix suffix scale) :
    ∃ unit, split (number ++ suffix) = (number, unit) ∧ scaleOf unit = scale := by
  cases s with
  | bare =>
    obtain ⟨c, last, digit⟩ := signed.exists_last
    exact ⟨none, by simp [split, last, ofLetter?_of_isDigit digit], rfl⟩
  | days => exact ⟨some .days, split_letter number rfl, rfl⟩
  | hours => exact ⟨some .hours, split_letter number rfl, rfl⟩
  | minutes => exact ⟨some .minutes, split_letter number rfl, rfl⟩
  | seconds => exact ⟨some .seconds, split_letter number rfl, rfl⟩

theorem suffix_of_letter {c : Char} {u : Unit} (letter : Unit.ofLetter? c = some u) :
    Suffix [c] u.inSeconds := by
  fun_cases Unit.ofLetter? c with
  | case1 => cases letter; exact .days
  | case2 => cases letter; exact .hours
  | case3 => cases letter; exact .minutes
  | case4 => cases letter; exact .seconds
  | case5 => simp [Unit.ofLetter?] at letter

theorem exists_suffix (s : List Char) :
    ∃ suffix, s = (split s).1 ++ suffix ∧ Suffix suffix (scaleOf (split s).2) := by
  cases found : s.getLast?.bind Unit.ofLetter? with
  | none => exact ⟨[], by simp [split, found], by simpa [split, found] using .bare⟩
  | some u =>
    obtain ⟨c, last, letter⟩ := Option.bind_eq_some_iff.1 found
    obtain ⟨front, rfl⟩ := List.getLast?_eq_some_iff.1 last
    rw [split_letter front letter]
    exact ⟨[c], rfl, suffix_of_letter letter⟩

theorem readSeconds_eq_ok_iff_split {text : String} {v : Int} :
    readSeconds text = .ok v ↔
      trim text.toList ≠ [] ∧ ∃ n, readInt64 (split (trim text.toList)).1 = .ok n ∧
        v = n * scaleOf (split (trim text.toList)).2 ∧ InInt64 v := by
  by_cases empty : trim text.toList = []
  · simp [readSeconds, empty]
  · cases read : readInt64 (split (trim text.toList)).1 with
    | error cause => simp [readSeconds, empty, read]
    | ok n =>
      have total : readSeconds text =
          if fitsInt64 (n * scaleOf (split (trim text.toList)).2) then
            .ok (n * scaleOf (split (trim text.toList)).2)
          else .error (.tooLarge (String.ofList (trim text.toList))) := by
        simp only [readSeconds, empty, read, if_false, scaleOf]
        rfl
      rw [total]
      split
      next fits =>
        rw [fitsInt64_iff] at fits
        grind
      next past =>
        rw [fitsInt64_iff] at past
        grind

theorem readSeconds_eq_ok_iff (text : String) (v : Int) :
    readSeconds text = .ok v ↔ Denotes text v := by
  rw [readSeconds_eq_ok_iff_split]
  constructor
  · intro ⟨_, n, read, scaled, fits⟩
    obtain ⟨before, after, whole, first, last⟩ := exists_trim_surrounded text.toList
    obtain ⟨suffix, cut, s⟩ := exists_suffix (trim text.toList)
    obtain ⟨signed, inside⟩ := readInt64_eq_ok_iff.1 read
    refine ⟨before, _, suffix, after, n, _, ?_, first, last, signed, s, inside, scaled, fits⟩
    rw [← cut]
    exact whole
  · intro ⟨before, number, suffix, after, n, scale, whole, first, last, signed, s, inside, scaled, fits⟩
    have visible : ∀ c ∈ number ++ suffix, isBlank c = false := by
      intro c member
      rcases List.mem_append.1 member with member | member
      · exact signed.isBlank_eq_false member
      · exact s.isBlank_eq_false member
    have filled : number ++ suffix ≠ [] := by
      obtain ⟨c, last, _⟩ := signed.exists_last
      intro empty
      rw [(List.append_eq_nil_iff.1 empty).1] at last
      cases last
    obtain ⟨unit, cut, scaleEq⟩ := split_append signed s
    rw [whole, trim_surrounded first last filled visible, cut]
    exact ⟨filled, n, readInt64_eq_ok_iff.2 ⟨signed, inside⟩, scaleEq ▸ scaled, fits⟩

theorem readSeconds_eq_error_iff (text : String) :
    (∃ e, readSeconds text = .error e) ↔ ∀ v, ¬ Denotes text v := by
  simp only [← readSeconds_eq_ok_iff]
  cases readSeconds text <;> simp

theorem eq_ofSeconds_iff (d : Duration) {v : Int} (positive : 0 < v) :
    d = .ofSeconds v.toNat ↔ (d.seconds : Int) = v ∧ d.subsecond = 0 := by
  constructor
  · rintro rfl
    simp only [Duration.ofSeconds, Duration.seconds, Duration.subsecond, Duration.nanosPerSecond]
    omega
  · intro ⟨seconds, subsecond⟩
    have nanos := d.seconds_mul_add_subsecond
    have count : v.toNat = d.seconds := by omega
    rw [subsecond, Nat.add_zero] at nanos
    rw [count, Duration.ofSeconds, nanos]

theorem read_eq_ok_iff (text : String) (d : Duration) :
    read text = .ok d ↔
      ∃ v, readSeconds text = .ok v ∧ 0 < v ∧ (d.seconds : Int) = v ∧ d.subsecond = 0 := by
  unfold read
  cases readSeconds text with
  | error e => simp
  | ok v =>
    by_cases positive : 0 < v
    · have lengths := eq_ofSeconds_iff d positive
      simp only [positive, if_true, Except.ok.injEq, exists_eq_left', true_and, ← lengths]
      exact eq_comm
    · simp only [positive, if_false, Except.ok.injEq, exists_eq_left', false_and, reduceCtorEq]

/-- A text is read as some seconds just if it denotes them, and every other text is refused. It is read
as a length of time just if the seconds are positive, and the length is of whole seconds. -/
theorem read_iff_denotes (text : String) :
    (∀ v, readSeconds text = .ok v ↔ Denotes text v) ∧
    ((∃ e, readSeconds text = .error e) ↔ ∀ v, ¬ Denotes text v) ∧
    ∀ d, read text = .ok d ↔
      ∃ v, Denotes text v ∧ 0 < v ∧ (d.seconds : Int) = v ∧ d.subsecond = 0 := by
  refine ⟨readSeconds_eq_ok_iff text, readSeconds_eq_error_iff text, fun d => ?_⟩
  simp only [read_eq_ok_iff, readSeconds_eq_ok_iff]

end Span

end QueryWorkload
