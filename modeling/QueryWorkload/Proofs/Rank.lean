import QueryWorkload.Proofs.Evaluation
import QueryWorkload.Proofs.Numeral
import QueryWorkload.Proofs.Signed

set_option autoImplicit false

namespace QueryWorkload

namespace Sql

theorem lines_ends {parts : List String} {first last : String} (ends : parts.getLast? = some last)
    (earlier : first ∈ parts.dropLast) (begun : first ≠ "") (filled : last ≠ "") :
    ("\n" ++ last).toList <:+ (lines parts).toList := by
  obtain ⟨before, rfl⟩ := List.getLast?_eq_some_iff.1 ends
  rw [List.dropLast_concat] at earlier
  have above : before.filter (· ≠ "") ≠ [] :=
    List.ne_nil_of_mem (List.mem_filter.2 ⟨earlier, by simp [begun]⟩)
  have kept : [last].filter (· ≠ "") = [last] := by simp [filled]
  rw [lines, List.filter_append, kept, String.intercalate_append_of_ne_nil above (by simp),
    String.intercalate_singleton, String.append_assoc]
  simp only [String.toList_append]
  exact List.suffix_append _ _

theorem top_ends (layout : TagLayout) (k : Nat) (host : String) (conditions : List String) :
    ("\nLIMIT " ++ Text.numeral k).toList <:+ (top layout k host conditions).toList := by
  have last : ("\n" ++ ("LIMIT " ++ Text.numeral k)).toList <:+
      (top layout k host conditions).toList :=
    lines_ends rfl (List.Mem.head _) (by decide) (by simp)
  rwa [← String.append_assoc] at last

theorem statement_top_ends {layout : TagLayout} {primaries : Bool} {k : Nat} {d : Duration}
    {metrics : List String} {x : Sample} {text : String}
    (stated : statement layout (.top primaries k d) metrics x = .ok text) :
    ("\nLIMIT " ++ Text.numeral k).toList <:+ text.toList := by
  obtain ⟨named, _, made⟩ := Outcome.bind_eq_ok.1 stated
  cases made
  exact top_ends layout k _ _

end Sql

namespace Pipeline

-- How many of the highest ones a stage keeps in each group.
def Document.rank? (d : Document) : Option Int :=
  match d.at? ["$group", "top", "$topN", "n"] with
  | some (.int n) => some n
  | _ => none

theorem rank?_matchStage {entity? : Option (String × List String)} {window? : Option TimeRange}
    {primaries : Bool} {first : Document}
    (matched : matchStage entity? window? primaries = .ok first) : first.rank? = none := by
  rw [eq_of_matchStage matched]
  rfl

theorem ranks_top (k : Nat) : (top k).filterMap Document.rank? = [Signed.ofNat k] := by
  rfl

end Pipeline

def Payload.Ranks (i : Int) : Payload → Prop
  | .empty => False
  | .sql _ statement => ("\nLIMIT " ++ Text.signedNumeral i).toList <:+ statement.toList
  | .pipeline _ stages => stages.filterMap Pipeline.Document.rank? = [i]
  | .selector expr _ _ _ => ("topk(" ++ Text.signedNumeral i ++ ", ").toList <+: expr.toList

-- The text around a numeral has a character on each side that no numeral has.
theorem Payload.Ranks.unique {p : Payload} {i j : Int} (left : p.Ranks i) (right : p.Ranks j) :
    i = j := by
  have within (i : Int) : ∀ c ∈ (Text.signedNumeral i).toList, Text.isSigned c = true :=
    fun _ => Text.isSigned_of_mem_signedNumeral
  cases p with
  | empty => cases left
  | sql table statement =>
    obtain ⟨before, split⟩ := left
    obtain ⟨before', split'⟩ := right
    have ends (before : List Char) :
        Text.Ends Text.isSigned ("\nLIMIT ".toList.reverse ++ before.reverse) := by
      simp [Text.Ends, Text.isSigned]
    -- The numeral is at the end, so it is read off from the right.
    have same := congrArg List.reverse (split.trans split'.symm)
    simp only [String.toList_append, List.reverse_append, List.append_assoc] at same
    have numerals := (Text.run_append_inj (by simpa using within i) (by simpa using within j)
      (ends before) (ends before') same).1
    exact Text.signedNumeral_injective (List.reverse_injective numerals)
  | pipeline collection stages => simpa using left.symm.trans right
  | selector expr start stop step =>
    obtain ⟨after, split⟩ := left
    obtain ⟨after', split'⟩ := right
    have ends (after : List Char) : Text.Ends Text.isSigned (", ".toList ++ after) := by
      simp [Text.Ends, Text.isSigned]
    have same := split.trans split'.symm
    simp only [String.toList_append, List.append_assoc] at same
    have numerals := (Text.run_append_inj (within i) (within j) (ends after) (ends after')
      (List.append_cancel_left same)).1
    exact Text.signedNumeral_injective numerals

theorem product_lt {a b n : Nat} (counted : product a b = .ok n) : n < UInt64.size := by
  unfold product at counted
  split at counted
  next fits =>
    cases counted
    exact fits
  next => cases counted

theorem Population.checkTop_bounds {p : Population} {k : Nat} {primaries : Bool}
    (checked : p.checkTop k primaries = .ok ()) : 1 ≤ k ∧ k < UInt64.size := by
  cases primaries with
  | true =>
    simp only [checkTop, if_true, Outcome.mapError_eq_ok, checkCount_ok_iff] at checked
    exact ⟨checked.1, Nat.lt_of_le_of_lt checked.2 p.shardsPerCluster.toNat_lt⟩
  | false =>
    obtain ⟨total, counted, checked⟩ := Outcome.bind_eq_ok.1 checked
    simp only [Outcome.mapError_eq_ok, checkCount_ok_iff] at counted checked
    exact ⟨checked.1, Nat.lt_of_le_of_lt checked.2 (product_lt counted)⟩

def Backend.rank (b : Backend) (k : Nat) : Int :=
  if b = .mongo ∧ Text.signedLimit ≤ k then (k : Int) - UInt64.size else k

theorem Backend.rank_iff {b : Backend} {k : Nat} (positive : 1 ≤ k) (small : k < UInt64.size) :
    (b.rank k = k ↔ (b = .mongo → k < Text.signedLimit)) ∧
      (1 ≤ b.rank k ↔ (b = .mongo → k < Text.signedLimit)) := by
  by_cases wraps : b = .mongo ∧ Text.signedLimit ≤ k
  · have below : b.rank k = k - UInt64.size := if_pos wraps
    have past : ¬ (b = .mongo → k < Text.signedLimit) :=
      fun kept => Nat.not_lt.2 wraps.2 (kept wraps.1)
    simp only [below, past, iff_false]
    omega
  · have same : b.rank k = k := if_neg wraps
    have kept : b = .mongo → k < Text.signedLimit :=
      fun on => Nat.lt_of_not_le fun past => wraps ⟨on, past⟩
    exact ⟨iff_of_true same kept, iff_of_true (by omega) kept⟩

namespace Scenario

variable {σ : Type} [WordSource σ] {primaries : Bool} {k : Nat} {d : Duration} {t : Sampler σ}

theorem ranks_of_fill {b : Backend} {layout : Sql.TagLayout} {q r : Query}
    (small : k < UInt64.size)
    (filled : ((top primaries k d).fill (b.compiler layout) q t).1 = .ok r) :
    r.payload.Ranks (b.rank k) := by
  obtain ⟨_, x, _, filledFor⟩ := fill_ok filled
  have put := filledFor.payload
  cases b with
  | clickHouse =>
    cases asked : r.payload with
    | sql table text =>
      rw [asked] at put
      obtain ⟨_, _, stated⟩ := put.2.stated
      simpa [Payload.Ranks, Backend.rank] using Sql.statement_top_ends stated
    | _ =>
      rw [asked] at put
      cases put
  | mongo =>
    cases asked : r.payload with
    | pipeline collection stages =>
      rw [asked] at put
      obtain ⟨_, _, first, _, rfl, matched, _⟩ := put
      simp [Payload.Ranks, Backend.rank, Pipeline.rank?_matchStage matched, Pipeline.later,
        Pipeline.ranks_top, Signed.ofNat_eq small]
    | _ =>
      rw [asked] at put
      cases put
  | victoriaMetrics =>
    obtain ⟨_, _, tags, expr, _, _, expressed, payload⟩ := Selector.fill_selector_expressed filled
    obtain ⟨series, rfl⟩ := Selector.expression_top expressed
    rw [payload]
    simp [Payload.Ranks, Backend.rank]

/-- Once one backend can be asked, all of them can, with the same number in the label. The payload
asks for one number only, which is that number but for a pipeline and a number of `2^63` or more. -/
theorem fill_ranks_iff {b₀ : Backend} {layout₀ : Sql.TagLayout} {q₀ r₀ : Query}
    (filled : ((top primaries k d).fill (b₀.compiler layout₀) q₀ t).1 = .ok r₀) :
    t.population.checkTop k primaries = .ok () ∧ 1 ≤ k ∧ k < UInt64.size ∧
      ∀ (b : Backend) (layout : Sql.TagLayout) (q : Query), ∃ r,
        ((top primaries k d).fill (b.compiler layout) q t).1 = .ok r ∧
        r.label = b.title ++ " " ++ ("top " ++ Text.numeral k ++
          (if primaries then " primaries" else " hosts") ++ " for random cluster, duration: " ++
          d.label) ∧
        (∀ i, r.payload.Ranks i ↔ i = b.rank k) ∧
        (b.rank k = k ↔ (b = .mongo → k < Text.signedLimit)) ∧
        (1 ≤ b.rank k ↔ (b = .mongo → k < Text.signedLimit)) := by
  obtain ⟨_, x, asked, _⟩ := fill_ok filled
  have checked : t.population.checkTop k primaries = .ok () := (ask_ok asked).2.1.rank
  obtain ⟨positive, small⟩ := Population.checkTop_bounds checked
  refine ⟨checked, positive, small, fun b layout q => ?_⟩
  obtain ⟨r, done⟩ := (fill_ok_iff b layout (fun _ => rfl) q t).2 ⟨x, asked⟩
  have ranks := ranks_of_fill small done
  obtain ⟨_, _, _, filledFor⟩ := fill_ok done
  refine ⟨r, done, filledFor.label, fun i => ?_, Backend.rank_iff positive small⟩
  constructor
  · intro other
    exact other.unique ranks
  · intro same
    exact same ▸ ranks

theorem fill_ranks_of_greatest :
    let t : Sampler Script :=
      ⟨⟨.ofSeconds 0, .ofSeconds 7200⟩, ⟨1, 9223372036854775807, 1, 1, 1⟩, .ofList [5]⟩
    ∃ r, ((top true 9223372036854775807 (.ofSeconds 3600)).fill
        (Backend.mongo.compiler .separate) (Query.new 0) t).1 = .ok r ∧
      r.payload.Ranks 9223372036854775807 := by
  intro t
  have done : ((top true 9223372036854775807 (.ofSeconds 3600)).fill
      (Backend.clickHouse.compiler .inlined) (Query.new 2) t).1.isOk = true := by decide +kernel
  obtain ⟨r₀, filled⟩ := Outcome.exists_of_isOk done
  obtain ⟨_, _, _, all⟩ := fill_ranks_iff filled
  obtain ⟨r, asked, _, ranks, _, _⟩ := all .mongo .separate (Query.new 0)
  exact ⟨r, asked, (ranks _).2 (by decide)⟩

theorem rank_below_zero :
    let s := top true 9223372036854775808 (.ofSeconds 3600)
    let t : Sampler Script :=
      ⟨⟨.ofSeconds 0, .ofSeconds 3600⟩, ⟨1, 9223372036854775808, 1, 1, 1⟩, .ofList []⟩
    t.population.checkTop 9223372036854775808 true = .ok () ∧
      (∃ r, (s.fill (Backend.clickHouse.compiler .separate) (Query.new 0) t).1 = .ok r ∧
        r.payload.Ranks 9223372036854775808) ∧
      ∃ r, (s.fill (Backend.mongo.compiler .separate) (Query.new 0) t).1 = .ok r ∧
        r.payload.Ranks (-9223372036854775808) ∧ ¬ r.payload.Ranks 9223372036854775808 := by
  intro s t
  have checked : t.population.checkTop 9223372036854775808 true = .ok () := by decide
  have small : 9223372036854775808 < UInt64.size := by decide
  have askable : (s.ask t).1.isOk = true := by decide +kernel
  have answer (b : Backend) : ∃ r, (s.fill (b.compiler .separate) (Query.new 0) t).1 = .ok r ∧
      r.payload.Ranks (b.rank 9223372036854775808) := by
    obtain ⟨r, filled⟩ := (fill_ok_iff b .separate (fun _ => rfl) (Query.new 0) t).2
      (Outcome.exists_of_isOk askable)
    exact ⟨r, filled, ranks_of_fill small filled⟩
  obtain ⟨r, filled, ranks⟩ := answer .mongo
  refine ⟨checked, answer .clickHouse, r, filled, ranks, fun other => ?_⟩
  exact absurd (other.unique ranks) (by decide)

end Scenario

end QueryWorkload
