import Mathlib.Data.List.Chain
import Mathlib.Data.List.Range
import Mathlib.Order.Monotone.Basic
import QueryWorkload.Proofs.Plan

set_option autoImplicit false

namespace QueryWorkload.Plan

-- A sum, if it is below `2^64`.
def sum? (a b : UInt64) : Option UInt64 :=
  if a.toNat + b.toNat < UInt64.size then some (a + b) else none

-- The plans of some workers, one after the other, with the next id as a number of 64 bits. There are no
-- plans if a sum passes them.
def dealFrom (base extra : UInt64) : UInt64 → List Nat → Option (List Plan)
  | _, [] => some []
  | next, worker :: later => do
    let count ← sum? base (if worker < extra.toNat then 1 else 0)
    let following ← sum? next count
    let plans ← dealFrom base extra following later
    some (⟨worker, next.toNat, count.toNat⟩ :: plans)

def deal (queries workers : UInt64) : Option (List Plan) :=
  let workers := if workers = 0 then 1 else workers
  dealFrom (queries / workers) (queries % workers) 0 (List.range workers.toNat)

structure Deals (plans : List Plan) (queries workers : Nat) : Prop where
  workers : plans.map Plan.worker = List.range workers
  begins : ∀ p ∈ plans.head?, p.first = 0
  follows : plans.IsChain fun p next => p.first + p.count = next.first
  covers : plans.flatMap ids = List.range queries
  apart : plans.Pairwise fun p later => List.Disjoint p.ids later.ids
  even : plans.Pairwise fun p later => later.count ≤ p.count ∧ p.count ≤ later.count + 1
  within : ∀ p ∈ plans, p.first + p.count ≤ queries

section Share

variable {queries workers : Nat}

theorem count_between {worker later : Nat} (behind : worker ≤ later) :
    (shareOf queries workers later).count ≤ (shareOf queries workers worker).count ∧
      (shareOf queries workers worker).count ≤ (shareOf queries workers later).count + 1 := by
  simp only [shareOf]
  split <;> split <;> omega

theorem first_mono : Monotone fun worker => (shareOf queries workers worker).first := by
  apply monotone_nat_of_le_succ
  intro worker
  rw [first_succ]
  exact Nat.le_add_right _ _

theorem past_le_first {worker later : Nat} (behind : worker < later) :
    (shareOf queries workers worker).first + (shareOf queries workers worker).count ≤
      (shareOf queries workers later).first := by
  rw [← first_succ]
  exact first_mono behind

theorem past_le {worker : Nat} (listed : worker < workers) :
    (shareOf queries workers worker).first + (shareOf queries workers worker).count ≤ queries := by
  have past := @past_le_first queries workers _ _ listed
  rwa [first_workers (Nat.zero_lt_of_lt listed)] at past

theorem disjoint_ids {worker later : Nat} (behind : worker < later) :
    List.Disjoint (shareOf queries workers worker).ids (shareOf queries workers later).ids := by
  have past := @past_le_first queries workers _ _ behind
  intro i left right
  rw [ids, List.mem_range'_1] at left right
  omega

end Share

theorem split_deals (queries workers : Nat) :
    Deals (split queries workers) queries (max workers 1) where
  workers := by simp [split, shareOf, Function.comp_def]
  begins := by
    intro p head
    obtain ⟨others, size⟩ : ∃ others, max workers 1 = others + 1 := Nat.exists_eq_add_one.2 (by omega)
    rw [split, size, List.range_succ_eq_map] at head
    cases head
    simp [shareOf]
  follows := by
    rw [split, List.isChain_map, List.isChain_range]
    intro worker _
    exact (first_succ queries _ worker).symm
  covers := flatMap_split queries workers
  apart := by
    rw [split, List.pairwise_map]
    exact List.pairwise_lt_range.imp disjoint_ids
  even := by
    rw [split, List.pairwise_map]
    exact List.pairwise_lt_range.imp fun behind => count_between (Nat.le_of_lt behind)
  within := by
    intro p member
    obtain ⟨worker, listed, rfl⟩ := List.mem_map.1 member
    exact past_le (List.mem_range.1 listed)

theorem exists_sum? {a b : UInt64} (small : a.toNat + b.toNat < UInt64.size) :
    ∃ c, sum? a b = some c ∧ c.toNat = a.toNat + b.toNat := by
  refine ⟨a + b, if_pos small, ?_⟩
  rw [UInt64.toNat_add]
  exact Nat.mod_eq_of_lt small

section Dealing

variable {queries workers : UInt64}

theorem exists_count {worker : Nat} (listed : worker < workers.toNat) :
    ∃ count, sum? (queries / workers) (if worker < (queries % workers).toNat then 1 else 0) =
        some count ∧
      count.toNat = (shareOf queries.toNat workers.toNat worker).count := by
  have extra : (if worker < (queries % workers).toNat then 1 else 0 : UInt64).toNat =
      if worker < queries.toNat % workers.toNat then 1 else 0 := by
    rw [UInt64.toNat_mod]
    split <;> rfl
  have count : (queries / workers).toNat +
      (if worker < (queries % workers).toNat then 1 else 0 : UInt64).toNat =
        (shareOf queries.toNat workers.toNat worker).count := by
    rw [extra, UInt64.toNat_div]
    rfl
  have small : (shareOf queries.toNat workers.toNat worker).count < UInt64.size :=
    Nat.lt_of_le_of_lt (count_le (Nat.zero_lt_of_lt listed) worker) queries.toNat_lt
  rw [← count] at small ⊢
  exact exists_sum? small

-- The running number is the first id of the next share, which is at most the number of queries.
theorem dealFrom_eq {next : UInt64} {worker count : Nat} (left : worker + count = workers.toNat)
    (due : next.toNat = (shareOf queries.toNat workers.toNat worker).first) :
    dealFrom (queries / workers) (queries % workers) next (List.range' worker count) =
      some ((List.range' worker count).map (shareOf queries.toNat workers.toNat)) := by
  induction count generalizing worker next with
  | zero => rfl
  | succ count ih =>
    have listed : worker < workers.toNat := by omega
    obtain ⟨share, counted, size⟩ := @exists_count queries workers worker listed
    have small : next.toNat + share.toNat < UInt64.size := by
      rw [due, size]
      exact Nat.lt_of_le_of_lt (past_le listed) queries.toNat_lt
    obtain ⟨following, summed, total⟩ := exists_sum? small
    have after : following.toNat = (shareOf queries.toNat workers.toNat (worker + 1)).first := by
      rw [total, due, size, first_succ]
    -- Neither sum passes 64 bits, so the rest is dealt from the first id of the next worker.
    have later := @ih following (worker + 1) (by omega) after
    rw [List.range'_succ, List.map_cons, dealFrom, counted, Option.bind_eq_bind, Option.bind_some,
      summed]
    rw [Option.bind_eq_bind, Option.bind_some, later, due, size]
    rfl

theorem deal_eq (queries workers : UInt64) :
    deal queries workers = some (split queries.toNat workers.toNat) := by
  have least : (if workers = 0 then 1 else workers).toNat = max workers.toNat 1 := by
    by_cases zero : workers = 0
    · simp [zero]
    · have positive : 1 ≤ workers.toNat := Nat.pos_of_ne_zero fun same => zero (UInt64.toNat_inj.1 same)
      rw [if_neg zero, Nat.max_eq_left positive]
  have begins : (0 : UInt64).toNat = (shareOf queries.toNat (max workers.toNat 1) 0).first := by
    simp [shareOf]
  rw [split, List.range_eq_range', ← least]
  rw [← least] at begins
  rw [deal, List.range_eq_range']
  exact dealFrom_eq (Nat.zero_add _) begins

end Dealing

/-- As long as memory holds the plans, every worker gets one, and they deal out all queries; counted
in 64 bits along the way, no id and no number of ids passes them. -/
theorem arrange_deals (queries workers : UInt64) :
    arrange queries.toNat workers.toNat =
        (if max workers.toNat 1 * size < Text.signedLimit then
          .ok (split queries.toNat workers.toNat) else .error .pastMemory) ∧
      deal queries workers = some (split queries.toNat workers.toNat) ∧
      Deals (split queries.toNat workers.toNat) queries.toNat (max workers.toNat 1) := by
  refine ⟨?_, deal_eq queries workers, split_deals queries.toNat workers.toNat⟩
  unfold arrange Fault.checkMemory
  split <;> rfl

-- One worker more than there is memory for, and there are no plans at all.
theorem arrange_past_memory :
    arrange 5 384307168202282326 = .error .pastMemory ∧
      ¬ ∃ plans, arrange 5 384307168202282326 = .ok plans := by
  have refused : arrange 5 384307168202282326 = .error .pastMemory := by
    refine (arrange_deals 5 384307168202282326).1.trans (if_neg ?_)
    decide
  refine ⟨refused, ?_⟩
  rintro ⟨plans, arranged⟩
  rw [refused] at arranged
  cases arranged

end QueryWorkload.Plan
