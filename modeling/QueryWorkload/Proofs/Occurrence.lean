import Mathlib.Data.List.Infix
import QueryWorkload.Proofs.Containment

set_option autoImplicit false

namespace QueryWorkload.Text

-- What stands in front of each place of the part, from the first place on.
def sites (part : List Char) : List Char → List (List Char)
  | [] => if part.isEmpty then [[]] else []
  | c :: text =>
    let later := (sites part text).map (c :: ·)
    if part.isPrefixOf (c :: text) then [] :: later else later

section Sites

variable {part : List Char}

theorem sites_cons (c : Char) (text : List Char) :
    sites part (c :: text) =
      (if part <+: c :: text then [[]] else []) ++ (sites part text).map (c :: ·) := by
  simp only [sites, List.isPrefixOf_iff_prefix]
  split <;> rfl

theorem mem_sites {text before : List Char} :
    before ∈ sites part text ↔ before ++ part <+: text := by
  induction text generalizing before with
  | nil => cases before <;> simp [sites]
  | cons c text ih =>
    rw [sites_cons]
    cases before with
    | nil => simp
    | cons d before =>
      have first : d :: before ∉ if part <+: c :: text then [[]] else [] := by split <;> simp
      simp [first, ih, List.cons_prefix_cons, and_comm, eq_comm]

example : sites "t.".toList "t.id = t.a".toList = [[], "t.id = ".toList] := by decide

theorem prefix_append_cons_iff {c : Char} (apart : c ∉ part) (before after : List Char) :
    part <+: before ++ c :: after ↔ part <+: before := by
  induction part generalizing before with
  | nil => simp
  | cons d part ih =>
    rw [List.mem_cons, not_or] at apart
    cases before with
    | nil => simp [List.cons_prefix_cons, Ne.symm apart.1]
    | cons e before => simp only [List.cons_append, List.cons_prefix_cons, ih apart.2]

theorem sites_append_cons {c : Char} (apart : c ∉ part) (before after : List Char) :
    sites part (before ++ c :: after) =
      sites part before ++ (sites part after).map (before ++ c :: ·) := by
  induction before with
  | nil =>
    have start : part <+: c :: after ↔ part = [] := by
      rw [← List.nil_append (c :: after), prefix_append_cons_iff apart, List.prefix_nil]
    rw [List.nil_append, sites_cons]
    simp [sites, start]
  | cons d before ih =>
    have start := prefix_append_cons_iff apart (d :: before) after
    rw [List.cons_append] at start ⊢
    simp only [sites_cons, start, ih, List.map_append, List.map_map, List.append_assoc]
    rfl

-- The part begins with a character that is not in the first text.
theorem sites_append_of_not_mem {first : Char} {before : List Char} (missing : first ∉ before)
    (rest after : List Char) :
    sites (first :: rest) (before ++ after) =
      (sites (first :: rest) after).map (before ++ ·) := by
  induction before with
  | nil => simp
  | cons c before ih =>
    rw [List.mem_cons, not_or] at missing
    simp [sites_cons, List.cons_prefix_cons, missing.1, ih missing.2]

theorem sites_eq_nil {c : Char} (member : c ∈ part) {text : List Char} (missing : c ∉ text) :
    sites part text = [] := by
  rw [List.eq_nil_iff_forall_not_mem]
  intro before site
  have inside := (mem_sites.1 site).subset (List.mem_append_right before member)
  exact missing inside

theorem not_contains_of_sites {text part : String}
    (nowhere : sites part.toList text.toList = []) : ¬ Contains text part := by
  intro inside
  obtain ⟨before, after, split⟩ := inside
  have site : before ∈ sites part.toList text.toList := mem_sites.2 ⟨after, split⟩
  rw [nowhere] at site
  cases site

end Sites

-- How many brackets are open behind a text, if none is closed that is not open.
def depthAfter? (depth : Nat) : List Char → Option Nat
  | [] => some depth
  | c :: text =>
    if c = '(' then depthAfter? (depth + 1) text
    else if c = ')' then if depth = 0 then none else depthAfter? (depth - 1) text
    else depthAfter? depth text

def BracketsMatch (text : List Char) : Prop :=
  depthAfter? 0 text = some 0

theorem depthAfter?_append (depth : Nat) (a b : List Char) :
    depthAfter? depth (a ++ b) = (depthAfter? depth a).bind (depthAfter? · b) := by
  induction a generalizing depth with
  | nil => rfl
  | cons c a ih =>
    simp only [List.cons_append, depthAfter?, ih]
    split_ifs <;> rfl

theorem depthAfter?_of_not_mem {text : List Char} (opens : '(' ∉ text) (closes : ')' ∉ text)
    (depth : Nat) : depthAfter? depth text = some depth := by
  induction text with
  | nil => rfl
  | cons c text ih =>
    rw [List.mem_cons, not_or] at opens closes
    rw [depthAfter?, if_neg (Ne.symm opens.1), if_neg (Ne.symm closes.1), ih opens.2 closes.2]

end QueryWorkload.Text
