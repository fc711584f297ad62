import QueryWorkload.Selector
import QueryWorkload.Sql.Statement

set_option autoImplicit false

namespace QueryWorkload

def Contains (text part : String) : Prop :=
  part.toList <:+: text.toList

namespace Contains

theorem refl (text : String) : Contains text text :=
  List.infix_rfl

theorem trans {text middle part : String} (outer : Contains text middle)
    (inner : Contains middle part) : Contains text part :=
  List.IsInfix.trans inner outer

theorem append_left {text part : String} (before : String) (inside : Contains text part) :
    Contains (before ++ text) part := by
  unfold Contains
  rw [String.toList_append]
  exact List.IsInfix.trans inside (List.suffix_append _ _).isInfix

theorem append_right {text part : String} (after : String) (inside : Contains text part) :
    Contains (text ++ after) part := by
  unfold Contains
  rw [String.toList_append]
  exact List.IsInfix.trans inside (List.prefix_append _ _).isInfix

theorem intercalate {part : String} {parts : List String} (separator : String)
    (member : part ∈ parts) : Contains (separator.intercalate parts) part := by
  induction parts with
  | nil => cases member
  | cons first rest ih =>
    cases rest with
    | nil =>
      rw [List.mem_singleton.1 member, String.intercalate_singleton]
      exact refl first
    | cons second rest =>
      rw [String.intercalate_cons_cons]
      rcases List.mem_cons.1 member with rfl | later
      · exact ((refl part).append_right separator).append_right _
      · exact (ih later).append_left _

end Contains

namespace Sql

theorem lines_contains {part line : String} {parts : List String} (member : line ∈ parts)
    (filled : line ≠ "") (inside : Contains line part) : Contains (lines parts) part :=
  (Contains.intercalate "\n" (List.mem_filter.2 ⟨member, by simpa using filled⟩)).trans inside

theorem append_ne_empty {before after : String} (filled : before ≠ "") : before ++ after ≠ "" := by
  simp [filled]

theorem whereLine_contains {condition : String} {conditions : List String}
    (member : condition ∈ conditions) :
    whereLine conditions ≠ "" ∧ Contains (whereLine conditions) condition := by
  have given : conditions ≠ [] := List.ne_nil_of_mem member
  simp only [whereLine, given, if_false]
  exact ⟨append_ne_empty (by decide), (Contains.intercalate " AND " member).append_left "WHERE "⟩

variable {layout : TagLayout} {condition : String} {conditions : List String}
  (member : condition ∈ conditions)

include member

theorem hourlyAverage_contains (averages : List String) (entity time : String) :
    Contains (hourlyAverage layout averages entity time conditions) condition := by
  obtain ⟨filled, inside⟩ := whereLine_contains member
  exact lines_contains (by simp) filled inside

theorem top_contains (k : Nat) (host : String) :
    Contains (top layout k host conditions) condition := by
  obtain ⟨filled, inside⟩ := whereLine_contains member
  exact lines_contains (by simp) filled inside

theorem counterRate_contains (host time : String) :
    Contains (counterRate layout host time conditions) condition := by
  obtain ⟨filled, inside⟩ := whereLine_contains member
  exact lines_contains (by simp) filled inside

theorem lastPoint_contains (primaries : Bool) :
    Contains (lastPoint layout conditions primaries) condition := by
  have mapped (lead : String) : lead ++ condition ∈ conditions.map (lead ++ ·) :=
    List.mem_map.2 ⟨condition, member, rfl⟩
  have inside (lead : String) : Contains (lead ++ condition) condition :=
    (Contains.refl condition).append_left lead
  cases layout with
  | separate =>
    exact lines_contains (by simp [mapped]) (append_ne_empty (by decide)) (inside "        WHERE ")
  | inlined =>
    exact lines_contains (by simp [mapped]) (append_ne_empty (by decide)) (inside "    WHERE ")

end Sql

end QueryWorkload
