import QueryWorkload.Output
import QueryWorkload.Proofs.JsonReading

set_option autoImplicit false

namespace QueryWorkload

namespace Json

def textOf? (v : Json) (name : String) : Option String :=
  match v.member? name with
  | some (.str s) => some s
  | _ => none

def intOf? (v : Json) (name : String) : Option Int :=
  match v.member? name with
  | some (.int n) => some n
  | _ => none

def natOf? (v : Json) (name : String) : Option Nat :=
  (v.intOf? name).bind Int.toNat?

end Json

section Exact

open Json

mutual

@[simp] theorem Pipeline.Value.exact_toJson : (v : Pipeline.Value) → Exact v.toJson
  | .str s => .str s
  | .int n => .int n
  | .date millis => by simp [Pipeline.Value.toJson]
  | .list items => .arr (Pipeline.Value.exact_listToJson items)
  | .doc fields => .obj (Pipeline.Value.exact_fieldsToJson fields)

theorem Pipeline.Value.exact_listToJson :
    (items : List Pipeline.Value) → ∀ v ∈ Pipeline.Value.listToJson items, Exact v
  | [] => nofun
  | first :: more => List.forall_mem_cons.2 ⟨first.exact_toJson, Pipeline.Value.exact_listToJson more⟩

theorem Pipeline.Value.exact_fieldsToJson : (fields : List (String × Pipeline.Value)) →
    ∀ m ∈ Pipeline.Value.fieldsToJson fields, Exact m.2
  | [] => nofun
  | (_, first) :: more =>
    List.forall_mem_cons.2 ⟨first.exact_toJson, Pipeline.Value.exact_fieldsToJson more⟩

end

@[simp] theorem Payload.exact_toJson (p : Payload) : Exact p.toJson := by
  cases p <;> simp [Payload.toJson, Pipeline.Document.toJson]

theorem Query.exact_toJson (q : Query) : Exact q.toJson := by
  simp [Query.toJson]

end Exact

-- Only payloads without stages are read.
def Payload.ofJson? (v : Json) : Option Payload := do
  match ← v.textOf? "kind" with
  | "empty" => some .empty
  | "sql" => some (.sql (← v.textOf? "table") (← v.textOf? "sql"))
  | "selector" =>
    some (.selector (← v.textOf? "expr") (← v.intOf? "start") (← v.intOf? "end") (← v.natOf? "step_secs"))
  | _ => none

theorem Payload.ofJson?_toJson (p : Payload) :
    Payload.ofJson? p.toJson = if p.stages?.isNone then some p else none := by
  cases p <;> rfl

namespace Query

def ofJson? (v : Json) : Option Query := do
  some
    { id := ← v.natOf? "id"
      label := ← v.textOf? "human_label"
      description := ← v.textOf? "human_description"
      payload := ← Payload.ofJson? (← v.member? "payload") }

theorem read_line (q : Query) : Json.read q.line = some q.toJson :=
  Json.read_text q.exact_toJson

theorem shown_line (q : Query) : Json.Shown q.line.toList := by
  simpa [line, Json.text] using q.exact_toJson.shown

theorem ofJson?_toJson (q : Query) :
    ofJson? q.toJson = if q.payload.stages?.isNone then some q else none := by
  have payload := q.payload.ofJson?_toJson
  have fields : ofJson? q.toJson =
      (Payload.ofJson? q.payload.toJson).bind fun p => some { q with payload := p } := rfl
  rw [fields, payload]
  split <;> rfl

theorem ofJson?_read_line (q : Query) :
    (Json.read q.line).bind ofJson? = if q.payload.stages?.isNone then some q else none := by
  rw [read_line, Option.bind_some, ofJson?_toJson]

-- Nothing is read from the line of a pipeline, so its line is none of the others either.
theorem eq_of_line_eq {q other : Query} (plain : q.payload.stages?.isNone) (same : other.line = q.line) :
    other = q := by
  have back := ofJson?_read_line other
  rw [same, ofJson?_read_line, if_pos plain] at back
  split at back
  · exact (Option.some.inj back).symm
  · cases back

end Query

namespace Output

@[simp] theorem toList_text_cons (q : Query) (queries : List Query) :
    (text (q :: queries)).toList = q.line.toList ++ '\n' :: (text queries).toList := by
  simp [text, String.join_cons]

theorem not_mem_line (q : Query) : '\n' ∉ q.line.toList := by
  intro member
  exact absurd (q.shown_line '\n' member) (by decide)

theorem count_text (queries : List Query) : (text queries).toList.count '\n' = queries.length := by
  induction queries with
  | nil => rfl
  | cons q queries ih => simp [List.count_eq_zero.2 (not_mem_line q), ih]

theorem eq_newline_of_mem_text {queries : List Query} {c : Char} (member : c ∈ (text queries).toList)
    (control : c.toNat < 32) : c = '\n' := by
  induction queries with
  | nil => cases member
  | cons q queries ih =>
    rw [toList_text_cons, List.mem_append, List.mem_cons] at member
    rcases member with inLine | rfl | later
    · exact absurd control (Nat.not_lt.2 (q.shown_line c inLine))
    · rfl
    · exact ih later

theorem splitOn_text (queries : List Query) :
    (text queries).toList.splitOn '\n' = (lines queries).map String.toList ++ [[]] := by
  induction queries with
  | nil => rfl
  | cons q queries ih =>
    rw [toList_text_cons, List.splitOn_append_cons_self_of_not_mem (not_mem_line q), ih]
    rfl

/-- The newlines of a text of queries are the ends of its lines, and it has no other controls. A query
that is no pipeline is read back from its line, which no other query has. -/
theorem text_unambiguous (queries : List Query) :
    (text queries).toList.count '\n' = queries.length ∧
    (∀ c ∈ (text queries).toList, c.toNat < 32 → c = '\n') ∧
    (text queries).toList.splitOn '\n' = (lines queries).map String.toList ++ [[]] ∧
    ∀ q : Query, q.payload.stages?.isNone →
      (Json.read q.line).bind Query.ofJson? = some q ∧
      ∀ other : Query, other ≠ q → other.line ≠ q.line := by
  refine ⟨count_text queries, fun c => eq_newline_of_mem_text, splitOn_text queries, ?_⟩
  intro q plain
  have back := q.ofJson?_read_line
  rw [if_pos plain] at back
  exact ⟨back, fun other different same => different (Query.eq_of_line_eq plain same)⟩

theorem text_of_statement_and_selector :
    let statement : Query := ⟨0, "hosts", "", .sql "t" "SELECT 1\nFROM t"⟩
    let selector : Query :=
      ⟨18446744073709551615, "\"a\\b\"", "\x01\x1fé\t", .selector "up" (-60) (-1) 15⟩
    (text [statement, selector]).toList.count '\n' = 2 ∧
      (Json.read selector.line).bind Query.ofJson? = some selector ∧
      selector.line ≠ statement.line := by
  intro statement selector
  obtain ⟨count, _, _, reads⟩ := text_unambiguous [statement, selector]
  have different : selector ≠ statement := by simp [selector, statement]
  exact ⟨count, (reads selector rfl).1, (reads statement rfl).2 selector different⟩

end Output

end QueryWorkload
