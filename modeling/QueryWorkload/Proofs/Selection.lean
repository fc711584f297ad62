import QueryWorkload.Pipeline.Stage

set_option autoImplicit false

namespace QueryWorkload

namespace Pipeline

mutual

-- Fields of documents are the same in their order only.
def Value.same : Value → Value → Bool
  | .str a, .str b => a == b
  | .int a, .int b => a == b
  | .date a, .date b => a == b
  | .list a, .list b => Value.sameItems a b
  | .doc a, .doc b => Value.sameFields a b
  | _, _ => false

def Value.sameItems : List Value → List Value → Bool
  | [], [] => true
  | a :: left, b :: right => a.same b && Value.sameItems left right
  | _, _ => false

def Value.sameFields : List (String × Value) → List (String × Value) → Bool
  | [], [] => true
  | (k, a) :: left, (j, b) :: right => k == j && a.same b && Value.sameFields left right
  | _, _ => false

end

def Value.order? : Value → Value → Option Ordering
  | .str a, .str b => some (compare a b)
  | .int a, .int b => some (compare a b)
  | .date a, .date b => some (compare a b)
  | _, _ => none

def isOperator (key : String) : Bool :=
  key.toList.head? = some '$'

def every? {α : Type} (test? : α → Option Bool) (items : List α) : Option Bool :=
  (items.mapM test?).map fun results => results.all id

-- An operator on the value at a path, if there is a value. Other operators than these are none.
def applies? (found? : Option Value) (operator : String × Value) : Option Bool :=
  match operator with
  | ("$in", .list items) => some (found?.any fun v => items.any (v.same ·))
  | ("$gte", bound) => some (found?.any fun v => (v.order? bound).any Ordering.isGE)
  | ("$lt", bound) => some (found?.any fun v => (v.order? bound).any Ordering.isLT)
  | _ => none

-- A condition is a document of operators, or else a value to be equal to. Readings have no lists, so
-- there is no looking into their items.
def meets? (found? : Option Value) : Value → Option Bool
  | .doc ((key, argument) :: more) =>
    if isOperator key then every? (applies? found?) ((key, argument) :: more)
    else some (found?.any (·.same (.doc ((key, argument) :: more))))
  | value => some (found?.any (·.same value))

def pathOf (key : String) : List String :=
  (key.toList.splitOn '.').map String.ofList

def holds? (d : Document) (condition : String × Value) : Option Bool :=
  if isOperator condition.1 then none else meets? (d.at? (pathOf condition.1)) condition.2

def Document.selects? (stage d : Document) : Option Bool :=
  match stage.fields with
  | [("$match", .doc filter)] => every? (holds? d) filter
  | _ => none

structure Reading where
  measurement : String
  millis : Int
  tags : List (String × String)
  metrics : List (String × Value)

def Reading.document (r : Reading) : Document :=
  ⟨[("measurement", .str r.measurement), ("time", .date r.millis),
    ("tags", .doc (r.tags.map fun t => (t.1, .str t.2))), ("fields", .doc r.metrics)]⟩

structure Requested (entity? : Option (EntityKind × List String)) (window? : Option TimeRange)
    (primaries : Bool) (r : Reading) : Prop where
  measured : r.measurement = measurement
  named : ∀ e ∈ entity?, ∃ name ∈ e.2, r.tags.lookup e.1.tag = some name
  timed : ∀ w ∈ window?,
    w.start.toNanos ≤ r.millis * 1000000 ∧ r.millis * 1000000 < w.stop.toNanos
  primary : primaries = true → r.tags.lookup stateTag = some primaryState

section Fields

variable {key : String} {value : Value} {fields more : List (String × Value)}

theorem insertField_of_not_mem (absent : key ∉ fields.map Prod.fst) :
    insertField key value fields = fields ++ [(key, value)] := by
  induction fields with
  | nil => rfl
  | cons field rest ih =>
    rw [List.map_cons, List.mem_cons, not_or] at absent
    rw [insertField, if_neg (Ne.symm absent.1), ih absent.2, List.cons_append]

theorem foldl_insert_of_nodup (distinct : ((fields ++ more).map Prod.fst).Nodup) :
    (more.foldl (fun d f => Document.insert d f.1 f.2) ⟨fields⟩ : Document) = ⟨fields ++ more⟩ := by
  induction more generalizing fields with
  | nil => simp
  | cons field more ih =>
    have absent : field.1 ∉ fields.map Prod.fst := by
      rw [List.map_append, List.map_cons] at distinct
      intro present
      exact (List.nodup_append.1 distinct).2.2 _ present _ List.mem_cons_self rfl
    rw [List.foldl_cons, Document.insert, insertField_of_not_mem absent, ih]
    · simp
    · simpa using distinct

theorem ofFields_of_nodup (distinct : (fields.map Prod.fst).Nodup) :
    Document.ofFields fields = ⟨fields⟩ :=
  @foldl_insert_of_nodup [] fields distinct

end Fields

theorem every?_eq {α : Type} {test? : α → Option Bool} {items : List α}
    (tests : ∀ i ∈ items, (test? i).isSome) :
    every? test? items = some (decide (∀ i ∈ items, test? i = some true)) := by
  have results : items.mapM test? = some (items.map fun i => decide (test? i = some true)) := by
    induction items with
    | nil => rfl
    | cons i items ih =>
      rw [List.forall_mem_cons] at tests
      obtain ⟨result, tested⟩ := Option.isSome_iff_exists.1 tests.1
      simp [tested, ih tests.2]
  rw [every?, results, Option.map_some, List.all_map]
  congr 1
  exact Bool.eq_iff_iff.2 (by simp)

section Holds

theorem lookup_map {α β : Type} (f : α → β) (key : String) (entries : List (String × α)) :
    (entries.map fun e => (e.1, f e.2)).lookup key = (entries.lookup key).map f := by
  induction entries with
  | nil => rfl
  | cons e rest ih =>
    rw [List.map_cons, List.lookup_cons, List.lookup_cons, ih]
    split <;> rfl

theorem pathOf_tagPath {key : String} (plain : '.' ∉ key.toList) :
    pathOf (tagPath key) = ["tags", key] := by
  have split : (tagPath key).toList = "tags".toList ++ '.' :: key.toList := by
    simp [tagPath]
  have one : key.toList.splitOn '.' = [key.toList] := List.splitOn_eq_singleton plain
  rw [pathOf, split, List.splitOn_append_cons_self_of_not_mem (by decide), one]
  simp

@[simp] theorem at?_measurement (r : Reading) :
    r.document.at? ["measurement"] = some (.str r.measurement) := rfl

@[simp] theorem at?_time (r : Reading) : r.document.at? ["time"] = some (.date r.millis) := rfl

@[simp] theorem at?_tags (r : Reading) (key : String) :
    r.document.at? ["tags", key] = (r.tags.lookup key).map Value.str :=
  (bind_pure (Value.field? key (.doc _))).trans (lookup_map Value.str key r.tags)

@[simp] theorem same_str (a b : String) : (Value.str a).same (.str b) = decide (a = b) :=
  Bool.beq_eq_decide_eq a b

theorem isGE_order?_date (a b : Int) :
    ((Value.date a).order? (.date b)).any Ordering.isGE = decide (b ≤ a) :=
  Bool.eq_iff_iff.2 (Int.isGE_compare.trans decide_eq_true_iff.symm)

theorem isLT_order?_date (a b : Int) :
    ((Value.date a).order? (.date b)).any Ordering.isLT = decide (a < b) :=
  Bool.eq_iff_iff.2 (by simp [Value.order?, Int.compare_eq_lt])

theorem any_same_str (a : String) (names : List String) :
    ((names.map Value.str).any fun v => (Value.str a).same v) = decide (a ∈ names) :=
  Bool.eq_iff_iff.2 (by simp)

theorem isOperator_tagPath (key : String) : isOperator (tagPath key) = false := by
  simp [isOperator, tagPath]

theorem holds?_measurement (r : Reading) (name : String) :
    holds? r.document ("measurement", .str name) = some (decide (r.measurement = name)) := by
  have path : pathOf "measurement" = ["measurement"] := by decide
  have plain : isOperator "measurement" = false := by decide
  simp [holds?, path, plain, meets?]

theorem holds?_tag {key : String} (plain : '.' ∉ key.toList) (r : Reading) (condition : Value) :
    holds? r.document (tagPath key, condition) =
      meets? ((r.tags.lookup key).map Value.str) condition := by
  simp [holds?, isOperator_tagPath, pathOf_tagPath plain]

theorem holds?_primaryCondition (r : Reading) :
    holds? r.document primaryCondition =
      some (decide (r.tags.lookup stateTag = some primaryState)) := by
  rw [primaryCondition, holds?_tag (by decide)]
  cases r.tags.lookup stateTag <;> simp [meets?]

theorem holds?_nameCondition {key : String} (plain : '.' ∉ key.toList) (r : Reading)
    (names : List String) :
    holds? r.document (nameCondition key names) =
      some (decide (∃ name ∈ names, r.tags.lookup key = some name)) := by
  have operator : isOperator "$in" = true := by decide
  rw [nameCondition, holds?_tag plain, Document.single, meets?, if_pos operator]
  cases r.tags.lookup key with
  | none => simp [every?, applies?]
  | some tag => simp [every?, applies?, -List.any_map, any_same_str]

theorem holds?_timeCondition (r : Reading) (w : TimeRange) :
    holds? r.document (timeCondition w) =
      some (decide (w.start.toMillis ≤ r.millis ∧ r.millis < w.stop.toMillis)) := by
  have path : pathOf "time" = ["time"] := by decide
  have plain : isOperator "time" = false := by decide
  have operator : isOperator "$gte" = true := by decide
  have bounds : timeCondition w =
      ("time", .doc [("$gte", .date w.start.toMillis), ("$lt", .date w.stop.toMillis)]) := rfl
  simp [holds?, bounds, path, plain, meets?, operator, every?, applies?, isGE_order?_date,
    isLT_order?_date]

end Holds

section Conditions

variable {entity? : Option (EntityKind × List String)} {window? : Option TimeRange} {primaries : Bool}

theorem plain_tag (kind : EntityKind) : '.' ∉ kind.tag.toList := by
  cases kind <;> decide

theorem nodup_keys (kind : EntityKind) :
    ["measurement", tagPath kind.tag, "time", tagPath stateTag].Nodup := by
  cases kind <;> decide

-- These are all keys that there can be, and a document with any of them has each once.
theorem nodup_conditions (kind : EntityKind) (names? : Option (List String)) :
    ((conditions (names?.map fun names => (kind.tag, names)) window? primaries).map Prod.fst).Nodup := by
  have names : ((names?.map fun names => (kind.tag, names)).toList.map fun e =>
      (nameCondition e.1 e.2).1).Sublist [tagPath kind.tag] := by
    cases names? <;> simp [nameCondition]
  have times : (window?.toList.map fun w => (timeCondition w).1).Sublist ["time"] := by
    cases window? <;> simp [timeCondition]
  have states : ((if primaries then [primaryCondition] else []).map Prod.fst).Sublist
      [tagPath stateTag] := by
    cases primaries <;> simp [primaryCondition]
  have keys := (names.append (times.append states)).cons_cons "measurement"
  exact (nodup_keys kind).sublist (by simpa [conditions, Function.comp_def] using keys)

theorem isSome_holds? (entity? : Option (EntityKind × List String)) (r : Reading) :
    ∀ c ∈ conditions (entity?.map fun e => (e.1.tag, e.2)) window? primaries,
      (holds? r.document c).isSome := by
  rcases entity? with _ | ⟨kind, names⟩ <;> cases window? <;> cases primaries <;>
    simp [conditions, holds?_measurement, holds?_nameCondition (plain_tag _), holds?_timeCondition,
      holds?_primaryCondition]

theorem toMillis_mul {t : Instant} (aligned : t.nanos % 1000000 = 0) :
    t.toMillis * 1000000 = t.toNanos := by
  simp only [Instant.toMillis, Instant.toNanos, Instant.second]
  omega

theorem timed_iff {w : TimeRange} (start : w.start.nanos % 1000000 = 0)
    (stop : w.stop.nanos % 1000000 = 0) (millis : Int) :
    w.start.toMillis ≤ millis ∧ millis < w.stop.toMillis ↔
      w.start.toNanos ≤ millis * 1000000 ∧ millis * 1000000 < w.stop.toNanos := by
  rw [← toMillis_mul start, ← toMillis_mul stop]
  omega

theorem holds?_conditions_iff (entity? : Option (EntityKind × List String))
    (aligned : ∀ w ∈ window?, w.start.nanos % 1000000 = 0 ∧ w.stop.nanos % 1000000 = 0)
    (r : Reading) :
    (∀ c ∈ conditions (entity?.map fun e => (e.1.tag, e.2)) window? primaries,
      holds? r.document c = some true) ↔ Requested entity? window? primaries r := by
  have parts : Requested entity? window? primaries r ↔
      r.measurement = measurement ∧
        (∀ e ∈ entity?, ∃ name ∈ e.2, r.tags.lookup e.1.tag = some name) ∧
        (∀ w ∈ window?, w.start.toMillis ≤ r.millis ∧ r.millis < w.stop.toMillis) ∧
        (primaries = true → r.tags.lookup stateTag = some primaryState) := by
    constructor
    · intro asked
      refine ⟨asked.measured, asked.named, fun w given => ?_, asked.primary⟩
      exact (timed_iff (aligned w given).1 (aligned w given).2 r.millis).2 (asked.timed w given)
    · intro holds
      refine ⟨holds.1, holds.2.1, fun w given => ?_, holds.2.2.2⟩
      exact (timed_iff (aligned w given).1 (aligned w given).2 r.millis).1 (holds.2.2.1 w given)
  rw [parts]
  rcases entity? with _ | ⟨kind, names⟩ <;> cases window? <;> cases primaries <;>
    simp [conditions, holds?_measurement, holds?_nameCondition (plain_tag _), holds?_timeCondition,
      holds?_primaryCondition, and_assoc]

end Conditions

theorem eq_of_matchStage {entity? : Option (String × List String)} {window? : Option TimeRange}
    {primaries : Bool} {stage : Document}
    (matched : matchStage entity? window? primaries = .ok stage) :
    stage = .single "$match" (Document.ofFields (conditions entity? window? primaries)) := by
  unfold matchStage at matched
  split at matched
  · cases matched
  · exact (Except.ok.inj matched).symm

section Lookup

variable {kind : EntityKind} {names? : Option (List String)} {window? : Option TimeRange}
  {primaries : Bool}

theorem lookup_names (names : List String) :
    (conditions (some (kind.tag, names)) window? primaries).lookup (tagPath kind.tag) =
      some (.doc [("$in", .list (names.map .str))]) := by
  cases kind <;> rfl

theorem lookup_time (w : TimeRange) :
    (conditions (names?.map fun names => (kind.tag, names)) (some w) primaries).lookup "time" =
      some (.doc [("$gte", .date w.start.toMillis), ("$lt", .date w.stop.toMillis)]) := by
  cases kind <;> cases names? <;> rfl

theorem lookup_state :
    (conditions (names?.map fun names => (kind.tag, names)) window? primaries).lookup
        (tagPath stateTag) = if primaries then some (.str primaryState) else none := by
  cases kind <;> cases names? <;> cases window? <;> cases primaries <;> rfl

end Lookup

theorem at?_match (fields : List (String × Value)) (key : String) (path : List String) :
    (Document.single "$match" (.doc fields)).at? ("$match" :: key :: path) =
      (fields.lookup key).bind fun v => path.foldlM (fun v key => v.field? key) v := rfl

/-- The first stage of a pipeline is made for any names, and as a filter it selects just the readings
that were asked for. -/
theorem matchStage_selects {entity? : Option (EntityKind × List String)} {window? : Option TimeRange}
    (named : ∀ e ∈ entity?, e.2 ≠ [])
    (aligned : ∀ w ∈ window?, w.start.nanos % 1000000 = 0 ∧ w.stop.nanos % 1000000 = 0)
    (primaries : Bool) :
    ∃ stage,
      matchStage (entity?.map fun e => (e.1.tag, e.2)) window? primaries = .ok stage ∧
      ∀ r : Reading, ∃ selected, stage.selects? r.document = some selected ∧
        (selected = true ↔ Requested entity? window? primaries r) := by
  have distinct : ((conditions (entity?.map fun e => (e.1.tag, e.2)) window? primaries).map
      Prod.fst).Nodup := by
    -- Without names the kind of entity does not matter.
    cases entity? with
    | none => exact nodup_conditions .host none
    | some e => exact nodup_conditions e.1 (some e.2)
  refine ⟨.single "$match" (Document.ofFields
    (conditions (entity?.map fun e => (e.1.tag, e.2)) window? primaries)), ?_, fun r => ?_⟩
  · rcases entity? with _ | ⟨kind, names⟩
    · rfl
    · obtain ⟨name, others, rfl⟩ := List.exists_cons_of_ne_nil (named _ rfl)
      rfl
  · have decided := every?_eq (@isSome_holds? window? primaries entity? r)
    rw [ofFields_of_nodup distinct]
    exact ⟨_, decided, decide_eq_true_iff.trans (holds?_conditions_iff entity? aligned r)⟩

-- The names are those of replica sets, whose tag is next to that of the state; the window starts before
-- 1970, half a second after a whole one.
theorem matchStage_selects_primary :
    let w : TimeRange := ⟨⟨-1, 500000000⟩, ⟨0, 1000000⟩⟩
    let tags := [("replicaSetName", "replica_3"), ("replicaSetState", "PRIMARY")]
    ∃ stage,
      matchStage (some ("replicaSetName", ["", "replica_3"])) (some w) true = .ok stage ∧
      stage.selects? (Reading.document ⟨"intel", -500, tags, []⟩) = some true ∧
      stage.selects? (Reading.document ⟨"intel", 1, tags, []⟩) = some false := by
  intro w tags
  obtain ⟨stage, made, selects⟩ := @matchStage_selects (some (.replicaSet, ["", "replica_3"]))
    (some w) (by simp) (by simp [w]) true
  have inside : Requested (some (.replicaSet, ["", "replica_3"])) (some w) true
      ⟨"intel", -500, tags, []⟩ := by
    refine ⟨rfl, ?_, ?_, fun _ => by decide⟩
    · rintro _ ⟨⟩
      exact ⟨"replica_3", by decide, by decide⟩
    · rintro _ ⟨⟩
      decide
  have late : ¬ Requested (some (.replicaSet, ["", "replica_3"])) (some w) true
      ⟨"intel", 1, tags, []⟩ := by
    intro asked
    exact absurd (asked.timed w rfl).2 (by decide)
  obtain ⟨first, decided, selected⟩ := selects ⟨"intel", -500, tags, []⟩
  obtain ⟨second, decided', selected'⟩ := selects ⟨"intel", 1, tags, []⟩
  rw [selected.2 inside] at decided
  rw [Bool.eq_false_iff.2 fun chosen => late (selected'.1 chosen)] at decided'
  exact ⟨stage, made, decided, decided'⟩

end Pipeline

end QueryWorkload
