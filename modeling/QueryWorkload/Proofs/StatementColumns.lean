import QueryWorkload.Proofs.StatementLines

set_option autoImplicit false

namespace QueryWorkload

open Text

def Scenario.groups : Scenario → Bool
  | .hourlyAverage _ _ _ _ => true
  | .top _ _ _ => true
  | .counterRate _ _ => true
  | _ => false

namespace Sql

def lineRules : TagLayout → List Rule
  | .separate => [never .newline]
  | .inlined => [never .newline, never .tagTable, never .join, never .tagAlias]

-- The join itself is left out here.
def tableRules : List Rule :=
  [never .join, qualified "intel." .time]

def columnRules : List Rule :=
  [qualified "t." .host, qualified "t." .cluster, qualified "t." .state]

-- What holds outside the sub-select as well.
def outerRules : List Rule :=
  tableRules ++ columnRules

-- The table of tags is joined once, and every column is qualified outside the sub-select on that table.
structure Joined (text : String) : Prop where
  once : ∃ before, sites "JOIN".toList text.toList = [before] ∧
    before ++ "JOIN tags AS t ON ".toList <+: text.toList
  time : ∀ site ∈ sites "created_at".toList text.toList, "intel.".toList <:+ site
  tags : ∃ before inner after : String,
    text = before ++ "(" ++ inner ++ ")" ++ after ∧
    "SELECT id FROM tags WHERE ".toList <+: inner.toList ∧ BracketsMatch inner.toList ∧
    ∀ column ∈ ["hostname", "clusterName", "replicaSetState"],
      ∀ site ∈ sites column.toList text.toList, "t.".toList <:+ site ∨
        ∃ within ∈ sites column.toList inner.toList, site = (before ++ "(").toList ++ within

section Joining

variable {kind : EntityKind} {names others : List String} {rules : List Rule} {text : String}

theorem exists_whereLine_eq (filter : String) (each : ∀ c ∈ others, Obeys rules c) :
    ∃ tail, whereLine (filter :: others) = "WHERE " ++ filter ++ tail ∧ Obeys rules tail := by
  have between : Divides rules " AND " := divides_of_silent (by decide)
  cases others with
  | nil =>
    have silent : Silent "" := by decide
    exact ⟨"", by simp [whereLine], silent.obeys⟩
  | cons condition others =>
    have leading : Lead " AND " := by decide
    refine ⟨" AND " ++ " AND ".intercalate (condition :: others), ?_,
      leading.append (between.intercalate each)⟩
    simp only [whereLine, String.intercalate_cons_cons, List.cons_ne_nil, if_false,
      String.append_assoc]

-- The text in front of the join, and the text behind the sub-select.
theorem exists_around
    (framed : Framed .separate rules
      (("tags_id IN " ++ "(" ++ subselect kind names ++ ")") :: others) text)
    (each : ∀ c ∈ others, Obeys rules c) (cut : Cut rules '\n') :
    ∃ above below,
      text = above ++ "\n" ++ TagLayout.separate.join table ++ "\n" ++
        ("WHERE " ++ "tags_id IN " ++ "(" ++ subselect kind names ++ ")" ++ below) ∧
      Obeys rules above ∧ Obeys rules below := by
  let filter := "tags_id IN " ++ "(" ++ subselect kind names ++ ")"
  obtain ⟨above, below, rfl, begun, ended, around⟩ := framed
  obtain ⟨tail, whereLine_eq, tailObeys⟩ := exists_whereLine_eq filter each
  have joinFilled : TagLayout.separate.join table ≠ "" := by decide
  have whereFilled : whereLine (filter :: others) ≠ "" := by simp [whereLine_eq]
  rw [List.forall_mem_append] at around
  refine ⟨lines above, tail ++ "\n" ++ lines below, ?_, obeys_lines cut around.1,
    (divides_newline cut).join tailObeys (obeys_lines cut around.2)⟩
  rw [lines_append begun ⟨_, List.mem_cons_self, joinFilled⟩,
    lines_cons joinFilled ⟨_, List.mem_cons_self, whereFilled⟩, lines_cons whereFilled ended,
    whereLine_eq]
  simp only [filter, String.append_assoc]

theorem sites_join {above below : String} (clear : sites "JOIN".toList above.toList = [])
    (clear' : sites "JOIN".toList below.toList = []) :
    let text := above ++ "\n" ++ TagLayout.separate.join table ++ "\n" ++ below
    ∃ before, sites "JOIN".toList text.toList = [before] ∧
      before ++ "JOIN tags AS t ON ".toList <+: text.toList := by
  intro text
  have split : text.toList =
      above.toList ++ '\n' :: ((TagLayout.separate.join table).toList ++ '\n' :: below.toList) := by
    simp [text]
  have apart : '\n' ∉ "JOIN".toList := by decide
  have inside : sites "JOIN".toList (TagLayout.separate.join table).toList =
      ["ANY INNER ".toList] := by decide +kernel
  have begins : "ANY INNER ".toList ++ "JOIN tags AS t ON ".toList <+:
      (TagLayout.separate.join table).toList := by decide +kernel
  refine ⟨above.toList ++ '\n' :: "ANY INNER ".toList, ?_, ?_⟩
  · rw [split, sites_append_cons apart, sites_append_cons apart, clear, clear', inside]
    rfl
  · rw [split, List.append_assoc, List.prefix_append_right_inj, List.cons_append,
      List.cons_prefix_cons]
    exact ⟨rfl, begins.trans (List.prefix_append _ _)⟩

-- No name of a column goes across a bracket.
theorem sites_outside {column : Word} {before inner after : String}
    (left : ∀ site ∈ sites column.text.toList before.toList, "t.".toList <:+ site)
    (right : ∀ site ∈ sites column.text.toList after.toList, "t.".toList <:+ site) :
    ∀ site ∈ sites column.text.toList (before ++ "(" ++ inner ++ ")" ++ after).toList,
      "t.".toList <:+ site ∨
        ∃ within ∈ sites column.text.toList inner.toList,
          site = (before ++ "(").toList ++ within := by
  have split : (before ++ "(" ++ inner ++ ")" ++ after).toList =
      before.toList ++ '(' :: (inner.toList ++ ')' :: after.toList) := by
    simp
  intro site member
  rw [split, sites_append_cons (not_mem_of_isBreak rfl column), List.mem_append,
    sites_append_cons (not_mem_of_isBreak rfl column), List.mem_map] at member
  rcases member with before | ⟨later, member, rfl⟩
  · exact .inl (left site before)
  · rcases List.mem_append.1 member with within | behind
    · exact .inr ⟨later, within, by simp⟩
    · obtain ⟨site, inAfter, rfl⟩ := List.mem_map.1 behind
      refine .inl ((right site inAfter).trans ?_)
      exact ⟨before.toList ++ '(' :: (inner.toList ++ [')']), by simp⟩

theorem obeys_conditions {below : String} (simulated : Names.Simulated names)
    (right : Obeys outerRules below) :
    Obeys tableRules ("WHERE " ++ "tags_id IN " ++ "(" ++ subselect kind names ++ ")" ++ below) := by
  have less : tableRules ⊆ outerRules := List.subset_append_left _ _
  have naming : Obeys tableRules ("WHERE " ++ "tags_id IN ") := by decide +kernel
  have inner : Obeys tableRules (subselect kind names) :=
    obeys_subselect simulated (by cases kind <;> decide +kernel)
  have opens : Divides tableRules "(" := divides_of_silent (by decide)
  have closes : Divides tableRules ")" := divides_of_silent (by decide)
  exact closes.join (opens.join naming inner) (right.mono less)

theorem obeys_joined {above below : String} (left : Obeys rules above)
    (join : Obeys rules (TagLayout.separate.join table)) (right : Obeys rules below)
    (cut : Cut rules '\n') :
    Obeys rules (above ++ "\n" ++ TagLayout.separate.join table ++ "\n" ++ below) :=
  have newline := divides_newline cut
  newline.join (newline.join left join) right

theorem exists_qualified : ∀ column ∈ ["hostname", "clusterName", "replicaSetState"],
    ∃ word : Word, word.text = column ∧ qualified "t." word ∈ columnRules := by
  simp only [List.forall_mem_cons]
  exact ⟨⟨.host, rfl, by simp [columnRules]⟩, ⟨.cluster, rfl, by simp [columnRules]⟩,
    ⟨.state, rfl, by simp [columnRules]⟩, nofun⟩

theorem joined_of_framed (simulated : Names.Simulated names)
    (framed : Framed .separate outerRules
      (("tags_id IN " ++ "(" ++ subselect kind names ++ ")") :: others) text)
    (each : ∀ c ∈ others, Obeys outerRules c) : Joined text := by
  obtain ⟨above, below, split, left, right⟩ := exists_around framed each (by decide)
  have tables : tableRules ⊆ outerRules := List.subset_append_left _ _
  have columns : columnRules ⊆ outerRules := List.subset_append_right _ _
  have timely : [qualified "intel." .time] ⊆ tableRules := List.subset_cons_self _ _
  have behind := @obeys_conditions kind names below simulated right
  refine ⟨?_, ?_, ?_⟩
  · rw [split]
    exact sites_join ((left.mono tables).nowhere List.mem_cons_self)
      (behind.nowhere List.mem_cons_self)
  -- The join has its own word, so it only takes the rule on times along.
  · have obeys := obeys_joined ((left.mono tables).mono timely) (by decide +kernel)
      (behind.mono timely) (by decide)
    rw [← split] at obeys
    exact obeys.led List.mem_cons_self
  -- The sub-select names its tag without an alias: the rules on tags hold on either side of it.
  · let before :=
      above ++ "\n" ++ TagLayout.separate.join table ++ "\n" ++ ("WHERE " ++ "tags_id IN ")
    have beforeObeys : Obeys columnRules before :=
      obeys_joined (left.mono columns) (by decide +kernel) (by decide +kernel) (by decide)
    have shape : text = before ++ "(" ++ subselect kind names ++ ")" ++ below := by
      rw [split]
      simp only [before, String.append_assoc]
    refine ⟨before, subselect kind names, below, shape, prefix_subselect kind,
      bracketsMatch_subselect simulated kind, ?_⟩
    intro column listed
    obtain ⟨word, rfl, member⟩ := exists_qualified column listed
    rw [shape]
    exact sites_outside (beforeObeys.led member) ((right.mono columns).led member)

end Joining

section Statements

variable {layout : TagLayout} {rules : List Rule} {s : Scenario} {x : Sample}
  {metrics named : List String} {text : String}

theorem obeys_timeFilter {column : String} (obeys : Obeys rules column) :
    ∀ c ∈ timeFilter column x, Obeys rules c := by
  intro c member
  obtain ⟨w, _, rfl⟩ := List.mem_map.1 member
  exact obeys_timeRange obeys w

theorem obeys_nameFilter (simulated : Names.Simulated x.names)
    (filtered : nameFilter layout s x = .ok named) :
    ∀ filter ∈ named, Obeys (lineRules layout) filter := by
  unfold nameFilter at filtered
  split at filtered
  next kind count _ =>
    obtain ⟨filter, made, rfl⟩ := Outcome.map_eq_ok.1 filtered
    rw [List.forall_mem_singleton]
    cases layout with
    | separate =>
      have opens : Divides (lineRules .separate) "(" := divides_of_silent (by decide)
      have closing : Trail ")" := by decide
      have naming : Obeys (lineRules .separate) "tags_id IN " := by decide +kernel
      have inner : Obeys (lineRules .separate) (subselect kind x.names) :=
        obeys_subselect simulated (by cases kind <;> decide +kernel)
      rw [eq_of_separate made]
      exact (opens.join naming inner).append closing
    -- A tag in the rows is compared with each name on its own, without a sub-select.
    | inlined => exact obeys_inlined simulated (by cases kind <;> decide +kernel) made
  next =>
    cases filtered
    exact nofun

theorem lined_allMetrics {conditions : List String} (each : ∀ c ∈ conditions, Obeys rules c) :
    Lined rules (lines ["SELECT *", "FROM " ++ table, whereLine conditions]) := by
  have select : Silent "SELECT *" := by decide
  refine ⟨_, rfl, ⟨_, List.mem_cons_self, by decide⟩, ?_⟩
  simp only [List.forall_mem_cons]
  exact ⟨select.obeys, silent_source.obeys, obeys_whereLine each, nofun⟩

theorem lined_lastPoint {conditions : List String} (primaries : Bool)
    (each : ∀ c ∈ conditions, Obeys (lineRules layout) c) :
    Lined (lineRules layout) (lastPoint layout conditions primaries) := by
  have indented : Lead "    WHERE " ∧ Lead "        WHERE " := by decide
  cases layout with
  | separate =>
    refine ⟨_, rfl, ⟨"SELECT *", by simp, by decide⟩, ?_⟩
    simp only [List.forall_mem_append, List.forall_mem_map]
    exact ⟨⟨⟨⟨by decide +kernel, fun c member => indented.2.append (each c member)⟩,
      by decide +kernel⟩, by cases primaries <;> decide +kernel⟩, by decide +kernel⟩
  | inlined =>
    refine ⟨_, rfl, ⟨"SELECT *", by simp, by decide⟩, ?_⟩
    simp only [List.forall_mem_append, List.forall_mem_map]
    exact ⟨⟨⟨⟨by decide +kernel, fun c member => indented.1.append (each c member)⟩,
      by decide +kernel⟩, by cases primaries <;> decide +kernel⟩, by decide +kernel⟩

-- A statement that groups rows obeys what its columns do, but for the filters on the names.
theorem framed_of_statement (groups : s.groups = true)
    (known : ∀ m ∈ metrics, m ∈ Metric.catalogue)
    (filtered : nameFilter layout s x = .ok named)
    (stated : statement layout s metrics x = .ok text)
    (time : Obeys rules (layout.dataColumn table timeColumn))
    (tags : ∀ kind : EntityKind, Obeys rules (layout.tagColumn kind.tag))
    (state : Obeys rules (layout.tagColumn stateTag)) :
    ∃ others, Framed layout rules (named ++ others) text ∧ ∀ c ∈ others, Obeys rules c := by
  unfold statement at stated
  rw [filtered, Outcome.ok_bind] at stated
  cases s with
  | hourlyAverage m scope count d =>
    obtain ⟨averages, averaged, made⟩ := Outcome.bind_eq_ok.1 stated
    cases made
    exact ⟨_, framed_hourlyAverage (obeys_averages known averaged) (tags _) time,
      obeys_timeFilter time⟩
  | top primaries k d =>
    cases stated
    rw [List.append_assoc]
    refine ⟨_, framed_top k (tags _), ?_⟩
    rw [List.forall_mem_append]
    refine ⟨obeys_timeFilter time, ?_⟩
    have equals : Divides rules " = " := divides_of_silent (by decide)
    have primary : Silent (quote primaryState) := by decide
    cases primaries with
    | true => exact List.forall_mem_singleton.2 (equals.join state primary.obeys)
    | false => exact nofun
  | counterRate hosts d =>
    cases stated
    exact ⟨_, framed_counterRate (tags _) time, obeys_timeFilter time⟩
  | _ => cases groups

theorem lined_of_statement (simulated : Names.Simulated x.names)
    (known : ∀ m ∈ metrics, m ∈ Metric.catalogue)
    (stated : statement layout s metrics x = .ok text) : Lined (lineRules layout) text := by
  obtain ⟨named, filtered, made⟩ := Outcome.bind_eq_ok.1 stated
  have filters := obeys_nameFilter simulated filtered
  by_cases groups : s.groups = true
  · have time : Obeys (lineRules layout) (layout.dataColumn table timeColumn) := by
      cases layout <;> decide +kernel
    have tags : ∀ kind : EntityKind, Obeys (lineRules layout) (layout.tagColumn kind.tag) := by
      intro kind
      cases layout <;> cases kind <;> decide +kernel
    have state : Obeys (lineRules layout) (layout.tagColumn stateTag) := by
      cases layout <;> decide +kernel
    have join : Obeys (lineRules layout) (layout.join table) := by cases layout <;> decide +kernel
    obtain ⟨others, framed, each⟩ :=
      framed_of_statement groups known filtered stated time tags state
    exact framed.lined join (List.forall_mem_append.2 ⟨filters, each⟩)
  · have time : Obeys (lineRules layout) timeColumn := by cases layout <;> decide +kernel
    cases s with
    | allMetrics scope count d =>
      cases made
      exact lined_allMetrics (List.forall_mem_append.2 ⟨filters, obeys_timeFilter time⟩)
    | lastPoint hosts =>
      cases made
      exact lined_lastPoint false filters
    | lastPointPrimaries =>
      cases made
      exact lined_lastPoint true filters
    | _ => exact absurd rfl groups

theorem not_contains_of_lined (lined : Lined (lineRules .inlined) text) :
    ∀ part ∈ ["tags_id", "JOIN", "FROM tags", "t."], ¬ Contains text part := by
  have tags : ¬ Contains text Word.tagTable.text :=
    lined.not_contains (by simp [lineRules]) (by decide)
  have join : ¬ Contains text Word.join.text :=
    lined.not_contains (by simp [lineRules]) (by decide)
  have joined : ¬ Contains text Word.tagAlias.text :=
    lined.not_contains (by simp [lineRules]) (by decide)
  have reference : Contains "tags_id" "tags" := by
    unfold Contains
    decide +kernel
  have source : Contains "FROM tags" "tags" := by
    unfold Contains
    decide +kernel
  simp only [List.forall_mem_cons]
  exact ⟨fun inside => tags (inside.trans reference), join,
    fun inside => tags (inside.trans source), joined, nofun⟩

theorem joined_of_statement (groups : s.groups = true) (simulated : Names.Simulated x.names)
    (known : ∀ m ∈ metrics, m ∈ Metric.catalogue)
    (stated : statement .separate s metrics x = .ok text) : Joined text := by
  obtain ⟨named, filtered, _⟩ := Outcome.bind_eq_ok.1 stated
  have time : Obeys outerRules (TagLayout.separate.dataColumn table timeColumn) := by
    decide +kernel
  have tags : ∀ kind : EntityKind, Obeys outerRules (TagLayout.separate.tagColumn kind.tag) := by
    intro kind
    cases kind <;> decide +kernel
  have state : Obeys outerRules (TagLayout.separate.tagColumn stateTag) := by decide +kernel
  obtain ⟨others, framed, each⟩ := framed_of_statement groups known filtered stated time tags state
  obtain ⟨kind, count, asked⟩ : ∃ kind count, s.entities? = some (kind, count) := by
    cases s with
    | lastPointPrimaries => cases groups
    | _ => exact ⟨_, _, rfl⟩
  simp only [nameFilter, asked] at filtered
  obtain ⟨filter, made, rfl⟩ := Outcome.map_eq_ok.1 filtered
  rw [eq_of_separate made] at framed
  exact joined_of_framed simulated framed each

end Statements

end Sql

namespace Scenario

variable {σ : Type} [WordSource σ]

/-- Whatever is drawn, the statement of a filled query has no empty line. With tags in the rows it
mentions neither the table of tags nor a reference or a join to it; with tags in a table of their own, a
statement that groups rows joins this table once, and leaves no column unqualified that is in it. -/
theorem fill_matches_layout {s : Scenario} {layout : Sql.TagLayout} {q r : Query} {t : Sampler σ}
    (filled : (s.fill (Backend.clickHouse.compiler layout) q t).1 = .ok r) :
    ∃ text, r.payload = .sql Sql.table text ∧
      (layout = .inlined → ∀ part ∈ ["tags_id", "JOIN", "FROM tags", "t."], ¬ Contains text part) ∧
      (layout = .separate → s.groups = true → Sql.Joined text) ∧
      ∀ line ∈ text.toList.splitOn '\n', line ≠ [] := by
  obtain ⟨_, x, asked, filledFor⟩ := fill_ok filled
  have simulated := simulated_of_ask asked
  have put := filledFor.payload
  cases payload : r.payload with
  | sql table text =>
    rw [payload] at put
    obtain ⟨rfl, asks⟩ := put
    obtain ⟨metrics, resolved, stated⟩ := asks.stated
    have known := known_of_resolve resolved
    have lined := Sql.lined_of_statement simulated known stated
    refine ⟨text, rfl, ?_, ?_, lined.filled ?_⟩
    · intro inRows
      subst inRows
      exact Sql.not_contains_of_lined lined
    · intro inTable groups
      subst inTable
      exact Sql.joined_of_statement groups simulated known stated
    · cases layout <;> exact List.mem_cons_self
  | _ =>
    rw [payload] at put
    cases put

-- Two primaries of a drawn cluster, with each layout.
theorem fill_matches_layout_of_top :
    let s := top true 2 (.ofSeconds 3600)
    let t : Sampler Script := ⟨⟨.ofSeconds 0, .ofSeconds 7200⟩, ⟨2, 3, 1, 1, 1⟩, .ofList [5, 1]⟩
    (∃ r text, (s.fill (Backend.clickHouse.compiler .separate) (Query.new 0) t).1 = .ok r ∧
      r.payload = .sql Sql.table text ∧ Sql.Joined text) ∧
    ∃ r text, (s.fill (Backend.clickHouse.compiler .inlined) (Query.new 0) t).1 = .ok r ∧
      r.payload = .sql Sql.table text ∧ ¬ Contains text "JOIN" := by
  intro s t
  have askable : (s.ask t).1.isOk = true := by decide +kernel
  have asked := Outcome.exists_of_isOk askable
  obtain ⟨r, filled⟩ := (fill_ok_iff .clickHouse .separate (fun _ => rfl) (Query.new 0) t).2 asked
  obtain ⟨r', filled'⟩ := (fill_ok_iff .clickHouse .inlined (fun _ => rfl) (Query.new 0) t).2 asked
  obtain ⟨text, payload, _, joined, _⟩ := fill_matches_layout filled
  obtain ⟨text', payload', without, _, _⟩ := fill_matches_layout filled'
  exact ⟨⟨r, text, filled, payload, joined rfl rfl⟩,
    ⟨r', text', filled', payload', without rfl "JOIN" (by simp)⟩⟩

end Scenario

end QueryWorkload
