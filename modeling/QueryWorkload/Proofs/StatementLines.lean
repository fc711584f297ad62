import QueryWorkload.Proofs.Filling
import QueryWorkload.Proofs.Wording

set_option autoImplicit false

namespace QueryWorkload

open Text

def Names.Simulated (names : List String) : Prop :=
  ∀ n ∈ names, ∃ kind index, n = name kind index

section Drawn

variable {σ : Type} [WordSource σ]

theorem Names.exists_index_of_draw {kind : EntityKind} {count total : Nat} {source : σ}
    {names : List String} (drawn : (draw kind count total source).1 = .ok names) :
    ∀ n ∈ names, ∃ index, n = name kind index := by
  have checked := (length_of_draw drawn).1
  rw [draw_of_ok checked] at drawn
  cases drawn
  intro n member
  obtain ⟨index, _, rfl⟩ := List.mem_map.1 member
  exact ⟨index, rfl⟩

theorem Scenario.simulated_of_drawNames {s : Scenario} {t : Sampler σ} {names : List String}
    (drawn : (s.drawNames t).1 = .ok names) : Names.Simulated names := by
  cases asked : s.entities? with
  | none =>
    rw [drawNames_of_none asked] at drawn
    cases drawn
    exact nofun
  | some e =>
    obtain ⟨_, total, known, _⟩ := drawNames_ok drawn e.1 e.2 asked
    rw [drawNames_of_some asked, Sampling.names_of_total_ok known] at drawn
    intro n member
    exact ⟨e.1, Names.exists_index_of_draw drawn n member⟩

theorem Scenario.simulated_of_ask {s : Scenario} {t : Sampler σ} {x : Sample}
    (asked : (s.ask t).1 = .ok x) : Names.Simulated x.names := by
  obtain ⟨_, _, metrics, resolved⟩ := ask_ok asked
  rw [ask_of_resolved resolved] at asked
  obtain ⟨_, _, drawn⟩ := Sampling.ok_of_bind_ok asked
  obtain ⟨window?, _, drawn⟩ := Sampling.ok_of_bind_ok drawn
  obtain ⟨names, namesDrawn, drawn⟩ := Sampling.ok_of_bind_ok drawn
  cases drawn
  exact simulated_of_drawNames namesDrawn

end Drawn

theorem MetricSelection.known_of_resolve {m : MetricSelection} {metrics : List String}
    (resolved : m.resolve = .ok metrics) : ∀ metric ∈ metrics, metric ∈ Metric.catalogue := by
  cases m with
  | all =>
    cases resolved
    exact fun _ member => member
  | exactly n =>
    simp only [resolve, Metric.first] at resolved
    split at resolved
    · cases resolved
    · cases resolved
      exact fun _ member => List.mem_of_mem_take member

theorem Scenario.known_of_resolve {s : Scenario} {metrics : List String}
    (resolved : s.resolve = .ok metrics) : ∀ metric ∈ metrics, metric ∈ Metric.catalogue := by
  unfold resolve at resolved
  split at resolved
  · exact MetricSelection.known_of_resolve (Outcome.mapError_eq_ok.1 resolved)
  · cases resolved
    exact nofun

namespace Sql

section Filters

variable {rules : List Rule} {column filter : String} {names : List String}

theorem isBreak_of_mem_name {kind : EntityKind} {index : Nat} {c : Char}
    (member : c ∈ (Names.name kind index).toList) : isBreak c = false := by
  rw [Names.name, String.toList_append, List.mem_append, toList_numeral] at member
  apply Bool.eq_false_iff.2
  rcases member with word | digit
  · have quiet : (kind.word ++ "_").toList.any isBreak = false := by cases kind <;> decide
    exact List.any_eq_false.1 quiet c word
  · have letters : [' ', '\'', '(', ')', ','].any Char.isDigit = false := by decide
    intro breaks
    have listed := List.contains_iff_mem.1 breaks
    exact List.any_eq_false.1 letters c listed (isDigit_of_mem_digits digit)

theorem quote_name (kind : EntityKind) (index : Nat) :
    quote (Names.name kind index) = "'" ++ Names.name kind index ++ "'" := by
  apply quote_of_quiet
  intro member
  cases isBreak_of_mem_name member

theorem obeys_quote (kind : EntityKind) (index : Nat) :
    Obeys rules (quote (Names.name kind index)) := by
  have opening : Lead "'" := by decide
  have closing : Trail "'" := by decide
  rw [quote_name]
  exact (opening.append (silent_name kind index).obeys).append closing

variable (simulated : Names.Simulated names)

include simulated

theorem obeys_inlined (obeys : Obeys rules column)
    (made : TagLayout.inlined.entityFilter column names = .ok filter) : Obeys rules filter := by
  have opening : Lead "(" := by decide
  have equals : Divides rules " = " := divides_of_silent (by decide)
  have between : Divides rules " OR " := divides_of_silent (by decide)
  have closing : Trail ")" := by decide
  unfold TagLayout.entityFilter at made
  split at made
  · cases made
  · cases made
    refine (opening.append (between.intercalate ?_)).append closing
    intro test member
    obtain ⟨n, listed, rfl⟩ := List.mem_map.1 member
    obtain ⟨kind, index, rfl⟩ := simulated n listed
    exact equals.join obeys (obeys_quote kind index)

theorem bracket_not_mem_quotes :
    ∀ c ∈ ['(', ')'], c ∉ (",".intercalate (names.map quote)).toList := by
  intro c bracket
  obtain ⟨breaks, other, notComma⟩ :
      isBreak c = true ∧ c ∉ "'".toList ∧ c ∉ ",".toList := by
    rcases List.mem_pair.1 bracket with rfl | rfl <;> decide
  have quiet : ∀ n ∈ names, c ∉ (quote n).toList := by
    intro n listed
    obtain ⟨kind, index, rfl⟩ := simulated n listed
    have missing : c ∉ (Names.name kind index).toList := by
      intro member
      rw [isBreak_of_mem_name member] at breaks
      cases breaks
    simp only [quote_name, String.toList_append, List.mem_append, not_or]
    exact ⟨⟨other, missing⟩, other⟩
  cases names with
  | nil => exact List.not_mem_nil
  | cons n names =>
    rw [List.forall_mem_cons] at quiet
    rw [toList_intercalate_map, List.mem_append, List.mem_flatMap]
    intro member
    rcases member with first | ⟨m, listed, inside⟩
    · exact quiet.1 first
    · rw [List.mem_append] at inside
      exact inside.elim notComma (quiet.2 m listed)

def subselectOpening (kind : EntityKind) : String :=
  "SELECT id FROM tags WHERE " ++ kind.tag ++ " IN ("

def subselect (kind : EntityKind) (names : List String) : String :=
  subselectOpening kind ++ ",".intercalate (names.map quote) ++ ")"

omit simulated in
theorem eq_of_separate {kind : EntityKind}
    (made : TagLayout.separate.entityFilter kind.tag names = .ok filter) :
    filter = "tags_id IN " ++ "(" ++ subselect kind names ++ ")" := by
  have opening : "tags_id IN (SELECT id FROM tags WHERE " =
      "tags_id IN " ++ ("(" ++ "SELECT id FROM tags WHERE ") := by decide
  have opened (rest : String) : "tags_id IN (SELECT id FROM tags WHERE " ++ rest =
      "tags_id IN " ++ ("(" ++ ("SELECT id FROM tags WHERE " ++ rest)) := by
    have split := congrArg (· ++ rest) opening
    simpa only [String.append_assoc] using split
  have closing : "))" = ")" ++ ")" := by decide
  unfold TagLayout.entityFilter at made
  split at made
  · cases made
  · cases made
    unfold subselect subselectOpening
    simp only [closing, String.append_assoc, opened]

omit simulated in
theorem prefix_subselect (kind : EntityKind) :
    "SELECT id FROM tags WHERE ".toList <+: (subselect kind names).toList := by
  unfold subselect subselectOpening
  simp only [String.toList_append, List.append_assoc]
  exact List.prefix_append _ _

theorem bracketsMatch_subselect (kind : EntityKind) :
    BracketsMatch (subselect kind names).toList := by
  have opened : depthAfter? 0 (subselectOpening kind).toList = some 1 := by
    cases kind <;> decide +kernel
  have closed : depthAfter? 1 ")".toList = some 0 := by decide
  have brackets := bracket_not_mem_quotes simulated
  have level := depthAfter?_of_not_mem (brackets _ (by decide)) (brackets _ (by decide)) 1
  simp only [BracketsMatch, subselect, String.toList_append, depthAfter?_append, opened, level, closed,
    Option.bind_some]

theorem obeys_subselect {kind : EntityKind} (opening : Obeys rules (subselectOpening kind)) :
    Obeys rules (subselect kind names) := by
  have comma : Divides rules "," := divides_of_silent (by decide)
  have closing : Trail ")" := by decide
  have last : (subselectOpening kind).toList.getLast? = some '(' := by
    cases kind <;> decide +kernel
  have quoted : ∀ q ∈ names.map quote, Obeys rules q := by
    intro q member
    obtain ⟨n, listed, rfl⟩ := List.mem_map.1 member
    obtain ⟨kind, index, rfl⟩ := simulated n listed
    exact obeys_quote kind index
  have quotes := opening.append_of_last (comma.intercalate quoted) last (cut_of_isBreak rfl)
  exact quotes.append closing

end Filters

section Forms

theorem silent_select : Silent "SELECT" := by decide

theorem silent_source : Silent ("FROM " ++ table) := by decide

theorem lead_indent : Lead "    " := by decide

theorem trail_comma : Trail "," := by decide

theorem trail_ascending : Trail " ASC" := by decide

-- A statement that groups rows: the lines around its join and its conditions.
def Framed (layout : TagLayout) (rules : List Rule) (conditions : List String) (text : String) :
    Prop :=
  ∃ above below,
    text = lines (above ++ layout.join table :: whereLine conditions :: below) ∧
    (∃ line ∈ above, line ≠ "") ∧ (∃ line ∈ below, line ≠ "") ∧
    ∀ line ∈ above ++ below, Obeys rules line

variable {layout : TagLayout} {rules : List Rule} {conditions : List String}

theorem framed_hourlyAverage {averages : List String} {entity time : String}
    (each : ∀ a ∈ averages, Obeys rules a) (entityObeys : Obeys rules entity)
    (timeObeys : Obeys rules time) :
    Framed layout rules conditions (hourlyAverage layout averages entity time conditions) := by
  have hourOf : Lead "    toStartOfHour(" := by decide
  have asHour : Trail ") AS hour," := by decide
  have between : Divides rules ", " := divides_of_silent (by decide)
  have group : Lead "GROUP BY hour, " := by decide
  have order : Lead "ORDER BY hour ASC, " := by decide
  refine ⟨[_, _, _, _, _], [_, _], rfl, ⟨_, List.mem_cons_self, by decide⟩,
    ⟨_, List.mem_cons_self, by simp⟩, ?_⟩
  simp only [List.cons_append, List.nil_append, List.forall_mem_cons]
  exact ⟨silent_select.obeys, (hourOf.append timeObeys).append asHour,
    (lead_indent.append entityObeys).append trail_comma,
    lead_indent.append (between.intercalate each), silent_source.obeys, group.append entityObeys,
    (order.append entityObeys).append trail_ascending, nofun⟩

theorem framed_top {host : String} (k : Nat) (hostObeys : Obeys rules host) :
    Framed layout rules conditions (top layout k host conditions) := by
  have highest : Silent ("    max(" ++ table ++ "." ++ Metric.ranking ++ ") AS " ++
    ("max_" ++ Metric.ranking) ++ ",") := by decide +kernel
  have group : Lead "GROUP BY " := by decide
  have order : Silent ("ORDER BY " ++ ("max_" ++ Metric.ranking) ++ " DESC") := by decide +kernel
  have limit : Lead "LIMIT " := by decide
  refine ⟨[_, _, _, _], [_, _, _], rfl, ⟨_, List.mem_cons_self, by decide⟩,
    ⟨_, List.mem_cons_self, by simp⟩, ?_⟩
  simp only [List.cons_append, List.nil_append, List.forall_mem_cons]
  exact ⟨silent_select.obeys, highest.obeys, lead_indent.append hostObeys, silent_source.obeys,
    group.append hostObeys, order.obeys, limit.append (silent_numeral k).obeys, nofun⟩

theorem framed_counterRate {host time : String} (hostObeys : Obeys rules host)
    (timeObeys : Obeys rules time) :
    Framed layout rules conditions (counterRate layout host time conditions) := by
  have minuteOf : Lead "    toStartOfMinute(" := by decide
  have asMinute : Trail ") AS minute," := by decide
  have rate : Silent ("    (max(" ++ Metric.counter ++ ") - min(" ++ Metric.counter ++
    ")) / 60 AS rate_" ++ Metric.counter) := by decide +kernel
  have group : Lead "GROUP BY minute, " := by decide
  have order : Lead "ORDER BY minute ASC, " := by decide
  refine ⟨[_, _, _, _, _], [_, _], rfl, ⟨_, List.mem_cons_self, by decide⟩,
    ⟨_, List.mem_cons_self, by simp⟩, ?_⟩
  simp only [List.cons_append, List.nil_append, List.forall_mem_cons]
  exact ⟨silent_select.obeys, (minuteOf.append timeObeys).append asMinute,
    (lead_indent.append hostObeys).append trail_comma, rate.obeys, silent_source.obeys,
    group.append hostObeys, (order.append hostObeys).append trail_ascending, nofun⟩

end Forms

section Lines

variable {rules : List Rule} {parts : List String} {text : String}

theorem obeys_lines (cut : Cut rules '\n') (each : ∀ line ∈ parts, Obeys rules line) :
    Obeys rules (lines parts) := by
  refine (divides_newline cut).intercalate ?_
  intro line member
  exact each line (List.mem_of_mem_filter member)

theorem lines_append {above below : List String} (begun : ∃ line ∈ above, line ≠ "")
    (ended : ∃ line ∈ below, line ≠ "") :
    lines (above ++ below) = lines above ++ "\n" ++ lines below := by
  have kept {lines : List String} (written : ∃ line ∈ lines, line ≠ "") :
      lines.filter (· ≠ "") ≠ [] := by
    obtain ⟨line, member, filled⟩ := written
    exact List.ne_nil_of_mem (List.mem_filter.2 ⟨member, by simp [filled]⟩)
  rw [lines, List.filter_append, String.intercalate_append_of_ne_nil (kept begun) (kept ended)]
  rfl

theorem lines_cons {line : String} {below : List String} (filled : line ≠ "")
    (ended : ∃ line ∈ below, line ≠ "") : lines (line :: below) = line ++ "\n" ++ lines below := by
  have kept : [line].filter (· ≠ "") = [line] := by simp [filled]
  have single : lines [line] = line := by rw [lines, kept, String.intercalate_singleton]
  rw [← List.singleton_append, lines_append ⟨line, List.mem_cons_self, filled⟩ ended, single]

theorem Obeys.nowhere {word : Word} (obeys : Obeys rules text) (ruled : never word ∈ rules) :
    sites word.text.toList text.toList = [] := by
  rw [List.eq_nil_iff_forall_not_mem]
  intro before site
  cases obeys _ ruled before site

theorem Obeys.newline_not_mem (obeys : Obeys rules text) (ruled : never .newline ∈ rules) :
    '\n' ∉ text.toList := by
  intro member
  obtain ⟨before, after, split⟩ := List.append_of_mem member
  have site : before ∈ sites Word.newline.text.toList text.toList :=
    mem_sites.2 ⟨after, by simp [Word.text, split]⟩
  rw [obeys.nowhere ruled] at site
  cases site

theorem Obeys.led {lead : String} {word : Word} (obeys : Obeys rules text)
    (ruled : qualified lead word ∈ rules) :
    ∀ site ∈ sites word.text.toList text.toList, lead.toList <:+ site := by
  intro site member
  have allowed := obeys _ ruled site member
  exact List.isSuffixOf_iff_suffix.1 allowed

-- The text of a statement: some lines, each of which obeys the rules.
def Lined (rules : List Rule) (text : String) : Prop :=
  ∃ parts, text = lines parts ∧ (∃ line ∈ parts, line ≠ "") ∧ ∀ line ∈ parts, Obeys rules line

theorem Lined.obeys {fewer : List Rule} (lined : Lined rules text) (less : fewer ⊆ rules)
    (cut : Cut fewer '\n') : Obeys fewer text := by
  obtain ⟨parts, rfl, _, each⟩ := lined
  exact obeys_lines cut fun line member => (each line member).mono less

theorem Lined.not_contains (lined : Lined rules text) {word : Word} (ruled : never word ∈ rules)
    (cut : '\n' ∉ word.text.toList) : ¬ Contains text word.text := by
  have less : [never word] ⊆ rules := by simpa using ruled
  have obeys := lined.obeys less (List.forall_mem_singleton.2 cut)
  exact not_contains_of_sites (obeys.nowhere List.mem_cons_self)

theorem Lined.filled (lined : Lined rules text) (ruled : never .newline ∈ rules) :
    ∀ line ∈ text.toList.splitOn '\n', line ≠ [] := by
  obtain ⟨parts, rfl, ⟨line, member, filled⟩, each⟩ := lined
  have apart : ∀ l ∈ (parts.filter (· ≠ "")).map String.toList, '\n' ∉ l := by
    intro l member
    obtain ⟨line, kept, rfl⟩ := List.mem_map.1 member
    exact (each line (List.mem_of_mem_filter kept)).newline_not_mem ruled
  have begun : (parts.filter (· ≠ "")).map String.toList ≠ [] :=
    List.ne_nil_of_mem (List.mem_map_of_mem (List.mem_filter.2 ⟨member, by simp [filled]⟩))
  -- No line has an end of a line in it, so these are the lines that a reader finds.
  have split : (lines parts).toList.splitOn '\n' = (parts.filter (· ≠ "")).map String.toList := by
    rw [lines, String.toList_intercalate]
    exact List.splitOn_intercalate '\n' apart begun
  rw [split]
  intro l inside
  obtain ⟨line, kept, rfl⟩ := List.mem_map.1 inside
  simpa using (List.mem_filter.1 kept).2

theorem Framed.lined {layout : TagLayout} {conditions : List String}
    (framed : Framed layout rules conditions text) (join : Obeys rules (layout.join table))
    (each : ∀ c ∈ conditions, Obeys rules c) : Lined rules text := by
  obtain ⟨above, below, rfl, ⟨line, member, filled⟩, _, around⟩ := framed
  refine ⟨_, rfl, ⟨line, List.mem_append_left _ member, filled⟩, ?_⟩
  rw [List.forall_mem_append] at around ⊢
  rw [List.forall_mem_cons, List.forall_mem_cons]
  exact ⟨around.1, join, obeys_whereLine each, around.2⟩

end Lines

end Sql

end QueryWorkload
