import QueryWorkload.Proofs.Occurrence
import QueryWorkload.Proofs.TimeLiteral

set_option autoImplicit false

namespace QueryWorkload.Sql

open Text

-- The end of a line counts as a word.
inductive Word where
  | tagTable
  | join
  | tagAlias
  | time
  | host
  | cluster
  | state
  | newline
  deriving DecidableEq

namespace Word

def text : Word → String
  | tagTable => "tags"
  | join => "JOIN"
  | tagAlias => "t."
  | time => "created_at"
  | host => "hostname"
  | cluster => "clusterName"
  | state => "replicaSetState"
  | newline => "\n"

def all : List Word :=
  [tagTable, join, tagAlias, time, host, cluster, state, newline]

theorem mem_all (word : Word) : word ∈ all := by
  cases word <;> decide

end Word

-- A word stands directly behind a lead wherever it occurs, or it does not occur.
structure Rule where
  word : Word
  lead? : Option String

def never (word : Word) : Rule :=
  ⟨word, none⟩

def qualified (lead : String) (word : Word) : Rule :=
  ⟨word, some lead⟩

def Rule.allows (r : Rule) (before : List Char) : Bool :=
  r.lead?.any fun lead => lead.toList.isSuffixOf before

def Obeys (rules : List Rule) (text : String) : Prop :=
  ∀ r ∈ rules, ∀ before ∈ sites r.word.text.toList text.toList, r.allows before = true

instance (rules : List Rule) (text : String) : Decidable (Obeys rules text) :=
  inferInstanceAs (Decidable (∀ r ∈ rules, ∀ before ∈ sites r.word.text.toList text.toList,
    r.allows before = true))

def Silent (text : String) : Prop :=
  ∀ word ∈ Word.all, sites word.text.toList text.toList = []

instance (text : String) : Decidable (Silent text) :=
  inferInstanceAs (Decidable (∀ word ∈ Word.all, sites word.text.toList text.toList = []))

-- A character that no word of the rules goes across.
def Cut (rules : List Rule) (c : Char) : Prop :=
  ∀ r ∈ rules, c ∉ r.word.text.toList

instance (rules : List Rule) (c : Char) : Decidable (Cut rules c) :=
  inferInstanceAs (Decidable (∀ r ∈ rules, c ∉ r.word.text.toList))

def isBreak (c : Char) : Bool :=
  [' ', '\'', '(', ')', ','].contains c

def Lead (text : String) : Prop :=
  Silent text ∧ text.toList.getLast?.any isBreak = true

instance (text : String) : Decidable (Lead text) :=
  inferInstanceAs (Decidable (_ ∧ _))

def Trail (text : String) : Prop :=
  Silent text ∧ text.toList.head?.any isBreak = true

instance (text : String) : Decidable (Trail text) :=
  inferInstanceAs (Decidable (_ ∧ _))

section Rules

variable {rules : List Rule} {a b : String}

theorem Rule.allows_append {r : Rule} {before : List Char} (allowed : r.allows before = true)
    (earlier : List Char) : r.allows (earlier ++ before) = true := by
  rw [allows, Option.any_eq_true] at *
  obtain ⟨lead, led, ends⟩ := allowed
  rw [List.isSuffixOf_iff_suffix] at ends
  exact ⟨lead, led, List.isSuffixOf_iff_suffix.2 (ends.trans (List.suffix_append _ _))⟩

theorem Obeys.mono {rules' : List Rule} (obeys : Obeys rules a) (fewer : rules' ⊆ rules) :
    Obeys rules' a :=
  fun r member => obeys r (fewer member)

theorem Silent.obeys (silent : Silent a) : Obeys rules a := by
  intro r _ before site
  rw [silent r.word r.word.mem_all] at site
  cases site

theorem not_mem_of_isBreak {c : Char} (breaks : isBreak c = true) (word : Word) :
    c ∉ word.text.toList := by
  have whole : ∀ word ∈ Word.all, word.text.toList.any isBreak = false := by decide
  intro member
  exact List.any_eq_false.1 (whole word word.mem_all) c member breaks

theorem cut_of_isBreak {c : Char} (breaks : isBreak c = true) : Cut rules c :=
  fun r _ => not_mem_of_isBreak breaks r.word

-- The first character of the second text is in no word, so no word goes across the border; likewise the
-- last character of the first text below.
theorem Obeys.append_of_head {c : Char} (left : Obeys rules a) (right : Obeys rules b)
    (head : b.toList.head? = some c) (cut : Cut rules c) : Obeys rules (a ++ b) := by
  obtain ⟨rest, split⟩ := List.head?_eq_some_iff.1 head
  intro r member before site
  have parts := sites_append_cons (cut r member) a.toList rest
  rw [String.toList_append, split, parts, List.mem_append, List.mem_map] at site
  rcases site with site | ⟨later, site, rfl⟩
  · exact left r member before site
  · have inside : c :: later ∈ sites r.word.text.toList b.toList := by
      rw [mem_sites] at site
      rw [split, mem_sites, List.cons_append, List.cons_prefix_cons]
      exact ⟨rfl, site⟩
    exact r.allows_append (right r member _ inside) a.toList

theorem Obeys.append_of_last {c : Char} (left : Obeys rules a) (right : Obeys rules b)
    (last : a.toList.getLast? = some c) (cut : Cut rules c) : Obeys rules (a ++ b) := by
  obtain ⟨rest, split⟩ := List.getLast?_eq_some_iff.1 last
  intro r member before site
  have parts := sites_append_cons (cut r member) rest b.toList
  rw [String.toList_append, split, List.append_assoc, List.singleton_append, parts,
    List.mem_append, List.mem_map] at site
  rcases site with site | ⟨later, site, rfl⟩
  · have inside : before ∈ sites r.word.text.toList a.toList := by
      rw [mem_sites] at site ⊢
      rw [split]
      exact site.trans (List.prefix_append _ _)
    exact left r member before inside
  · rw [← List.concat_append]
    exact r.allows_append (right r member later site) (rest.concat c)

theorem Lead.append (lead : Lead a) (obeys : Obeys rules b) : Obeys rules (a ++ b) := by
  obtain ⟨c, last, breaks⟩ := (Option.any_eq_true _ _).1 lead.2
  exact lead.1.obeys.append_of_last obeys last (cut_of_isBreak breaks)

theorem Obeys.append (obeys : Obeys rules a) (trail : Trail b) : Obeys rules (a ++ b) := by
  obtain ⟨c, head, breaks⟩ := (Option.any_eq_true _ _).1 trail.2
  exact obeys.append_of_head trail.1.obeys head (cut_of_isBreak breaks)

structure Divides (rules : List Rule) (between : String) : Prop where
  obeys : Obeys rules between
  head : ∃ c, between.toList.head? = some c ∧ Cut rules c
  last : ∃ c, between.toList.getLast? = some c ∧ Cut rules c

theorem divides_of_silent (silent : Lead a ∧ Trail a) : Divides rules a := by
  obtain ⟨c, head, first⟩ := (Option.any_eq_true _ _).1 silent.2.2
  obtain ⟨d, last, breaks⟩ := (Option.any_eq_true _ _).1 silent.1.2
  exact ⟨silent.1.1.obeys, ⟨c, head, cut_of_isBreak first⟩, ⟨d, last, cut_of_isBreak breaks⟩⟩

theorem divides_newline (cut : Cut rules '\n') : Divides rules "\n" := by
  have begun : ∀ word ∈ Word.all, word.text.toList ≠ [] := by decide
  refine ⟨?_, ⟨'\n', rfl, cut⟩, ⟨'\n', rfl, cut⟩⟩
  intro r member before site
  obtain ⟨c, rest, split⟩ := List.exists_cons_of_ne_nil (begun r.word r.word.mem_all)
  have first : c ∈ r.word.text.toList := split ▸ List.mem_cons_self
  have missing : c ∉ "\n".toList := by
    intro inside
    have same : c = '\n' := by simpa using inside
    exact cut r member (same ▸ first)
  rw [sites_eq_nil first missing] at site
  cases site

theorem Divides.join {between : String} (divides : Divides rules between) (left : Obeys rules a)
    (right : Obeys rules b) : Obeys rules (a ++ between ++ b) := by
  obtain ⟨c, head, first⟩ := divides.head
  obtain ⟨d, last, cut⟩ := divides.last
  have ends : (a ++ between).toList.getLast? = some d := by simp [last]
  exact (left.append_of_head divides.obeys head first).append_of_last right ends cut

theorem Divides.intercalate {between : String} (divides : Divides rules between)
    {parts : List String} (each : ∀ part ∈ parts, Obeys rules part) :
    Obeys rules (between.intercalate parts) := by
  induction parts with
  | nil =>
    have silent : Silent "" := by decide
    exact silent.obeys
  | cons part parts ih =>
    rw [List.forall_mem_cons] at each
    cases parts with
    | nil =>
      rw [String.intercalate_singleton]
      exact each.1
    | cons next parts =>
      rw [String.intercalate_cons_cons]
      exact divides.join each.1 (ih each.2)

end Rules

section Drawn

-- No word begins with a character of the first text.
theorem Silent.append_left {a b : String} (silent : Silent b)
    (apart : ∀ word ∈ Word.all, word.text.toList.head?.any (· ∉ a.toList) = true) :
    Silent (a ++ b) := by
  intro word known
  obtain ⟨first, head, other⟩ := (Option.any_eq_true _ _).1 (apart word known)
  obtain ⟨rest, split⟩ := List.head?_eq_some_iff.1 head
  have missing : first ∉ a.toList := of_decide_eq_true other
  have nowhere := silent word known
  rw [split] at nowhere ⊢
  rw [String.toList_append, sites_append_of_not_mem missing, nowhere, List.map_nil]

-- Texts of digits and a few other characters, when every word has a letter that is not among these.
theorem silent_of_chars {text : String} (others : List Char)
    (chars : ∀ c ∈ text.toList, c ∈ others ∨ c.isDigit = true)
    (apart : ∀ word ∈ Word.all,
      word.text.toList.any (fun c => c ∉ others ∧ ¬ c.isDigit = true) = true) :
    Silent text := by
  intro word known
  obtain ⟨c, member, decided⟩ := List.any_eq_true.1 (apart word known)
  obtain ⟨other, letter⟩ := of_decide_eq_true decided
  apply sites_eq_nil member
  intro inside
  exact (chars c inside).elim other letter

theorem silent_numeral (n : Nat) : Silent (numeral n) := by
  apply silent_of_chars []
  · intro c member
    rw [toList_numeral] at member
    exact .inr (isDigit_of_mem_digits member)
  · decide

theorem silent_name (kind : EntityKind) (index : Nat) : Silent (Names.name kind index) := by
  apply silent_of_chars (kind.word ++ "_").toList
  · intro c member
    rw [Names.name, String.toList_append, List.mem_append, toList_numeral] at member
    exact member.imp_right isDigit_of_mem_digits
  · cases kind <;> decide

def isTimeChar (c : Char) : Prop :=
  c ∈ ['-', '+', ' ', ':'] ∨ c.isDigit = true

theorem isTimeChar_zeroPadded (width n : Nat) :
    ∀ c ∈ (zeroPadded width n).toList, isTimeChar c := by
  intro c member
  rw [zeroPadded, String.toList_ofList] at member
  exact .inr (isDigit_of_mem_padLeft member)

theorem isTimeChar_yearText (y : Int) : ∀ c ∈ (Date.yearText y).toList, isTimeChar c := by
  unfold Date.yearText
  split
  · exact isTimeChar_zeroPadded _ _
  · rw [String.toList_append, List.forall_mem_append]
    refine ⟨?_, isTimeChar_zeroPadded _ _⟩
    split <;> simp [isTimeChar]

theorem silent_dateTime (t : Instant) : Silent (t.dateTime " ") := by
  apply silent_of_chars ['-', '+', ' ', ':']
  · change ∀ c ∈ (t.dateTime " ").toList, isTimeChar c
    simp only [Instant.dateTime, Date.text, Instant.timeText, String.toList_append,
      List.forall_mem_append]
    have dash : ∀ c ∈ "-".toList, isTimeChar c := by simp [isTimeChar]
    have blank : ∀ c ∈ " ".toList, isTimeChar c := by simp [isTimeChar]
    have colon : ∀ c ∈ ":".toList, isTimeChar c := by simp [isTimeChar]
    have padded := isTimeChar_zeroPadded 2
    exact ⟨⟨⟨⟨⟨⟨isTimeChar_yearText _, dash⟩, padded _⟩, dash⟩, padded _⟩, blank⟩,
      ⟨⟨⟨padded _, colon⟩, padded _⟩, colon⟩, padded _⟩
  · decide

-- Names given by their characters, which are quicker to search than names that are taken apart first.
theorem silent_of_spelled {texts : List (List Char)} {names : List String}
    (spelled : List.Forall₂ (fun text name => name = String.ofList text) texts names)
    (quiet : ∀ text ∈ texts, ∀ word ∈ Word.all, sites word.text.toList text = []) :
    ∀ name ∈ names, Silent name := by
  induction spelled with
  | nil => exact nofun
  | cons spells _ ih =>
    rw [List.forall_mem_cons] at quiet ⊢
    refine ⟨?_, ih quiet.2⟩
    rw [spells, Silent, String.toList_ofList]
    exact quiet.1

theorem silent_metric : ∀ m ∈ Metric.catalogue, Silent m := by
  apply silent_of_spelled
  · unfold Metric.catalogue
    repeat' constructor
  · decide +kernel

end Drawn

section Pieces

variable {rules : List Rule} {column : String}

theorem obeys_average {m : String} (known : m ∈ Metric.catalogue) :
    Obeys rules ("avg" ++ "(" ++ m ++ ") AS " ++ "avg" ++ "_" ++ m) := by
  have opening : Lead ("avg" ++ "(") := by decide
  have middle : Divides rules ") AS " := divides_of_silent (by decide)
  have silent := silent_metric m known
  have named : Silent ("avg" ++ "_" ++ m) := silent.append_left (by decide)
  have split : "avg" ++ "(" ++ m ++ ") AS " ++ "avg" ++ "_" ++ m =
      "avg" ++ "(" ++ m ++ ") AS " ++ ("avg" ++ "_" ++ m) := by
    simp only [String.append_assoc]
  rw [split]
  exact middle.join (opening.append silent.obeys) named.obeys

theorem obeys_averages {metrics averages : List String} (known : ∀ m ∈ metrics, m ∈ Metric.catalogue)
    (averaged : aggregates "avg" metrics = .ok averages) : ∀ a ∈ averages, Obeys rules a := by
  unfold aggregates at averaged
  split at averaged
  · cases averaged
  · cases averaged
    intro a member
    obtain ⟨m, listed, rfl⟩ := List.mem_map.1 member
    exact obeys_average (known m listed)

theorem obeys_timeRange (obeys : Obeys rules column) (w : TimeRange) :
    Obeys rules (timeRange column w) := by
  have opening : Lead "(" := by decide
  have first : Divides rules " >= '" := divides_of_silent (by decide)
  have middle : Divides rules "') AND (" := divides_of_silent (by decide)
  have second : Divides rules " < '" := divides_of_silent (by decide)
  have closing : Trail "')" := by decide
  have start : Obeys rules (w.start.dateTime " ") := (silent_dateTime w.start).obeys
  have stop : Obeys rules (w.stop.dateTime " ") := (silent_dateTime w.stop).obeys
  unfold timeRange
  have bounds := second.join (middle.join (first.join (opening.append obeys) start) obeys) stop
  exact bounds.append closing

theorem obeys_whereLine {conditions : List String} (each : ∀ c ∈ conditions, Obeys rules c) :
    Obeys rules (whereLine conditions) := by
  have silent : Silent "" := by decide
  have opening : Lead "WHERE " := by decide
  have between : Divides rules " AND " := divides_of_silent (by decide)
  unfold whereLine
  split
  · exact silent.obeys
  · exact opening.append (between.intercalate each)

end Pieces

end QueryWorkload.Sql
