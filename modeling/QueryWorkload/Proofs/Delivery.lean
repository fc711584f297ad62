import QueryWorkload.CommandLine.Run
import QueryWorkload.Proofs.OutputLines
import QueryWorkload.Proofs.Workers

set_option autoImplicit false

namespace QueryWorkload

theorem Workload.ids_of_generate {c : Settings} {entropy : UInt64} {qs : List Query}
    (generated : Workload.generate c entropy = .ok qs) :
    qs.map Query.id = List.range c.queries.toNat := by
  obtain ⟨job, built, _, ran⟩ := generate_eq_ok.1 generated
  obtain ⟨batches, shares, rfl⟩ := Job.run_eq_ok.1 ran
  rw [(Job.flatten_shares (compiler_of_job built) shares).1, Plan.flatMap_split]

-- A line for each query, in order, with one newline after it.
structure Output.Lists (text : String) (qs : List Query) : Prop where
  written : text = String.join (qs.map fun q => q.line ++ "\n")
  split : text.toList.splitOn '\n' = (qs.map fun q => q.line.toList) ++ [[]]
  read : ∀ q ∈ qs, Json.read q.line = some q.toJson

theorem Output.lists_text (qs : List Query) : Lists (text qs) qs where
  written := rfl
  split := by simp only [splitOn_text, lines, List.map_map, Function.comp_def]
  read q _ := q.read_line

namespace CommandLine

variable {W F α β : Type}

-- What is asked of the files that a run works on: they are written as a whole or not at all. Here
-- `named? w path` is the file that a path leads to, be it there or not (a device is none), and
-- `text? w f` is what a file holds.
structure Files.Lawful (files : Files (StateM W)) (named? : W → String → Option F)
    (text? : W → F → Option String) : Prop where
  read_keeps : ∀ w path, (files.read path w).2 = w
  read_text : ∀ w path text f, (files.read path w).1 = .ok text → named? w path = some f →
    text? w f = some text
  uncreated : ∀ w path text why, (files.write path text w).1 = .error (.opening why) →
    (files.write path text w).2 = w
  unwritten : ∀ w path text why, (files.write path text w).1 = .error (.writing why) →
    (files.write path text w).2 = w
  replaced : ∀ w path text f, (files.write path text w).1 = .ok () → named? w path = some f →
    text? (files.write path text w).2 f = some text
  others : ∀ w path text f, (files.write path text w).1 = .ok () → named? w path ≠ some f →
    text? (files.write path text w).2 f = text? w f

theorem exit_failed (message : String) : (failed message).exit ≠ 0 := Nat.one_ne_zero

theorem exit_crashed (why : Fault) : (crashed why).exit ≠ 0 := Nat.succ_ne_zero 100

theorem Usage.output_of_exit {usage : Usage} (refused : usage.outcome.exit ≠ 0) :
    usage.outcome.output = "" := by
  cases usage with
  | help => exact absurd rfl refused
  | version => exact absurd rfl refused
  | _ => rfl

def after (w : W) (m : StateM W α) : α × W :=
  m w

@[simp] theorem after_pure (w : W) (a : α) : after w (pure a) = (a, w) := rfl

@[simp] theorem after_bind (w : W) (m : StateM W α) (f : α → StateM W β) :
    after w (m >>= f) = after (after w m).2 (f (after w m).1) := rfl

-- The settings are those of the file as it is, or the standard ones.
def Holds (files : Files (StateM W)) (w : W) (c : Settings) : Option String → Prop
  | none => c = .standard
  | some path => ∃ text, (after w (files.read path)).1 = .ok text ∧ Settings.ofYaml? text = some c

-- The settings that a run starts from, and the queries that come of them.
structure Gives (files : Files (StateM W)) (w : W) (o : Overrides) (entropy : UInt64) (c : Settings)
    (qs : List Query) : Prop where
  held : Holds files w c o.config
  generated : Workload.generate (o.apply c) entropy = .ok qs

-- What a run leaves that comes through: a text on the standard output, or in one file and in no other.
structure Delivered (named? : W → String → Option F) (text? : W → F → Option String) (w : W)
    (output? : Option String) (text : String) (left : Outcome × W) : Prop where
  printed : output? = none → left.1.output = text ∧ left.2 = w
  stored : ∀ path, output? = some path → left.1.output = "" ∧
    (∀ f, named? w path = some f → text? left.2 f = some text) ∧
    ∀ f, named? w path ≠ some f → text? left.2 f = text? w f

def Accepts (files : Files (StateM W)) (w : W) (qs : List Query) : Option String → Prop
  | none => True
  | some path => (after w (files.write path (Output.text qs))).1 = .ok ()

section Steps

variable {files : Files (StateM W)} {named? : W → String → Option F}
  {text? : W → F → Option String} {w : W}

theorem Files.Lawful.after_read (lawful : files.Lawful named? text?) (w : W) (path : String) :
    (after w (files.read path)).2 = w :=
  lawful.read_keeps w path

theorem Files.Lawful.after_write_error (lawful : files.Lawful named? text?) {path text : String}
    {why : WriteError} (failed : (after w (files.write path text)).1 = .error why) :
    after w (files.write path text) = (.error why, w) := by
  refine Prod.ext failed ?_
  cases why with
  | opening why => exact lawful.uncreated w path text why failed
  | writing why => exact lawful.unwritten w path text why failed

theorem holds_unique {config? : Option String} {c c' : Settings} (held : Holds files w c config?)
    (held' : Holds files w c' config?) : c = c' := by
  cases config? with
  | none => exact held.trans held'.symm
  | some path =>
    obtain ⟨text, read, parsed⟩ := held
    obtain ⟨text', read', parsed'⟩ := held'
    cases read.symm.trans read'
    exact Option.some.inj (parsed.symm.trans parsed')

theorem gives_unique {o : Overrides} {entropy : UInt64} {c c' : Settings} {qs qs' : List Query}
    (given : Gives files w o entropy c qs) (given' : Gives files w o entropy c' qs') :
    c = c' ∧ qs = qs' := by
  obtain rfl := holds_unique given.held given'.held
  exact ⟨rfl, Except.ok.inj (given.generated.symm.trans given'.generated)⟩

theorem load_cases (lawful : files.Lawful named? text?) (w : W) (config? : Option String) :
    (∃ c, Holds files w c config? ∧ after w (load files config?) = (.ok c, w)) ∨
      (∀ c, ¬ Holds files w c config?) ∧
        ∃ message, after w (load files config?) = (.error message, w) := by
  cases config? with
  | none => exact .inl ⟨.standard, rfl, rfl⟩
  | some path =>
    simp only [load, after_bind, lawful.after_read, Holds]
    cases (after w (files.read path)).1 with
    | error e => exact .inr ⟨by simp, _, rfl⟩
    | ok text =>
      cases parsed : Settings.ofYaml? text with
      | none => exact .inr ⟨by simp [parsed], by simp [parsed]⟩
      | some c => exact .inl ⟨c, ⟨text, rfl, parsed⟩, by simp [parsed]⟩

theorem deliver_of_accepts (lawful : files.Lawful named? text?) {qs : List Query}
    {output? : Option String} (accepted : Accepts files w qs output?) :
    (after w (deliver files qs output?)).1.exit = 0 ∧
      Delivered named? text? w output? (Output.text qs) (after w (deliver files qs output?)) := by
  cases output? with
  | none => exact ⟨rfl, ⟨fun _ => ⟨rfl, rfl⟩, nofun⟩⟩
  | some path =>
    have written : (after w (files.write path (Output.text qs))).1 = .ok () := accepted
    have went : after w (deliver files qs (some path)) =
        ({ exit := 0 }, (after w (files.write path (Output.text qs))).2) := by
      simp only [deliver, after_bind, written, after_pure]
    rw [went]
    refine ⟨rfl, ⟨nofun, ?_⟩⟩
    rintro _ ⟨⟩
    exact ⟨rfl, fun f => lawful.replaced w path _ f written, fun f => lawful.others w path _ f written⟩

theorem deliver_of_not_accepts (lawful : files.Lawful named? text?) {qs : List Query}
    {output? : Option String} (closed : ¬ Accepts files w qs output?) :
    ∃ message, after w (deliver files qs output?) = (failed message, w) := by
  cases output? with
  | none => exact absurd trivial closed
  | some path =>
    cases written : (after w (files.write path (Output.text qs))).1 with
    | ok _ => exact absurd written closed
    | error why =>
      have kept := lawful.after_write_error written
      simp only [deliver, after_bind, kept]
      cases why with
      | opening e => exact ⟨_, rfl⟩
      | writing e => exact ⟨_, rfl⟩

-- Whatever fails, fails before anything is written.
theorem generate_cases (lawful : files.Lawful named? text?) (w : W) (o : Overrides)
    (entropy : UInt64) :
    (∃ c qs, Gives files w o entropy c qs ∧ Accepts files w qs o.output ∧
      after w (generate files o entropy) = after w (deliver files qs o.output)) ∨
    (¬ ∃ c qs, Gives files w o entropy c qs ∧ Accepts files w qs o.output) ∧
      ∃ outcome, after w (generate files o entropy) = (outcome, w) ∧ outcome.exit ≠ 0 ∧
        outcome.output = "" := by
  rcases load_cases lawful w o.config with ⟨c, held, loaded⟩ | ⟨unheld, message, refused⟩
  · cases generated : Workload.generate (o.apply c) entropy with
    | ok qs =>
      have given : Gives files w o entropy c qs := ⟨held, generated⟩
      have went : after w (generate files o entropy) = after w (deliver files qs o.output) := by
        simp only [generate, after_bind, loaded, generated]
      by_cases accepted : Accepts files w qs o.output
      · exact .inl ⟨c, qs, given, accepted, went⟩
      · obtain ⟨message, refused⟩ := deliver_of_not_accepts lawful accepted
        refine .inr ⟨?_, failed message, went.trans refused, exit_failed message, rfl⟩
        rintro ⟨c', qs', given', accepted'⟩
        obtain ⟨rfl, rfl⟩ := gives_unique given given'
        exact accepted accepted'
    | error why =>
      refine .inr ⟨?_, ?_⟩
      · rintro ⟨c', qs, given, _⟩
        obtain rfl := holds_unique held given.held
        cases generated.symm.trans given.generated
      · simp only [generate, after_bind, loaded, generated]
        cases why with
        | fault why => exact ⟨crashed why, rfl, exit_crashed why, rfl⟩
        | _ => exact ⟨failed _, rfl, exit_failed _, rfl⟩
  · refine .inr ⟨?_, failed message, ?_, exit_failed message, rfl⟩
    · rintro ⟨c, qs, given, _⟩
      exact unheld c given.held
    · simp only [generate, after_bind, refused, after_pure]

theorem settings_of_holds (lawful : files.Lawful named? text?) {c : Settings} {path : String} {f : F}
    (held : Holds files w c (some path)) (named : named? w path = some f) :
    ∃ text, text? w f = some text ∧ Settings.ofYaml? text = some c := by
  obtain ⟨text, read, parsed⟩ := held
  exact ⟨text, lawful.read_text w path text f read named, parsed⟩

end Steps

/-- A run that ends in an error leaves all files as they were and prints nothing. A run comes through
exactly if its settings can be read and give queries, and these can be put where they are to go. Then
they are there, a line each in the order of their ids, and nowhere else, and the settings were those in
the file before the run, even if it is the one that is written. -/
theorem run_delivers_or_keeps {files : Files (StateM W)} {named? : W → String → Option F}
    {text? : W → F → Option String} (lawful : files.Lawful named? text?) (e : Environment)
    (entropy : UInt64) (args : List String) (w : W) :
    let r := after w (run files e entropy args)
    (r.1.exit ≠ 0 → r.2 = w ∧ r.1.output = "") ∧
    ∀ o, Command.read e args = .ok (.generate o) →
      (r.1.exit = 0 ↔ ∃ c qs, Gives files w o entropy c qs ∧ Accepts files w qs o.output) ∧
      ∀ c qs, Gives files w o entropy c qs → r.1.exit = 0 →
        qs.map Query.id = List.range (o.apply c).queries.toNat ∧
        (∀ path f, o.config = some path → named? w path = some f →
          ∃ text, text? w f = some text ∧ Settings.ofYaml? text = some c) ∧
        ∃ text, Output.Lists text qs ∧ Delivered named? text? w o.output text r := by
  intro r
  cases read : Command.read e args with
  | error usage =>
    have refused : r = (usage.outcome, w) := by simp only [r, run, read, after_pure]
    clear_value r
    subst refused
    refine ⟨fun exit => ⟨rfl, Usage.output_of_exit exit⟩, fun o other => ?_⟩
    cases other
  | ok command =>
    cases command with
    | list =>
      have listed : r = ({ exit := 0, output := listing }, w) := by
        simp only [r, run, read, after_pure]
      clear_value r
      subst listed
      refine ⟨fun exit => absurd rfl exit, fun o other => ?_⟩
      cases other
    | generate o =>
      have ran : r = after w (generate files o entropy) := by simp only [r, run, read]
      clear_value r
      subst ran
      rcases generate_cases lawful w o entropy with
        ⟨c, qs, given, accepted, went⟩ | ⟨short, outcome, went, exit, silent⟩
      · rw [went]
        obtain ⟨exit, delivered⟩ := deliver_of_accepts lawful accepted
        refine ⟨fun failed => absurd exit failed, ?_⟩
        rintro _ ⟨⟩
        refine ⟨iff_of_true exit ⟨c, qs, given, accepted⟩, fun c' qs' given' _ => ?_⟩
        obtain ⟨rfl, rfl⟩ := gives_unique given given'
        refine ⟨Workload.ids_of_generate given.generated, fun path f configured named => ?_,
          Output.text qs, Output.lists_text qs, delivered⟩
        exact settings_of_holds lawful (configured ▸ given.held) named
      · rw [went]
        refine ⟨fun _ => ⟨rfl, silent⟩, ?_⟩
        rintro _ ⟨⟩
        exact ⟨iff_of_false exit short, fun c qs given done => absurd done exit⟩

-- Files held in memory, by the names on their paths.
structure Directory where
  files : List (List String × String)

namespace Directory

-- Empty names and dots say nothing.
def place (path : String) : List String :=
  ((path.toList.splitOn '/').filter fun name => name ≠ [] && name ≠ ['.']).map String.ofList

def text? (d : Directory) (p : List String) : Option String :=
  d.files.lookup p

def read (d : Directory) (path : String) : Except FileError String :=
  match d.text? (place path) with
  | some text => .ok text
  | none => .error .notFound

def operations : Files (StateM Directory) :=
  { read := fun path => do return (← get).read path
    write := fun path text => do
      modify fun d => ⟨(place path, text) :: d.files⟩
      return .ok () }

theorem lawful_operations : operations.Lawful (fun _ path => some (place path)) text? where
  read_keeps d path := rfl
  read_text d path text f given named := by
    cases named
    change d.read path = .ok text at given
    unfold read at given
    split at given
    next stored found =>
      cases given
      exact found
    next => cases given
  uncreated d path text why failed := by cases failed
  unwritten d path text why failed := by cases failed
  replaced d path text f written named := by
    cases named
    exact List.lookup_cons_self
  others d path text f written other := by
    have missed : (f == place path) = false := by
      simpa using fun same => other (congrArg some same.symm)
    change List.lookup f ((place path, text) :: d.files) = d.files.lookup f
    rw [List.lookup_cons, missed]

end Directory

-- The output is written over the settings that it comes from, under another spelling of their name. A
-- query type that there is none of leaves them alone.
theorem run_replaces_its_settings :
    let text := "queries: 2\nseed: 7\n"
    let c : Settings := { queries := 2, seed := some 7 }
    let o : Overrides :=
      { config := some "s", output := some "./s", queryType := some "last-point-primary-host" }
    let d : Directory := ⟨[(["s"], text), (["t"], text)]⟩
    let args := ["generate", "-c", "s", "-o", "./s", "-q", "last-point-primary-host"]
    let r := after d (run Directory.operations {} 0 args)
    let refused := after d (run Directory.operations {} 0 ["generate", "-o", "s", "-q", "none"])
    refused.1.exit ≠ 0 ∧ refused.2 = d ∧ refused.1.output = "" ∧ r.1.exit = 0 ∧
      ∃ qs text', Workload.generate (o.apply c) 0 = .ok qs ∧ qs.map Query.id = [0, 1] ∧
        Output.Lists text' qs ∧ r.2.text? ["s"] = some text' ∧ r.2.text? ["t"] = some text := by
  intro text c o d args r refused
  have read : Command.read {} args = .ok (.generate o) := by rfl
  have other : Directory.place "./s" = ["s"] := by decide
  have parsed : Settings.ofYaml? "queries: 2\nseed: 7\n" = some { queries := 2, seed := some 7 } := by
    decide +kernel
  have stored : (after d (Directory.operations.read "s")).1 = .ok text := by rfl
  have done : (Workload.generate (o.apply c) 0).isOk = true := by decide +kernel
  obtain ⟨qs, generated⟩ := Outcome.exists_of_isOk done
  have given : Gives Directory.operations d o 0 c qs := ⟨⟨text, stored, parsed⟩, generated⟩
  have failed : refused.1.exit ≠ 0 := by decide +kernel
  obtain ⟨kept, silent⟩ := (run_delivers_or_keeps Directory.lawful_operations {} 0 _ d).1 failed
  obtain ⟨exit_iff, whole⟩ :=
    (run_delivers_or_keeps Directory.lawful_operations {} 0 args d).2 o read
  have exit : r.1.exit = 0 := exit_iff.2 ⟨c, qs, given, rfl⟩
  obtain ⟨ids, _, text', lists, delivered⟩ := whole c qs given exit
  obtain ⟨_, there, others⟩ := delivered.stored "./s" rfl
  rw [other] at there others
  exact ⟨failed, kept, silent, exit, qs, text', generated, ids, lists, there _ rfl, others ["t"] (by decide)⟩

end CommandLine

end QueryWorkload
