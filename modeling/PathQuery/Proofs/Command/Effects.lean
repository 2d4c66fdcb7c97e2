import PathQuery.Command.Outcome
import PathQuery.Proofs.Path.Extension
import PathQuery.Proofs.Select.Sequence

/-!
# What a run of the command leaves behind

Everything that may fail before a report is complete leaves the world as it was:
reading a path, a file, standard input or a document, and selecting.  A report
is then handed over at once, to one place.  A file that is refused is left as it
was; standard output may break off within the report, and keeps what it has got.
-/

namespace PathQuery.Command

/-! ## Actions -/

/-- If an action answers a result in a world and leaves another one behind. -/
def Answers {α : Type} (world : World) (action : ExceptT String (StateM World) α)
    (result : Except String α) (after : World) : Prop :=
  action.run.run world = (result, after)

/-- If an action answers a result and leaves the world as it was. -/
def Quiet {α : Type} (world : World) (action : ExceptT String (StateM World) α)
    (result : Except String α) : Prop :=
  Answers world action result world

section Actions

variable {α β : Type} {world middle after : World}
  {action : ExceptT String (StateM World) α} {next : α → ExceptT String (StateM World) β}

theorem quiet_ofExcept (result : Except String α) :
    Quiet world (MonadExcept.ofExcept result) result := by
  cases result with
  | error message => rfl
  | ok value => rfl

/-- What the system answers is no failure of the command yet. -/
theorem answers_lift {request : StateM World α} {value : α}
    (h : request.run world = (value, after)) :
    Answers world (liftM request) (.ok value) after := by
  have hlift : (liftM request : ExceptT String (StateM World) α).run.run world =
      ((.ok (request.run world).1, (request.run world).2) : Except String α × World) := rfl
  rw [Answers, hlift, h]

theorem Answers.bind {value : α} {result : Except String β}
    (haction : Answers world action (.ok value) middle)
    (hnext : Answers middle (next value) result after) :
    Answers world (action >>= next) result after := by
  rw [Answers, ExceptT.run_bind, StateT.run_bind, haction]
  exact hnext

theorem Answers.bind_error {message : String}
    (haction : Answers world action (.error message) after) :
    Answers world (action >>= next) (.error message) after := by
  rw [Answers, ExceptT.run_bind, StateT.run_bind, haction]
  rfl

/-- One quiet action after the other is quiet. -/
theorem Quiet.bind {result : Except String α} {results : α → Except String β}
    (haction : Quiet world action result)
    (hnext : ∀ value, Quiet world (next value) (results value)) :
    Quiet world (action >>= next) (result >>= results) := by
  cases result with
  | error message => exact Answers.bind_error haction
  | ok value => exact Answers.bind haction (hnext value)

end Actions

/-! ## Making a report -/

/-- What a task reads: its file or standard input. -/
def Host.source (host : Host) (files : Directory) (file : Option String) :
    Except FileFault String :=
  match file with
  | some path => host.read files path
  | none => host.stdin

/-- The report that a task comes to. -/
def Host.report (host : Host) (files : Directory) : Task → Except String String
  | .select task => do
    let path ← (Path.parse task.path).mapError (invalidPath task.path)
    let text ← (host.source files task.file).mapError task.unreadable
    let document ← readDocument text
    task.report path document
  | .explain text => Command.explain text
  | .check text => Command.check text

section Prepare

variable {host : Host} {world : World}

/-- Reading changes nothing. -/
theorem quiet_readText (task : SelectTask) :
    Quiet world (task.readText host.system)
      ((host.source world.files task.file).mapError task.unreadable) := by
  rw [SelectTask.readText]
  cases task.file with
  | none =>
      have hread : host.system.readInput.run world = (host.stdin, world) := rfl
      exact (answers_lift hread).bind (quiet_ofExcept _)
  | some path =>
      have hread : (host.system.readFile path).run world =
          (host.read world.files path, world) := rfl
      exact (answers_lift hread).bind (quiet_ofExcept _)

/-- Making a report changes nothing. -/
theorem quiet_prepare (task : Task) :
    Quiet world (task.prepare host.system) (host.report world.files task) := by
  cases task with
  | select task =>
      exact (quiet_ofExcept _).bind fun path => (quiet_readText task).bind fun text =>
        (quiet_ofExcept _).bind fun document => quiet_ofExcept _
  | explain text => exact quiet_ofExcept _
  | check text => exact quiet_ofExcept _

end Prepare

/-! ## Reports -/

/-- The complete reports of a task: every selected node, or the only one, where nothing stands
for null; the steps of a path; how many there are. -/
inductive Reports (host : Host) (files : Directory) : Task → String → Prop
  | all {task : SelectTask} {path : Path} {text : String} {document : Json} {nodes : List Json} :
      task.one = false → Path.parse task.path = .ok path → host.source files task.file = .ok text →
      Json.read text = some document →
      eagerItems task.settings path.steps document document = nodes.map .ok →
      Reports host files (.select task) (String.intercalate "\n" (nodes.map (render task.compact)))
  | one {task : SelectTask} {path : Path} {text : String} {document : Json}
      {found : Option Json} :
      task.one = true → Path.parse task.path = .ok path → host.source files task.file = .ok text →
      Json.read text = some document →
      eagerItems task.settings path.steps document document = found.toList.map .ok →
      Reports host files (.select task) (render task.compact (found.getD .null))
  | explain {text : String} {path : Path} :
      Path.parse text = .ok path → Reports host files (.explain text) path.listing.pretty
  | check {text : String} {path : Path} :
      Path.parse text = .ok path →
      Reports host files (.check text)
        ("ok: " ++ String.ofList (Nat.toDigits 10 path.steps.length) ++ " step(s)")

section Reports

variable {host : Host} {files : Directory} {report : String}

theorem mapError_eq_ok_iff {ε α : Type} {result : Except ε α} {words : ε → String} {value : α} :
    result.mapError words = .ok value ↔ result = .ok value := by
  cases result with
  | error fault => simp [Except.mapError]
  | ok found => simp [Except.mapError]

theorem readDocument_eq_ok_iff {text : String} {document : Json} :
    readDocument text = .ok document ↔ Json.read text = some document := by
  rw [readDocument]
  cases Json.read text with
  | none => simp
  | some found => simp

/-- A selection reports every node, or at most one. -/
theorem selectReport_eq_ok_iff {task : SelectTask} {path : Path} {document : Json} :
    task.report path document = .ok report ↔
      (task.one = false ∧ ∃ nodes : List Json,
        eagerItems task.settings path.steps document document = nodes.map .ok ∧
        String.intercalate "\n" (nodes.map (render task.compact)) = report) ∨
      (task.one = true ∧ ∃ found : Option Json,
        eagerItems task.settings path.steps document document = found.toList.map .ok ∧
        render task.compact (found.getD .null) = report) := by
  rw [SelectTask.report]
  cases task.one with
  | false =>
      simp only [← path.selectAll_eq_ok_iff, Bool.false_eq_true, if_false, false_and, or_false,
        true_and]
      cases path.selectAll task.settings document with
      | error error => simp [Except.mapError, bind, Except.bind]
      | ok nodes => simp [Except.mapError, bind, Except.bind, pure, Except.pure]
  | true =>
      simp only [← path.selectOne_eq_ok_iff, if_true, true_and]
      cases path.selectOne task.settings document with
      | error error => simp [Except.mapError, bind, Except.bind]
      | ok found => simp [Except.mapError, bind, Except.bind, pure, Except.pure]

theorem explain_eq_ok_iff {text : String} :
    explain text = .ok report ↔
      ∃ path, Path.parse text = .ok path ∧ path.listing.pretty = report := by
  rw [explain]
  cases Path.parse text with
  | error error => simp
  | ok path => simp

theorem check_eq_ok_iff {text : String} :
    check text = .ok report ↔ ∃ path, Path.parse text = .ok path ∧
      "ok: " ++ String.ofList (Nat.toDigits 10 path.steps.length) ++ " step(s)" = report := by
  rw [check]
  cases Path.parse text with
  | error error => simp
  | ok path => simp

/-- A task succeeds with its complete report and no other. -/
theorem report_eq_ok_iff {task : Task} :
    host.report files task = .ok report ↔ Reports host files task report := by
  cases task with
  | select task =>
      constructor
      · intro h
        obtain ⟨path, hpath, h⟩ := Path.exists_of_bind_ok h
        obtain ⟨text, htext, h⟩ := Path.exists_of_bind_ok h
        obtain ⟨document, hdocument, h⟩ := Path.exists_of_bind_ok h
        rw [mapError_eq_ok_iff] at hpath htext
        rw [readDocument_eq_ok_iff] at hdocument
        rcases selectReport_eq_ok_iff.1 h with
          ⟨hone, nodes, hnodes, rfl⟩ | ⟨hone, found, hfound, rfl⟩
        · exact .all hone hpath htext hdocument hnodes
        · exact .one hone hpath htext hdocument hfound
      · have hselect : ∀ {path : Path} {text : String} {document : Json},
            Path.parse task.path = .ok path → host.source files task.file = .ok text →
            Json.read text = some document →
            host.report files (.select task) = task.report path document := by
          intro path text document hpath htext hdocument
          rw [Host.report, hpath, htext]
          simp only [Except.mapError, bind, Except.bind, readDocument_eq_ok_iff.2 hdocument]
        intro h
        cases h with
        | all hone hpath htext hdocument hnodes =>
            rw [hselect hpath htext hdocument, selectReport_eq_ok_iff]
            exact Or.inl ⟨hone, _, hnodes, rfl⟩
        | one hone hpath htext hdocument hfound =>
            rw [hselect hpath htext hdocument, selectReport_eq_ok_iff]
            exact Or.inr ⟨hone, _, hfound, rfl⟩
  | explain text =>
      rw [Host.report, explain_eq_ok_iff]
      constructor
      · rintro ⟨path, hpath, rfl⟩
        exact .explain hpath
      · intro h
        cases h with
        | explain hpath => exact ⟨_, hpath, rfl⟩
  | check text =>
      rw [Host.report, check_eq_ok_iff]
      constructor
      · rintro ⟨path, hpath, rfl⟩
        exact .check hpath
      · intro h
        cases h with
        | check hpath => exact ⟨_, hpath, rfl⟩

end Reports

/-! ## Handing over -/

section Deliver

variable {host : Host} {world after : World} {report : String}

theorem run_writeFile (path content : String) :
    (host.system.writeFile path content).run world =
      match host.write world path content with
      | .ok after => (.ok (), after)
      | .error fault => (.error fault, world) := by
  have hrun : (host.system.writeFile path content).run world =
      StateT.run (match host.write world path content with
        | .ok after => do
          set after
          return .ok ()
        | .error fault => return .error fault : StateM World (Except FileFault Unit)) world :=
    rfl
  rw [hrun]
  cases host.write world path content with
  | error fault => rfl
  | ok after => rfl

/-- A file receives a report whole. -/
theorem answers_file {path : String} (h : host.write world path (report ++ "\n") = .ok after) :
    Answers world (deliver host.system (some path) report) (.ok ()) after := by
  have hwrite := @run_writeFile host world path (report ++ "\n")
  rw [h] at hwrite
  exact (answers_lift hwrite).bind (quiet_ofExcept _)

/-- Where a file is refused nothing is changed. -/
theorem answers_refused {path : String} {fault : FileFault}
    (h : host.write world path (report ++ "\n") = .error fault) :
    Answers world (deliver host.system (some path) report) (.error (writeFailure path fault))
      world := by
  have hwrite := @run_writeFile host world path (report ++ "\n")
  rw [h] at hwrite
  exact (answers_lift hwrite).bind (quiet_ofExcept _)

/-- A stream receives what it keeps of a text. -/
theorem run_send (stream : Stream) (text : String) :
    (host.send stream text).run world =
      (host.sent stream text, world.receive (host.kept stream text) stream) :=
  rfl

/-- Standard output receives a report whole, unless it breaks off. -/
theorem answers_print (h : host.tear .output (report ++ "\n") = none) :
    Answers world (deliver host.system none report) (.ok ())
      (world.receive (report ++ "\n") .output) := by
  have hsend := @run_send host world .output (report ++ "\n")
  rw [Host.sent, Host.kept, h] at hsend
  exact (answers_lift hsend).bind (quiet_ofExcept _)

/-- Standard output that breaks off keeps what it has got. -/
theorem answers_torn {length : Nat} {fault : FileFault}
    (h : host.tear .output (report ++ "\n") = some (length, fault)) :
    Answers world (deliver host.system none report) (.error fault.message)
      (world.receive (host.kept .output (report ++ "\n")) .output) := by
  have hsend := @run_send host world .output (report ++ "\n")
  rw [Host.sent, h] at hsend
  exact (answers_lift hsend).bind (quiet_ofExcept _)

end Deliver

/-! ## Whole runs -/

/-- The status behind the words for a failure. -/
def Host.failure (host : Host) (message : String) : Nat :=
  failureStatus (host.sent .errors (complaint message))

/-- A world behind the words for a failure. -/
def Host.complained (host : Host) (world : World) (message : String) : World :=
  world.receive (host.kept .errors (complaint message)) .errors

/-- What performing a task comes to: words on standard error, where there is no report or its
file is refused, or where standard output breaks off, or a report handed over to one place. -/
inductive Invocation.Ends (invocation : Invocation) (host : Host) (world : World) :
    Nat → World → Prop
  | failed {message : String} :
      (∀ report, Reports host world.files invocation.task report →
        ∃ path fault, invocation.output = some path ∧
          host.write world path (report ++ "\n") = .error fault) →
      Ends invocation host world (host.failure message) (host.complained world message)
  | torn {report : String} {length : Nat} {fault : FileFault} :
      Reports host world.files invocation.task report → invocation.output = none →
      host.tear .output (report ++ "\n") = some (length, fault) →
      Ends invocation host world (host.failure fault.message)
        (host.complained (world.receive (host.kept .output (report ++ "\n")) .output)
          fault.message)
  | printed {report : String} :
      Reports host world.files invocation.task report → invocation.output = none →
      host.tear .output (report ++ "\n") = none →
      Ends invocation host world 0 (world.receive (report ++ "\n") .output)
  | filed {report path : String} {after : World} :
      Reports host world.files invocation.task report → invocation.output = some path →
      host.write world path (report ++ "\n") = .ok after →
      Ends invocation host world 0 after

section Runs

variable {invocation : Invocation} {host : Host} {world after : World}

/-- The words for a failure go to standard error. -/
theorem Invocation.perform_error {message : String}
    (h : Answers world
      (invocation.task.prepare host.system >>= deliver host.system invocation.output)
      (.error message) after) :
    (invocation.perform host.system).run world =
      (host.failure message, host.complained after message) := by
  rw [Invocation.perform, StateT.run_bind, h]
  rfl

theorem Invocation.perform_ok
    (h : Answers world
      (invocation.task.prepare host.system >>= deliver host.system invocation.output)
      (.ok ()) after) :
    (invocation.perform host.system).run world = (0, after) := by
  rw [Invocation.perform, StateT.run_bind, h]
  rfl

end Runs

/-- Performing a task comes to one of these, since nothing happens before its report is
complete. -/
theorem Invocation.perform_ends (invocation : Invocation) (host : Host) (world : World) :
    invocation.Ends host world ((invocation.perform host.system).run world).1
      ((invocation.perform host.system).run world).2 := by
  have hprepare : Quiet world (invocation.task.prepare host.system)
      (host.report world.files invocation.task) := quiet_prepare invocation.task
  cases hreport : host.report world.files invocation.task with
  | error message =>
      rw [hreport] at hprepare
      rw [Invocation.perform_error (Answers.bind_error hprepare)]
      apply Invocation.Ends.failed
      intro report hreports
      rw [← report_eq_ok_iff, hreport] at hreports
      contradiction
  | ok report =>
      have hreports := report_eq_ok_iff.1 hreport
      rw [hreport] at hprepare
      cases houtput : invocation.output with
      | none =>
          cases htear : host.tear .output (report ++ "\n") with
          | none =>
              have hprint := @answers_print host world report htear
              rw [Invocation.perform_ok (Answers.bind hprepare (houtput ▸ hprint))]
              exact .printed hreports houtput htear
          | some torn =>
              have hprint := @answers_torn host world report torn.1 torn.2 htear
              rw [Invocation.perform_error (Answers.bind hprepare (houtput ▸ hprint))]
              exact .torn hreports houtput htear
      | some path =>
          cases hwrite : host.write world path (report ++ "\n") with
          | error fault =>
              have hrefused := answers_refused hwrite
              rw [Invocation.perform_error (Answers.bind hprepare (houtput ▸ hrefused))]
              apply Invocation.Ends.failed
              intro other hother
              rw [← report_eq_ok_iff, hreport] at hother
              obtain rfl := Except.ok.inj hother
              exact ⟨path, fault, houtput, hwrite⟩
          | ok after =>
              have hfile := answers_file hwrite
              rw [Invocation.perform_ok (Answers.bind hprepare (houtput ▸ hfile))]
              exact .filed hreports houtput hwrite

section Arguments

variable {host : Host} {arguments : List String}

/-- A misuse leaves the world as it was. -/
theorem perform_misuse (h : Invocation.ofArguments host.matchTime arguments = .error .usage)
    (world : World) : (perform host.system arguments).run world = (2, world) := by
  have hperform : perform host.system arguments = Halt.perform host.system .usage := by
    rw [perform, show host.system.matchTime = host.matchTime from rfl, h]
  rw [hperform]
  rfl

/-- Arguments that lead to a task perform it. -/
theorem ends_of_arguments {invocation : Invocation}
    (h : Invocation.ofArguments host.matchTime arguments = .ok invocation) (world : World) :
    invocation.Ends host world ((perform host.system arguments).run world).1
      ((perform host.system arguments).run world).2 := by
  have hperform : perform host.system arguments = invocation.perform host.system := by
    rw [perform, show host.system.matchTime = host.matchTime from rfl, h]
  rw [hperform]
  exact invocation.perform_ends host world

end Arguments

/-- If a whole report and a line feed went to one place and to no other: to standard output;
to the file that the output option leads to, while all other files are as they were; or to a
device that the output option leads to, which may pass it on to a stream or lose it. -/
inductive Delivered (host : Host) (files : Directory) (report : String) :
    Option String → World → Prop
  | printed : Delivered host files report none ⟨files, report ++ "\n", ""⟩
  | filed {path name : String} {after : World} :
      host.locate files .writing path = .ok ⟨name, none⟩ →
      after.stdout = "" → after.stderr = "" →
      after.files.lookup name = some (report ++ "\n") →
      (∀ other, other ≠ name → after.files.lookup other = files.lookup other) →
      Delivered host files report (some path) after
  | passed {path name : String} {device : Device} {stream : Stream} :
      host.locate files .writing path = .ok ⟨name, some device⟩ →
      device.takes = .ok (some stream) →
      Delivered host files report (some path)
        ((World.fresh files).receive (report ++ "\n") stream)
  | lost {path name : String} {device : Device} :
      host.locate files .writing path = .ok ⟨name, some device⟩ →
      device.takes = .ok none →
      Delivered host files report (some path) (.fresh files)

section Fresh

variable {host : Host} {files : Directory} {after : World}

/-- Writing a report to a file delivers it. -/
theorem delivered_of_write {path report : String}
    (h : host.write (.fresh files) path (report ++ "\n") = .ok after) :
    Delivered host files report (some path) after := by
  obtain ⟨⟨name, device⟩, hlocate, h⟩ := Path.exists_of_bind_ok h
  cases device with
  | none =>
      obtain rfl := Except.ok.inj h
      exact .filed hlocate rfl rfl (Directory.lookup_set name _ files)
        fun _ hother => Directory.lookup_set_of_ne hother _ files
  | some device =>
      obtain ⟨stream, htakes, h⟩ := Path.exists_of_bind_ok h
      cases stream with
      | none =>
          obtain rfl := Except.ok.inj h
          exact .lost hlocate htakes
      | some stream =>
          obtain rfl := Except.ok.inj h
          exact .passed hlocate htakes

/-- A task that succeeds hands its report over whole. -/
theorem Invocation.Ends.delivered {invocation : Invocation} {status : Nat}
    (h : invocation.Ends host (.fresh files) status after) (hstatus : status = 0) :
    ∃ report, Reports host files invocation.task report ∧
      Delivered host files report invocation.output after := by
  cases h with
  | failed => exact absurd hstatus (failureStatus_ne_zero _)
  | torn => exact absurd hstatus (failureStatus_ne_zero _)
  | @printed report hreports houtput =>
      have hafter : (World.fresh files).receive (report ++ "\n") .output =
          ⟨files, report ++ "\n", ""⟩ := by
        rw [World.fresh, World.receive, String.empty_append]
      exact ⟨report, hreports, by rw [houtput, hafter]; exact .printed⟩
  | @filed report path _ hreports houtput hwrite =>
      exact ⟨report, hreports, by rw [houtput]; exact delivered_of_write hwrite⟩

/-- A task that fails changes no file, and standard output has received nothing unless it broke
off within the report. -/
theorem Invocation.Ends.undone {invocation : Invocation} {status : Nat}
    (h : invocation.Ends host (.fresh files) status after) (hstatus : status ≠ 0) :
    after.files = files ∧
      (after.stdout = "" ∨ ∃ report, Reports host files invocation.task report ∧
        invocation.output = none ∧ host.tear .output (report ++ "\n") ≠ none ∧
        after.stdout = host.kept .output (report ++ "\n")) := by
  cases h with
  | failed => exact ⟨rfl, Or.inl rfl⟩
  | @torn report length fault hreports houtput htear =>
      refine ⟨rfl, Or.inr ⟨report, hreports, houtput, ?_, String.empty_append⟩⟩
      rw [htear]
      exact Option.some_ne_none _
  | printed => exact absurd rfl hstatus
  | filed => exact absurd rfl hstatus

/-- A task ends well where there is a report that nothing refuses. -/
theorem Invocation.Ends.status_eq_zero {invocation : Invocation} {status : Nat} {report : String}
    (h : invocation.Ends host (.fresh files) status after)
    (hreports : Reports host files invocation.task report)
    (hprinted : invocation.output = none → host.tear .output (report ++ "\n") = none)
    (hfiled : ∀ path, invocation.output = some path →
      ∃ after, host.write (.fresh files) path (report ++ "\n") = .ok after) : status = 0 := by
  have hunique : ∀ {other}, Reports host files invocation.task other → other = report := by
    intro other hother
    rw [← report_eq_ok_iff] at hother hreports
    exact Except.ok.inj (hother.symm.trans hreports)
  cases h with
  | failed hnever =>
      obtain ⟨path, fault, houtput, hrefused⟩ := hnever report hreports
      obtain ⟨after, hwrite⟩ := hfiled path houtput
      rw [hwrite] at hrefused
      contradiction
  | torn hother houtput htear =>
      rw [hunique hother, hprinted houtput] at htear
      contradiction
  | printed => rfl
  | filed => rfl

end Fresh

/-- A command that fails changes no file, and leaves nothing on standard output but what that
kept of a complete report before it broke off.  One that succeeds hands over its complete
report to one place.  It succeeds wherever there is a report and nothing refuses it. -/
theorem perform_all_or_nothing (arguments : List String) (files : Directory) (host : Host)
    (hhelp : Invocation.ofArguments host.matchTime arguments ≠ .error .help)
    (hversion : Invocation.ofArguments host.matchTime arguments ≠ .error .version) :
    let status := ((perform host.system arguments).run (.fresh files)).1
    let after := ((perform host.system arguments).run (.fresh files)).2
    (status ≠ 0 → after.files = files ∧
      (after.stdout = "" ∨ ∃ invocation report,
        Invocation.ofArguments host.matchTime arguments = .ok invocation ∧
        Reports host files invocation.task report ∧ invocation.output = none ∧
        host.tear .output (report ++ "\n") ≠ none ∧
        after.stdout = host.kept .output (report ++ "\n"))) ∧
    (status = 0 → ∃ invocation report,
      Invocation.ofArguments host.matchTime arguments = .ok invocation ∧
      Reports host files invocation.task report ∧
      Delivered host files report invocation.output after) ∧
    (∀ invocation report, Invocation.ofArguments host.matchTime arguments = .ok invocation →
      Reports host files invocation.task report →
      (invocation.output = none → host.tear .output (report ++ "\n") = none) →
      (∀ path, invocation.output = some path →
        ∃ after, host.write (.fresh files) path (report ++ "\n") = .ok after) →
      status = 0) := by
  intro status after
  cases harguments : Invocation.ofArguments host.matchTime arguments with
  | error halt =>
      have hmisuse : halt = .usage := by
        cases halt with
        | usage => rfl
        | version => exact absurd harguments hversion
        | help => exact absurd harguments hhelp
      have hrun : (perform host.system arguments).run (.fresh files) = (2, .fresh files) :=
        perform_misuse (hmisuse ▸ harguments) _
      have hstatus : status = 2 := congrArg Prod.fst hrun
      have hafter : after = .fresh files := congrArg Prod.snd hrun
      refine ⟨?_, ?_, ?_⟩
      · intro _
        rw [hafter]
        exact ⟨rfl, Or.inl rfl⟩
      · intro hzero
        rw [hstatus] at hzero
        contradiction
      · intro invocation report hinvocation
        contradiction
  | ok invocation =>
      have hends : invocation.Ends host (.fresh files) status after := ends_of_arguments harguments _
      refine ⟨?_, ?_, ?_⟩
      · intro hfailed
        obtain ⟨hfiles, hstdout⟩ := hends.undone hfailed
        refine ⟨hfiles, hstdout.imp_right ?_⟩
        rintro ⟨report, hreports, houtput, htorn, hkept⟩
        exact ⟨invocation, report, rfl, hreports, houtput, htorn, hkept⟩
      · intro hzero
        obtain ⟨report, hreports, hdelivered⟩ := hends.delivered hzero
        exact ⟨invocation, report, rfl, hreports, hdelivered⟩
      · intro other report hother
        obtain rfl := Except.ok.inj hother
        exact hends.status_eq_zero

/-- A report may replace the only file, and a path that is refused leaves it as it was. -/
theorem perform_all_or_nothing_check :
    let files : Directory := [("in", "\x7b\x7d")]
    let system := (Host.common "").system
    ((perform system ["check", "a.b", "-o", "in"]).run (.fresh files)).1 = 0 ∧
    (∃ report, Delivered (.common "") files report (some "in")
      ((perform system ["check", "a.b", "-o", "in"]).run (.fresh files)).2) ∧
    ((perform system ["check", "a[", "-o", "in"]).run (.fresh files)).2.files = files := by
  intro files system
  let host := Host.common ""
  have hgood : Invocation.ofArguments host.matchTime ["check", "a.b", "-o", "in"] =
      .ok ⟨.check "a.b", some "in"⟩ := rfl
  have hbad : Invocation.ofArguments host.matchTime ["check", "a[", "-o", "in"] =
      .ok ⟨.check "a[", some "in"⟩ := rfl
  have hsteps := perform_all_or_nothing ["check", "a.b", "-o", "in"] files host
    (by rw [hgood]; nofun) (by rw [hgood]; nofun)
  have hfault := perform_all_or_nothing ["check", "a[", "-o", "in"] files host
    (by rw [hbad]; nofun) (by rw [hbad]; nofun)
  have hpath : Path.parse "a.b" = .ok ⟨"a.b", [.member (some "a"), .member (some "b")]⟩ := rfl
  have hzero := hsteps.2.2 _ _ hgood (.check hpath) nofun
    fun path hpath => ⟨_, by cases hpath; rfl⟩
  have hone : ((perform system ["check", "a[", "-o", "in"]).run (.fresh files)).1 ≠ 0 := by
    decide +kernel
  obtain ⟨invocation, report, hinvocation, -, hdelivered⟩ := hsteps.2.1 hzero
  obtain rfl := Except.ok.inj (hgood.symm.trans hinvocation)
  exact ⟨hzero, ⟨report, hdelivered⟩, (hfault.1 hone).1⟩

/-- A command that fails may leave part of its report on standard output, which breaks off;
and one that succeeds leaves its report on standard error where the output option leads there. -/
theorem not_all_or_nothing :
    ¬ (∀ (arguments : List String) (files : Directory) (host : Host) (invocation : Invocation),
        Invocation.ofArguments host.matchTime arguments = .ok invocation →
        ((perform host.system arguments).run (.fresh files)).1 ≠ 0 →
        ((perform host.system arguments).run (.fresh files)).2.stdout = "") ∧
    ¬ (∀ (arguments : List String) (files : Directory) (host : Host) (invocation : Invocation),
        Invocation.ofArguments host.matchTime arguments = .ok invocation →
        ((perform host.system arguments).run (.fresh files)).1 = 0 →
        ((perform host.system arguments).run (.fresh files)).2.stderr = "") := by
  constructor
  · intro h
    let torn : Host :=
      { Host.common "" with
        tear := fun stream _ => if stream = .output then some (3, .noSpace) else none }
    have hempty := h ["check", "a"] [] torn ⟨.check "a", none⟩ rfl (by decide +kernel)
    have hstdout : ((perform torn.system ["check", "a"]).run (.fresh [])).2.stdout = "ok:" := by
      decide +kernel
    rw [hstdout] at hempty
    exact absurd hempty (by decide)
  · intro h
    have hempty := h ["check", "a", "-o", "/dev/stderr"] [] (.common "")
      ⟨.check "a", some "/dev/stderr"⟩ rfl (by decide +kernel)
    have hstderr : ((perform (Host.common "").system ["check", "a", "-o", "/dev/stderr"]).run
        (.fresh [])).2.stderr = "ok: 1 step(s)\n" := by
      decide +kernel
    rw [hstderr] at hempty
    exact absurd hempty (by decide)

end PathQuery.Command
