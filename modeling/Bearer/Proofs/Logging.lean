import Bearer.Logging
import Bearer.Proofs.Logging.Disk

/-!
Logging that is configured again and again. `configure_cases` says once what one configuration makes of the sinks, the
loggers and the disk. All of it but the thresholds is made anew, and of those only the ones of the quiet loggers are
ever set (`Settled`), so what the last configuration leaves is what it alone makes of the disk that it finds
(`logging_configure_of_settled`). The disk has grown by the files that were opened meanwhile, which matters only if one
of them is in the way of the last.
-/

namespace Bearer

namespace Level

theorem ofWord?_eq_some_iff {w : String} {level : Level} : ofWord? w = some level ↔ w = level.word := by
  constructor
  · intro found
    have named := List.find?_some found
    exact (beq_iff_eq.1 named).symm
  · rintro rfl
    cases level <;> decide

end Level

namespace Logging

/-! ### What reaches the sinks -/

/-- What becomes of a record of a severity: each sink takes it at most once, and none if it is below a minimum. -/
structure Exact (minimum : Level) (severity : Int) (ds : List Delivery) : Prop where
  once : (ds.map (·.1)).Nodup
  least : ds ≠ [] → minimum.severity ≤ severity

theorem Exact.nil (minimum : Level) (severity : Int) : Exact minimum severity [] :=
  ⟨List.nodup_nil, fun taken => (taken rfl).elim⟩

variable {l : Logging} {now : Moment} {disk : Disk}

theorem map_fst_deliver (l : Logging) (r : Record) :
    ((l.deliver r).map (·.1)).Sublist (l.handlers.map (·.sink)) := by
  unfold deliver
  induction l.handlers with
  | nil => exact .slnil
  | cons h hs ih =>
    rw [List.filterMap_cons]
    split
    · exact ih.cons h.sink
    · rename_i d taken
      split at taken
      · obtain rfl := Option.some.inj taken
        exact ih.cons_cons h.sink
      · cases taken

theorem exact_deliver {minimum : Level} (distinct : (l.handlers.map (·.sink)).Nodup)
    (equal : ∀ h ∈ l.handlers, h.minimum = minimum) (r : Record) : Exact minimum r.severity (l.deliver r) where
  once := distinct.sublist (map_fst_deliver l r)
  least := by
    intro taken
    obtain ⟨d, member⟩ := List.exists_mem_of_ne_nil _ taken
    obtain ⟨h, present, passed⟩ := List.mem_filterMap.1 member
    split at passed
    · rename_i enough
      exact equal h present ▸ enough
    · cases passed

/-! ### One configuration -/

namespace Moment

def path? (now : Moment) : Option Path :=
  (fileOf now.env).bind fun name => (now.complete name).toOption.map Path.ofText

def opened? (now : Moment) (disk : Disk) : Option Path :=
  now.path?.filter fun p => (disk.openFile p).toOption.isSome

def console (now : Moment) : Handler := { sink := consoleOf now.env, minimum := minimumOf now.env }

/-- The sinks of a configuration, each with the minimum that the environment asks for. -/
def handlers (now : Moment) (disk : Disk) : List Handler :=
  now.console :: ((now.opened? disk).map fun p => { sink := .file p, minimum := minimumOf now.env }).toList

def Completes (now : Moment) : Prop :=
  ∀ name, fileOf now.env = some name → ∃ text, now.complete name = .ok text

theorem minimum_of_mem_handlers {h : Handler} (member : h ∈ now.handlers disk) : h.minimum = minimumOf now.env := by
  obtain rfl | file := List.mem_cons.1 member
  · rfl
  · obtain ⟨p, -, rfl⟩ := Option.map_eq_some_iff.1 (Option.mem_toList.1 file)
    rfl

theorem nodup_handlers (now : Moment) (disk : Disk) : ((now.handlers disk).map (·.sink)).Nodup := by
  have elsewhere (p : Path) : consoleOf now.env ≠ .file p := by
    unfold consoleOf
    split
    · split <;> simp
    · simp
  unfold handlers console
  cases now.opened? disk with
  | none => simp
  | some p => simp [elsewhere p]

end Moment

def withSinks (l : Logging) (now : Moment) (disk : Disk) : Logging :=
  { l with handlers := now.handlers disk, traced := true }

theorem withSinks_of_unopened (nothing : now.opened? disk = none) :
    l.withSinks now disk = l.reset.add (consoleOf now.env) (minimumOf now.env) := by
  simp [withSinks, Moment.handlers, nothing, reset, add, Moment.console]

/-- A configuration replaces the sinks and, if the name of the file can be completed, connects the loggers to them. -/
theorem configure_cases (l : Logging) (now : Moment) (disk : Disk) :
    (now.Completes ∧ ∃ next ds, Disk.GrewBy (now.opened? disk).toList disk next ∧
      l.configure now disk =
        { logging := (l.withSinks now disk).connect (minimumOf now.env), disk := next, deliveries := ds }) ∨
    (¬ now.Completes ∧ ∃ f,
      l.configure now disk = { logging := l.withSinks now disk, disk, failure := some f }) := by
  cases named : fileOf now.env with
  | none =>
    have nothing : now.opened? disk = none := by simp [Moment.opened?, Moment.path?, named]
    refine .inl ⟨by simp [Moment.Completes, named], disk, [], .refl _ _, ?_⟩
    simp only [configure, named, withSinks_of_unopened nothing]
  | some name =>
    cases completed : now.complete name with
    | error f =>
      have nothing : now.opened? disk = none := by
        simp [Moment.opened?, Moment.path?, named, completed, Except.toOption]
      refine .inr ⟨by simp [Moment.Completes, named, completed], f, ?_⟩
      simp only [configure, named, completed, withSinks_of_unopened nothing]
    | ok text =>
      have completes : now.Completes := by simp [Moment.Completes, named, completed]
      have place : now.path? = some (Path.ofText text) := by simp [Moment.path?, named, completed, Except.toOption]
      cases made : disk.openFile (Path.ofText text) with
      | error e =>
        have nothing : now.opened? disk = none := by simp [Moment.opened?, place, made, Except.toOption]
        refine .inl ⟨completes, disk, (l.configure now disk).deliveries, .refl _ _, ?_⟩
        simp only [configure, named, completed, made, withSinks_of_unopened nothing]
      | ok next =>
        have opened : now.opened? disk = some (Path.ofText text) := by
          simp [Moment.opened?, place, made, Except.toOption]
        refine .inl ⟨completes, next, [], opened ▸ .of_openFile made, ?_⟩
        simp [configure, named, completed, made, withSinks, Moment.handlers, opened, reset, add, Moment.console]

theorem failure_configure_eq_none_iff : (l.configure now disk).failure = none ↔ now.Completes := by
  obtain ⟨completes, next, ds, -, eq⟩ | ⟨broken, f, eq⟩ := configure_cases l now disk
  · exact iff_of_true (by rw [eq]) completes
  · exact iff_of_false (by rw [eq]; nofun) broken

/-- The sinks are those of the last configuration, whatever was before and however it ends. -/
theorem handlers_configure (l : Logging) (now : Moment) (disk : Disk) :
    (l.configure now disk).logging.handlers = now.handlers disk := by
  obtain ⟨-, next, ds, -, eq⟩ | ⟨-, f, eq⟩ := configure_cases l now disk
  · rw [eq]
    rfl
  · rw [eq]
    rfl

theorem logging_configure (completes : now.Completes) :
    (l.configure now disk).logging = (l.withSinks now disk).connect (minimumOf now.env) := by
  obtain ⟨-, next, ds, -, eq⟩ | ⟨broken, -⟩ := configure_cases l now disk
  · rw [eq]
  · exact (broken completes).elim

theorem grewBy_configure (l : Logging) (now : Moment) (disk : Disk) :
    Disk.GrewBy (now.opened? disk).toList disk (l.configure now disk).disk := by
  obtain ⟨-, next, ds, grew, eq⟩ | ⟨-, f, eq⟩ := configure_cases l now disk
  · exact eq ▸ grew
  · exact eq ▸ .refl _ _

/-! ### Loggers -/

def quietThresholds : List (String × Nat) := quietLoggers.reverse.map fun logger => (logger, Level.warning.severity)

/-- Nothing was configured before, though there may be other sinks and receivers. -/
structure Untouched (l : Logging) : Prop where
  receivers : Receiver.interceptor ∉ l.receivers
  thresholds : l.thresholds = []

theorem untouched_fresh : Untouched fresh := ⟨List.not_mem_nil, rfl⟩

/-- Loggers that are untouched or as a configuration leaves them. -/
inductive Settled (l : Logging) : Prop
  | untouched (untouched : Untouched l)
  | connected (receivers : l.receivers = [.interceptor]) (thresholds : l.thresholds = quietThresholds)

theorem connect_of_settled (settled : Settled l) (minimum : Level) :
    l.connect minimum = { fresh.connect minimum with handlers := l.handlers, traced := l.traced } := by
  cases settled with
  | untouched untouched => simp [connect, quietLoggers, setThreshold, untouched.thresholds, fresh]
  | connected receivers thresholds =>
    simp [connect, quietLoggers, quietThresholds, setThreshold, thresholds, fresh]

theorem settled_connect (settled : Settled l) (minimum : Level) : Settled (l.connect minimum) := by
  rw [connect_of_settled settled]
  exact .connected rfl rfl

theorem settled_withSinks (settled : Settled l) (now : Moment) (disk : Disk) : Settled (l.withSinks now disk) := by
  cases settled with
  | untouched untouched => exact .untouched ⟨untouched.receivers, untouched.thresholds⟩
  | connected receivers thresholds => exact .connected receivers thresholds

theorem settled_configure (settled : Settled l) (now : Moment) (disk : Disk) :
    Settled (l.configure now disk).logging := by
  have sunk := settled_withSinks settled now disk
  obtain ⟨-, next, ds, -, eq⟩ | ⟨-, f, eq⟩ := configure_cases l now disk
  · exact eq ▸ settled_connect sunk _
  · exact eq ▸ sunk

/-- What a configuration leaves, if it returns, depends on what was before only through the disk. -/
theorem logging_configure_of_settled (settled : Settled l) (completes : now.Completes) :
    (l.configure now disk).logging =
      { fresh.connect (minimumOf now.env) with handlers := now.handlers disk, traced := true } := by
  rw [logging_configure completes, connect_of_settled (settled_withSinks settled now disk)]
  rfl

/-- A name is above each that goes on with a dot and then with something that does not begin with a dot. -/
theorem mem_namesAbove {front back : List Char} {behindDot : Bool} (some_name : front ≠ [])
    (apart : back.getLast? ≠ some '.') (go_on : back = [] → behindDot = false) :
    front ∈ namesAbove behindDot (back ++ '.' :: front) := by
  induction back generalizing behindDot with
  | nil =>
    rw [go_on rfl]
    simp [namesAbove, some_name]
  | cons c back ih =>
    have apart_back : back.getLast? ≠ some '.' := by
      cases back with
      | nil => simp
      | cons next back => simpa using apart
    rw [List.cons_append, namesAbove]
    split
    · rename_i dot
      have longer : back ≠ [] := by
        rintro rfl
        simp_all
      simp only [List.isEmpty_iff, List.append_eq_nil_iff, reduceCtorEq, and_false, if_false]
      exact List.mem_cons_of_mem _ (ih apart_back fun empty => (longer empty).elim)
    · exact ih apart_back fun _ => rfl

theorem mem_lineage_below {logger rest : String} (some_name : logger ≠ "") (apart : rest.toList.head? ≠ some '.') :
    logger ∈ lineage (logger ++ "." ++ rest) := by
  refine List.mem_cons_of_mem _ (List.mem_map.2 ⟨logger.toList.reverse, ?_, by simp⟩)
  have backwards : (logger ++ "." ++ rest).toList.reverse = rest.toList.reverse ++ '.' :: logger.toList.reverse := by
    simp
  rw [backwards]
  refine mem_namesAbove ?_ ?_ fun _ => rfl
  · simpa using some_name
  · simpa using apart

/-- Loggers below a quiet one are quiet. -/
theorem isQuiet_below {logger rest : String} (quiet : logger ∈ quietLoggers)
    (apart : rest.toList.head? ≠ some '.') : isQuiet (logger ++ "." ++ rest) = true := by
  refine List.any_eq_true.2 ⟨logger, mem_lineage_below ?_ apart, List.contains_iff_mem.2 quiet⟩
  rintro rfl
  simp [quietLoggers] at quiet

theorem threshold_of_isQuiet (thresholds : l.thresholds = quietThresholds) {logger : String}
    (quiet : isQuiet logger = true) : l.threshold logger = Level.warning.severity := by
  obtain ⟨above, member, own⟩ := List.any_eq_true.1 quiet
  have set_above : l.ownThreshold? above = some Level.warning.severity := by
    have named : above = "httpx" ∨ above = "httpcore" := by simpa [quietLoggers] using own
    obtain rfl | rfl := named <;> simp [ownThreshold?, thresholds, quietThresholds, quietLoggers]
  have only (name : String) (n : Nat) (set : l.ownThreshold? name = some n) : n = Level.warning.severity := by
    obtain ⟨t, found, rfl⟩ := Option.map_eq_some_iff.1 set
    have listed := List.mem_of_find?_eq_some found
    rw [thresholds] at listed
    obtain ⟨-, -, rfl⟩ := List.mem_map.1 listed
    rfl
  unfold threshold
  cases first : (lineage logger).findSome? l.ownThreshold? with
  | none => exact absurd (List.findSome?_eq_none_iff.1 first above member) (by simp [set_above])
  | some n =>
    obtain ⟨name, -, set⟩ := List.exists_of_findSome?_eq_some first
    exact only name n set

/-- Nothing reaches the sinks without the interceptor. -/
theorem mapM_receive_of_untouched {receivers : List Receiver} (foreign : Receiver.interceptor ∉ receivers)
    (context : Option TraceContext) (severity : Int) (format : String) (arguments : List Json.Value) :
    (receivers.mapM (l.receive context severity format arguments)).map List.flatten = .ok [] := by
  induction receivers with
  | nil => rfl
  | cons receiver rest ih =>
    cases receiver with
    | interceptor => exact (foreign List.mem_cons_self).elim
    | foreign =>
      have others := ih fun member => foreign (List.mem_cons_of_mem _ member)
      rw [List.mapM_cons]
      cases received : rest.mapM (l.receive context severity format arguments) with
      | error f =>
        rw [received] at others
        cases others
      | ok dss =>
        rw [received] at others
        exact others

/-- What is logged through a logger reaches the sinks as one record at most, of its severity. -/
theorem logThrough_of_settled (settled : Settled l) {context : Option TraceContext} {logger format : String}
    {severity : Int} {arguments : List Json.Value} {ds : List Delivery}
    (logged : l.logThrough context logger severity format arguments = .ok ds) :
    ds = [] ∨ ∃ message, ds = l.deliver (.ofSeverity (l.carried context) severity message) := by
  unfold logThrough at logged
  split at logged
  · exact .inl (Except.ok.inj logged).symm
  · cases settled with
    | untouched untouched =>
      rw [mapM_receive_of_untouched untouched.receivers] at logged
      exact .inl (Except.ok.inj logged).symm
    | connected receivers =>
      rw [receivers] at logged
      cases filled : Format.fill format arguments with
      | error e => simp [receive, filled, Except.map, bind, Except.bind] at logged
      | ok message =>
        refine .inr ⟨message, ?_⟩
        simpa [receive, filled, Except.map, bind, Except.bind, pure, Except.pure, eq_comm] using logged

/-- Nothing that is logged through a quiet logger below a warning reaches a sink. -/
theorem logThrough_of_isQuiet (settled : Settled l) {logger : String} (quiet : isQuiet logger = true) {severity : Int}
    (low : severity < Level.warning.severity) (context : Option TraceContext) (format : String)
    (arguments : List Json.Value) : l.logThrough context logger severity format arguments = .ok [] := by
  unfold logThrough
  cases settled with
  | untouched untouched =>
    split
    · rfl
    · exact mapM_receive_of_untouched untouched.receivers context severity format arguments
  | connected receivers thresholds => rw [threshold_of_isQuiet thresholds quiet, if_pos low]

/-! ### Levels -/

/-- The minimum is the level that the environment names, or the usual one if it names none. -/
theorem minimumOf_eq_iff {env : Environment} {level : Level} : minimumOf env = level ↔
    (∃ w, env.get? "COREASON_LOG_LEVEL" = some w ∧ Text.upper w = level.word) ∨
    (level = .info ∧
      ∀ w, env.get? "COREASON_LOG_LEVEL" = some w → ∀ other : Level, Text.upper w ≠ other.word) := by
  unfold minimumOf
  cases env.get? "COREASON_LOG_LEVEL" with
  | none => simp [eq_comm]
  | some w =>
    cases named : Level.ofWord? (Text.upper w) with
    | none =>
      have none_named (other : Level) : Text.upper w ≠ other.word := fun same => by
        rw [Level.ofWord?_eq_some_iff.2 same] at named
        cases named
      simp [named, none_named, eq_comm (a := Level.info)]
    | some found =>
      have word := Level.ofWord?_eq_some_iff.1 named
      have same : Text.upper w = level.word ↔ found = level := by
        rw [← Level.ofWord?_eq_some_iff, named, Option.some_inj]
      simp only [Option.bind_some, named, Option.getD_some, Option.some.injEq, exists_eq_left', same]
      exact (or_iff_left fun ⟨_, others⟩ => others w rfl found word).symm

theorem exact_deliver_of_sinks (sinks : l.handlers = now.handlers disk) (r : Record) :
    Exact (minimumOf now.env) r.severity (l.deliver r) :=
  exact_deliver (sinks ▸ now.nodup_handlers disk) (fun _ member => now.minimum_of_mem_handlers (sinks ▸ member)) r

/-- The package logs at levels that have a name, and so its records are always taken. -/
theorem exact_log (sinks : l.handlers = now.handlers disk) (context : Option TraceContext) (level : Level)
    (message : String) : ∃ ds, l.log context level.word message = .ok ds ∧
      Exact (minimumOf now.env) level.severity ds := by
  have named : Level.ofWord? level.word = some level := Level.ofWord?_eq_some_iff.2 rfl
  let r := Record.make (l.carried context) level message
  exact ⟨l.deliver r, by simp only [log, named, r], exact_deliver_of_sinks sinks r⟩

theorem exact_logThrough (settled : Settled l) (sinks : l.handlers = now.handlers disk)
    {context : Option TraceContext} {logger format : String} {severity : Int} {arguments : List Json.Value}
    {ds : List Delivery} (logged : l.logThrough context logger severity format arguments = .ok ds) :
    Exact (minimumOf now.env) severity ds := by
  obtain rfl | ⟨message, rfl⟩ := logThrough_of_settled settled logged
  · exact .nil _ _
  · exact exact_deliver_of_sinks sinks (.ofSeverity (l.carried context) severity message)

/-! ### One configuration after the other -/

theorem settled_configureAll (settled : Settled l) (disk : Disk) (moments : List Moment) :
    Settled (l.configureAll disk moments).1 := by
  induction moments generalizing l disk with
  | nil => exact settled
  | cons now later ih => exact ih (settled_configure settled now disk) _

/-- The places of the files that are opened at one moment after the other. -/
def openedAll (l : Logging) (disk : Disk) : List Moment → List Path
  | [] => []
  | now :: later =>
    let c := l.configure now disk
    (now.opened? disk).toList ++ c.logging.openedAll c.disk later

theorem grewBy_configureAll (l : Logging) (disk : Disk) (moments : List Moment) :
    Disk.GrewBy (l.openedAll disk moments) disk (l.configureAll disk moments).2 := by
  induction moments generalizing l disk with
  | nil => exact .refl _ _
  | cons now later ih => exact (grewBy_configure l now disk).append (ih _ _)

/-- Files that were opened before make no difference to the sinks, unless one of them is in the way. -/
theorem handlers_of_apart {ps : List Path} {left : Disk} (grew : Disk.GrewBy ps disk left)
    (apart : ∀ p ∈ now.path?, ∀ q ∈ ps, p.Apart q) : now.handlers left = now.handlers disk := by
  have succeeds (d : Disk) (p : Path) :
      (d.openFile p).toOption.isSome = true ↔ ∃ made, d.openFile p = .ok made := by
    cases d.openFile p <;> simp [Except.toOption]
  have opened : now.opened? left = now.opened? disk := by
    unfold Moment.opened?
    cases place : now.path? with
    | none => rfl
    | some p =>
      have opens := grew.opens_iff (apart p place)
      have same : (left.openFile p).toOption.isSome = (disk.openFile p).toOption.isSome :=
        Bool.eq_iff_iff.2 ((succeeds left p).trans (opens.trans (succeeds disk p).symm))
      simp only [Option.filter_some, same]
  unfold Moment.handlers
  rw [opened]

def Sink.isFile : Sink → Bool
  | file _ => true
  | _ => false

def withoutFiles (l : Logging) : Logging := { l with handlers := l.handlers.filter fun h => !h.sink.isFile }

theorem Moment.handlers_without_files (now : Moment) (disk : Disk) :
    ((now.handlers disk).filter fun h => !h.sink.isFile) = [now.console] := by
  have console : (consoleOf now.env).isFile = false := by
    unfold consoleOf
    split
    · split <;> rfl
    · rfl
  have file (p : Path) : (Sink.file p).isFile = true := rfl
  unfold handlers
  cases now.opened? disk <;> simp [Moment.console, console, file]

/-- Logging that was configured at any moments, and at last `now`. Its sinks and levels are those that `now` alone
makes on the disk that it finds, and on the disk as it was at first unless a file that was opened is in the way of the
last one; only a file can differ. Each sink takes a record at most once, and none below the minimum; records of quiet
loggers below a warning go nowhere. -/
theorem last_configuration_alone {start : Logging} (untouched : Untouched start) (disk : Disk)
    (earlier : List Moment) (now : Moment) :
    let before := start.configureAll disk earlier
    let last := before.1.configure now before.2
    let l := last.logging
    -- What the last moment alone would have made.
    (last.failure = none ↔ (start.configure now disk).failure = none) ∧
    l.handlers = (start.configure now before.2).logging.handlers ∧
    (last.failure = none →
      l = (start.configure now before.2).logging ∧
      ((∀ p ∈ now.path?, ∀ q ∈ start.openedAll disk earlier, p.Apart q) →
        l = (start.configure now disk).logging) ∧
      ∀ elsewhere, l.withoutFiles = (start.configure now elsewhere).logging.withoutFiles) ∧
    -- The minimum, and what reaches the sinks afterwards.
    (∀ level, minimumOf now.env = level ↔
      (∃ w, now.env.get? "COREASON_LOG_LEVEL" = some w ∧ Text.upper w = level.word) ∨
      (level = .info ∧
        ∀ w, now.env.get? "COREASON_LOG_LEVEL" = some w → ∀ other : Level, Text.upper w ≠ other.word)) ∧
    (∀ context (level : Level) message, ∃ ds, l.log context level.word message = .ok ds ∧
      Exact (minimumOf now.env) level.severity ds) ∧
    (∀ context logger severity format arguments ds, l.logThrough context logger severity format arguments = .ok ds →
      Exact (minimumOf now.env) severity ds) ∧
    ∀ context logger (severity : Int) format arguments,
      isQuiet logger = true → severity < Level.warning.severity →
      l.logThrough context logger severity format arguments = .ok [] := by
  intro before last l
  have settled : Settled before.1 := settled_configureAll (.untouched untouched) disk earlier
  have settled_last : Settled l := settled_configure settled now before.2
  have grew : Disk.GrewBy (start.openedAll disk earlier) disk before.2 := grewBy_configureAll start disk earlier
  have sinks : l.handlers = now.handlers before.2 := handlers_configure before.1 now before.2
  refine ⟨?_, ?_, fun returns => ?_, fun level => minimumOf_eq_iff, exact_log sinks,
    fun context logger severity format arguments ds => exact_logThrough settled_last sinks,
    fun context logger severity format arguments quiet low =>
      logThrough_of_isQuiet settled_last quiet low context format arguments⟩
  · exact failure_configure_eq_none_iff.trans failure_configure_eq_none_iff.symm
  · exact sinks.trans (handlers_configure start now before.2).symm
  · have completes : now.Completes := failure_configure_eq_none_iff.1 returns
    have left : l = { fresh.connect (minimumOf now.env) with handlers := now.handlers before.2, traced := true } :=
      logging_configure_of_settled settled completes
    have alone (d : Disk) : (start.configure now d).logging =
        { fresh.connect (minimumOf now.env) with handlers := now.handlers d, traced := true } :=
      logging_configure_of_settled (.untouched untouched) completes
    refine ⟨?_, fun apart => ?_, fun elsewhere => ?_⟩
    · rw [left, alone]
    · rw [left, alone, handlers_of_apart grew apart]
    · rw [left, alone]
      simp only [withoutFiles, Moment.handlers_without_files]

def Moment.ofFile (name : String) : Moment := .make [("COREASON_LOG_FILE", name)] none fun _ => .ok ""

theorem last_configuration_alone_two_files :
    let disk : Disk := { directories := [["logs"]] }
    let before := fresh.configureAll disk [.ofFile "logs/a"]
    let last := before.1.configure (.ofFile "logs/b") before.2
    last.failure = none ∧
    last.logging = (fresh.configure (.ofFile "logs/b") disk).logging ∧
    last.logging.handlers =
      [{ sink := .stderr, minimum := .info }, { sink := .file ["logs", "b"], minimum := .info }] ∧
    last.logging.logThrough none ("httpcore" ++ "." ++ "connection") 20 "GET %s" [.str "/?token=abc"] = .ok [] := by
  intro disk before last
  obtain ⟨-, -, alone, -, -, -, quiet⟩ :=
    last_configuration_alone untouched_fresh disk [.ofFile "logs/a"] (.ofFile "logs/b")
  have returns : last.failure = none := by decide
  have apart : ∀ p ∈ (Moment.ofFile "logs/b").path?, ∀ q ∈ fresh.openedAll disk [.ofFile "logs/a"], p.Apart q := by
    intro p place q member
    obtain rfl : p = ["logs", "b"] := (Option.some.inj place).symm
    obtain rfl : q = ["logs", "a"] := List.mem_singleton.1 member
    decide
  have below : isQuiet ("httpcore" ++ "." ++ "connection") = true := isQuiet_below (by decide) (by decide)
  exact ⟨returns, (alone returns).2.1 apart, by decide, quiet none _ 20 _ _ below (by decide)⟩

/-- The file of an earlier moment can be where the last one needs a directory. Then the console is the only sink,
though `now` alone would have made two. -/
theorem not_every_last_configuration_alone :
    ¬ ∀ (disk : Disk) (earlier : List Moment) (now : Moment),
      ((fresh.configureAll disk earlier).1.configure now (fresh.configureAll disk earlier).2).logging =
        (fresh.configure now disk).logging := by
  intro same
  have refused := same { directories := [["logs"]] } [.ofFile "logs/a"] (.ofFile "logs/a/b.log")
  exact absurd refused (by decide)

end Logging

end Bearer
