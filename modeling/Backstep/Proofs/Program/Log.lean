import Backstep.Proofs.Program.Mirror
import Backstep.Proofs.Variable.Journal

/-!
# The log of a printed walk

A printed walk writes a line at every stop, and the variable that walks reports every step to the
log. The two are written in different places and never look at one another, but both tell of the
stack of values that a step has led to. So the log goes with the lines, record by record, up to the
read behind the last stop; and since no step of a walk is refused, nothing in it is a warning.

## Main definitions

* `Walk.events` — the events of a walk, told from the stacks that it goes through.
* `Program.Environment.filterInForce` — the log filter that an environment comes to.
* `Program.TellOfStep` — a line, a record and a line of the log that tell of the same step.
* `Program.Accompanies` — records and log lines that go with the lines of a walk.
-/

namespace Backstep

open History (ofStack)

namespace ValueStack

variable (name : String)

/-- The event of an assignment that has led to a stack. -/
def assignedAt (s : ValueStack) : Event := .assigned name s.current (s.length + 1)

/-- The event of an unassignment that has led to a stack. -/
def unassignedAt (s : ValueStack) : Event := .unassigned name s.current (s.length + 1)

/-- Assigning values in a row goes through the stacks of their first parts. -/
theorem runEvents_map_assign (s : ValueStack) (vs : List Int32) :
    runEvents name s (vs.map .assign) =
      vs.inits.tail.map fun done => assignedAt name (done.reverse ++ s) := by
  induction vs generalizing s with
  | nil => rfl
  | cons v vs ih =>
    have hinits : vs.inits = [] :: vs.inits.tail := by cases vs <;> rfl
    have hrest : (fun done : List Int32 => assignedAt name ((v :: done).reverse ++ s)) =
        fun done => assignedAt name (done.reverse ++ v :: s) := by
      funext done
      simp
    rw [List.map_cons, runEvents, next, ih, List.inits_cons, List.tail_cons, hinits,
      List.map_map, List.map_cons, List.tail_cons]
    exact congrArg (_ :: List.map · vs.inits.tail) hrest.symm

/-- Rewinding goes through the stacks below, the latest first. -/
theorem rewindEvents_eq_map (s : ValueStack) :
    rewindEvents name s = s.tails.tail.map (unassignedAt name) := by
  induction s with
  | nil => rfl
  | cons v s ih =>
    have htails : s.tails = s :: s.tails.tail := by cases s <;> rfl
    rw [rewindEvents_cons, ih, List.tails_cons, List.tail_cons, htails, List.map_cons,
      List.tail_cons]
    rfl

theorem after_map_assign (s : ValueStack) (vs : List Int32) :
    s.after (vs.map .assign) = vs.reverse ++ s := by
  induction vs generalizing s with
  | nil => rfl
  | cons v vs ih => simp [next, ih]

end ValueStack

namespace Walk

/-! ## The walk as operations -/

/-- What a walk through targets and back asks of its variable. -/
def operations (targets : List Int32) : List Operation :=
  targets.map .assign ++ [.rewind, .get]

/-- The stacks that a walk goes through on the way out, the empty one left aside. -/
def stacksOut (targets : List Int32) : List ValueStack := targets.inits.tail.map List.reverse

/-- The stacks that it goes through on the way back, the one at the turn left aside. -/
def stacksBack (targets : List Int32) : List ValueStack := targets.reverse.tails.tail

/-- The events of a walk before the read behind its last stop. -/
def events (name : String) (targets : List Int32) : List Event :=
  .created name :: ((stacksOut targets).map (ValueStack.assignedAt name)
    ++ (stacksBack targets).map (ValueStack.unassignedAt name))

section Operations

variable {σ : Type} [Sink σ]

theorem snd_performAll_map_assign (x : Variable σ) (vs : List Int32) :
    (x.performAll (vs.map .assign)).2 = vs.foldl Variable.assign x := by
  induction vs generalizing x with
  | nil => rfl
  | cons v vs ih => exact ih (x.assign v)

/-- The way back is the loop that undoes, with a line after each turn. -/
theorem var_backwards (n : Nat) (x : Variable σ) :
    (backwards n x).var = (Variable.unassignUpTo n x).2 := by
  induction n generalizing x with
  | zero => rfl
  | succ n ih =>
    rw [backwards, Variable.unassignUpTo]
    by_cases hc : x.canUndo = true
    · rw [if_pos hc, if_pos hc]
      generalize x.unassign = r
      obtain ⟨outcome, y⟩ := r
      cases outcome with
      | error cause => rfl
      | ok done => exact ih y
    · rw [if_neg hc, if_neg hc]

/-- A walk leaves its variable as the operations of the walk do. -/
theorem var_thereAndBack_create (name : String) (traced : Bool) (sink : σ)
    (targets : List Int32) :
    (thereAndBack (.create name traced sink) targets).var =
      ((Variable.create name traced sink).performAll (operations targets)).2 := by
  have hhistory : (forwards (.create name traced sink) targets).2.history =
      ofStack targets.reverse := by
    have hx := Variable.history_create name traced sink
    rw [snd_forwards, Variable.history_foldl_assign (s := []) hx, List.append_nil]
  have hdepth : targets.reverse.length ≤
      (forwards (.create name traced sink) targets).2.depth := by
    rw [Variable.depth, hhistory, History.depth_ofStack]
    exact Nat.le_succ _
  obtain ⟨hok, -⟩ := backwards_of_history hhistory hdepth
  rw [thereAndBack_of_ok rfl hok, operations, Variable.performAll_append,
    snd_performAll_map_assign, ← snd_forwards, var_backwards]
  rfl

end Operations

variable (name : String) (targets : List Int32)

/-- What a walk reports before the read behind its last stop. -/
theorem runEvents_map_assign_rewind :
    .created name :: ValueStack.runEvents name [] (targets.map .assign ++ [.rewind]) =
      events name targets := by
  have hout : ValueStack.runEvents name [] (targets.map .assign) =
      (stacksOut targets).map (ValueStack.assignedAt name) := by
    rw [ValueStack.runEvents_map_assign, stacksOut, List.map_map]
    simp [Function.comp_def]
  have hback : ValueStack.runEvents name targets.reverse [.rewind] =
      (stacksBack targets).map (ValueStack.unassignedAt name) := by
    rw [stacksBack, ← ValueStack.rewindEvents_eq_map]
    exact List.append_nil _
  rw [ValueStack.runEvents_append, hout, ValueStack.after_map_assign, List.append_nil, hback,
    events]

/-- What a walk reports: its events, and that the value of the start was read. -/
theorem runEvents_operations :
    .created name :: ValueStack.runEvents name [] (operations targets) =
      events name targets ++ [.read name 0] := by
  have hall : operations targets = (targets.map .assign ++ [.rewind]) ++ [.get] := by
    rw [operations, List.append_assoc]
    rfl
  have hread : ValueStack.runEvents name (ValueStack.after [] (targets.map .assign ++ [.rewind]))
      [.get] = [.read name 0] := by
    simp [ValueStack.after, ValueStack.next, ValueStack.runEvents, ValueStack.events,
      ValueStack.current]
  rw [hall, ValueStack.runEvents_append, hread, ← List.cons_append, runEvents_map_assign_rewind]

@[simp] theorem length_stacksOut : (stacksOut targets).length = targets.length := by
  simp [stacksOut]

@[simp] theorem length_stacksBack : (stacksBack targets).length = targets.length := by
  simp [stacksBack]

theorem length_events : (events name targets).length = 2 * targets.length + 1 := by
  simp [events]
  omega

/-- The lines of a walk are those of the stacks that it goes through, and one behind them. -/
theorem stops_append_eq (last : String) :
    stops name targets ++ (stops name targets).reverse.tail ++ [last] =
      lineAt name [] :: ((stacksOut targets).map (lineAt name)
        ++ (stacksBack targets).map (lineAt name)) ++ [last] := by
  have hinits : targets.inits = [] :: targets.inits.tail := by cases targets <;> rfl
  have hout : stops name targets = lineAt name [] :: (stacksOut targets).map (lineAt name) := by
    rw [stops, stacksOut, List.map_map, hinits, List.map_cons, List.tail_cons]
    rfl
  rw [reverse_stops, stacksBack, List.map_tail, hout, List.cons_append]

/-- Nothing that a walk reports is a warning: all of it is for debugging. -/
theorem level_of_mem_events {e : Event} (h : e ∈ events name targets ++ [.read name 0]) :
    (Record.ofEvent e).level = .debug := by
  simp only [events, List.mem_append, List.mem_cons, List.mem_map, List.not_mem_nil,
    or_false] at h
  rcases h with (rfl | ⟨s, -, rfl⟩ | ⟨s, -, rfl⟩) | rfl <;> rfl

end Walk

namespace Program

/-! ## What is logged -/

/-- The filter that decides what is logged: the one that the user asks for, or else the default of
the tracing switch. -/
def Environment.filterInForce (env : Environment) : LogFilter :=
  .choose env.filter (Tracing.ofValue env.tracing).defaultFilter

def records (request : CommandLine) (env : Environment) : List Record :=
  (Walk.thereAndBack
    (.create request.name (Tracing.ofValue env.tracing).enabled Journal.empty)
    request.targets).var.sink.records

/-- The lines of the walk do not depend on the environment, and nothing but the log does. -/
theorem print_eq (request : CommandLine) (env : Environment) :
    print request env =
      ⟨0, Walk.stops request.name request.targets
          ++ (Walk.stops request.name request.targets).reverse.tail ++ [request.name ++ " = 0"],
        env.filterInForce.log (records request env)⟩ := by
  obtain ⟨hok, hlines⟩ := Walk.thereAndBack_create request.name
    (Tracing.ofValue env.tracing).enabled Journal.empty request.targets
  simp only [print, hok, hlines]
  rfl

theorem records_of_traced (request : CommandLine) {env : Environment}
    (h : env.tracing = some "1") :
    records request env =
      (Walk.events request.name request.targets ++ [Event.read request.name 0]).map
        Record.ofEvent := by
  rw [records, Walk.var_thereAndBack_create, Variable.records_performAll_create,
    if_pos ((Tracing.enabled_ofValue _).2 h), Walk.runEvents_operations]

theorem records_of_not_traced (request : CommandLine) {env : Environment}
    (h : env.tracing ≠ some "1") : records request env = [] := by
  rw [records, Walk.var_thereAndBack_create, Variable.records_performAll_create,
    if_neg (mt (Tracing.enabled_ofValue _).1 h)]

theorem level_of_mem_records {request : CommandLine} {env : Environment} {r : Record}
    (hr : r ∈ records request env) : r.level = .debug := by
  by_cases h : env.tracing = some "1"
  · rw [records_of_traced request h] at hr
    obtain ⟨e, he, rfl⟩ := List.mem_map.1 hr
    exact Walk.level_of_mem_events _ _ he
  · rw [records_of_not_traced request h] at hr
    cases hr

/-- A filter that stops what is for debugging leaves nothing to log. -/
theorem stderr_of_stops (request : CommandLine) {env : Environment}
    (h : ∀ r : Record, r.level = .debug → env.filterInForce.passes r = false) :
    (print request env).stderr = [] := by
  have hnone : (records request env).filter env.filterInForce.passes = [] := by
    rw [List.filter_eq_nil_iff]
    intro r hr
    simp [h r (level_of_mem_records hr)]
  rw [print_eq, LogFilter.log, hnone, List.map_nil]

/-- A filter that passes what is for debugging lets all of it be logged. -/
theorem stderr_of_passes (request : CommandLine) {env : Environment}
    (h : ∀ r : Record, r.level = .debug → env.filterInForce.passes r = true) :
    (print request env).stderr = (records request env).map Record.line := by
  have hall : (records request env).filter env.filterInForce.passes = records request env := by
    rw [List.filter_eq_self]
    intro r hr
    exact h r (level_of_mem_records hr)
  rw [print_eq, LogFilter.log, hall]

/-- A directive for the target of all records decides by their level alone. -/
theorem passes_ofTarget (t : Threshold) (r : Record) :
    LogFilter.passes ⟨[.ofTarget (some Record.target) t]⟩ r = t.passes r.level := by
  have happlies : [Directive.ofTarget (some Record.target) t].filter (·.applies r) =
      [Directive.ofTarget (some Record.target) t] := by
    simp [Directive.applies, Directive.asksFor, Directive.ofTarget]
  rw [LogFilter.passes, LogFilter.deciding?, happlies]
  rfl

/-! ## The log and the lines -/

/-- The line that is printed, the record that is reported and the line that is logged at one place
of a walk tell of the same step: the value that it has led to, and the changes that are recorded by
then, which the printed line lists and the other two count. -/
def TellOfStep (what name : String) (line? : Option String) (record? : Option Record)
    (logged? : Option String) : Prop :=
  ∃ (value : Int32) (changes : List Int64),
    line? = some (name ++ ": " ++ Decimal.ofInt value.toInt ++ "\t ["
      ++ String.join (changes.map fun change => Decimal.ofInt change.toInt ++ " ") ++ "]") ∧
    record? = some ⟨.debug, what, name, some value, some changes.length⟩ ∧
    logged? = some ("DEBUG " ++ what ++ " variable=" ++ Text.quote name
      ++ " value=" ++ Decimal.ofInt value.toInt ++ " depth=" ++ changes.length.repr)

/-- The records, and the lines that are logged of them, go with the lines of a walk of the variable
`name` through `n` targets and back. -/
structure Accompanies (name : String) (n : Nat) (records : List Record)
    (log lines : List String) : Prop where
  length_eq : records.length = 2 * n + 2
  length_log : log.length = 2 * n + 2
  level_eq : ∀ r ∈ records, r.level = .debug
  created : records[0]? = some ⟨.debug, "created", name, none, none⟩ ∧
    log[0]? = some ("DEBUG created variable=" ++ Text.quote name)
  out : ∀ k, 1 ≤ k → k ≤ n → TellOfStep "assigned" name lines[k]? records[k]? log[k]?
  back : ∀ k, n < k → k ≤ 2 * n → TellOfStep "unassigned" name lines[k]? records[k]? log[k]?
  /-- Behind the last stop the value of the start is read. -/
  readAtEnd : records[2 * n + 1]? = some ⟨.debug, "read", name, some 0, none⟩ ∧
    log[2 * n + 1]? = some ("DEBUG read variable=" ++ Text.quote name ++ " value=0")

/-- The line in which a record for debugging is logged. -/
theorem line_of_debug (what name : String) (value : Option Int32) (depth : Option Nat) :
    Record.line ⟨.debug, what, name, value, depth⟩ =
      "DEBUG " ++ what ++ " variable=" ++ Text.quote name
        ++ value.elim "" (" value=" ++ Decimal.ofInt ·.toInt)
        ++ depth.elim "" (" depth=" ++ Nat.repr ·) := by
  have hlevel : "DEBUG " = "DEBUG" ++ " " := by decide +kernel
  have hvariable : " variable=" = " " ++ ("variable" ++ "=") := by decide +kernel
  have hvalue : " value=" = " " ++ ("value" ++ "=") := by decide +kernel
  have hdepth : " depth=" = " " ++ ("depth" ++ "=") := by decide +kernel
  rw [hlevel, hvariable, hvalue, hdepth]
  cases value <;> cases depth <;>
    simp [Record.line, Record.fields, FieldValue.written, Level.label, Decimal.ofInt_natCast,
      String.append_assoc, -String.reduceAppend]

section Journey

variable {α β : Type} {first last : β} {f : α → β} {a : α}

theorem getElem?_out {way : List α} {back : List β} {i : Nat} (h : way[i]? = some a) :
    (first :: (way.map f ++ back) ++ [last])[i + 1]? = some (f a) := by
  have hi : i < (way.map f).length := by
    rw [List.length_map]
    exact (List.getElem?_eq_some_iff.1 h).1
  rw [List.cons_append, List.getElem?_cons_succ, List.append_assoc,
    List.getElem?_append_left hi, List.getElem?_map, h, Option.map_some]

theorem getElem?_back {out : List β} {way : List α} {n j : Nat} (hn : out.length = n)
    (h : way[j]? = some a) :
    (first :: (out ++ way.map f) ++ [last])[n + j + 1]? = some (f a) := by
  have hj : j < (way.map f).length := by
    rw [List.length_map]
    exact (List.getElem?_eq_some_iff.1 h).1
  subst hn
  rw [List.cons_append, List.getElem?_cons_succ, List.append_assoc,
    List.getElem?_append_right (Nat.le_add_right _ _), Nat.add_sub_cancel_left,
    List.getElem?_append_left hj, List.getElem?_map, h, Option.map_some]

end Journey

/-- At a stack that a walk has led to, its line and its event tell of the same step. -/
theorem tellOfStep_lineAt {what name : String} {s : ValueStack} {e : Event}
    (he : Record.ofEvent e = ⟨.debug, what, name, some s.current, some (s.length + 1)⟩) :
    TellOfStep what name (some (Walk.lineAt name s)) (some (.ofEvent e))
      (some (Record.ofEvent e).line) := by
  have hlength : s.length + 1 = (ofStack s).toList.length := by simp
  rw [hlength] at he
  refine ⟨s.current, (ofStack s).toList, rfl, congrArg some he, ?_⟩
  rw [he, line_of_debug]
  simp only [Option.elim_some, String.append_assoc]

theorem accompanies_events (name : String) (targets : List Int32) (last : String) :
    let events := Walk.events name targets ++ [.read name 0]
    Accompanies name targets.length (events.map Record.ofEvent)
      (events.map fun e => (Record.ofEvent e).line)
      (Walk.stops name targets ++ (Walk.stops name targets).reverse.tail ++ [last]) where
  length_eq := by simp [Walk.length_events]
  length_log := by simp [Walk.length_events]
  level_eq := by
    intro r hr
    obtain ⟨e, he, rfl⟩ := List.mem_map.1 hr
    exact Walk.level_of_mem_events name targets he
  created := by simp [Walk.events, Record.ofEvent, line_of_debug, String.append_assoc]
  out := by
    intro k hpos hk
    obtain ⟨i, rfl⟩ := Nat.exists_eq_add_of_le' hpos
    have hi : i < (Walk.stacksOut targets).length := by
      rw [Walk.length_stacksOut]
      exact hk
    have hstack := List.getElem?_eq_getElem hi
    rw [List.getElem?_map, List.getElem?_map, Walk.stops_append_eq, Walk.events,
      getElem?_out hstack, getElem?_out hstack]
    exact tellOfStep_lineAt rfl
  back := by
    intro k hk hlast
    obtain ⟨j, rfl⟩ := Nat.exists_eq_add_of_lt hk
    have hj : j < (Walk.stacksBack targets).length := by
      rw [Walk.length_stacksBack]
      omega
    have hstack := List.getElem?_eq_getElem hj
    rw [List.getElem?_map, List.getElem?_map, Walk.stops_append_eq, Walk.events,
      getElem?_back (by simp) hstack, getElem?_back (by simp) hstack]
    exact tellOfStep_lineAt rfl
  readAtEnd := by
    have hzero : " value=" ++ Decimal.ofInt 0 = " value=0" := by decide +kernel
    rw [List.getElem?_map, List.getElem?_map, ← Walk.length_events name,
      List.getElem?_concat_length]
    simp [Record.ofEvent, line_of_debug, String.append_assoc, hzero]

/-- **The log goes with the lines.** When the variable is traced and the filter passes what is for
debugging, what is logged of a printed walk tells of the same steps as what is printed: each record,
and the line in which it is logged, has the value and depth of the line at its place. Otherwise
nothing is logged at all, for no walk gives a warning. What is printed, and how the program ends, is
the same in every environment. -/
theorem stderr_print_accompanies_stdout (request : CommandLine) :
    (∀ env : Environment, env.tracing = some "1" →
      (∀ r : Record, r.level = .debug → env.filterInForce.passes r = true) →
        (print request env).stderr = (records request env).map Record.line ∧
          Accompanies request.name request.targets.length (records request env)
            (print request env).stderr (print request env).stdout) ∧
      (∀ env : Environment,
        (∀ r : Record, r.level = .debug → env.filterInForce.passes r = false) →
          (print request env).stderr = []) ∧
      (∀ env : Environment, env.tracing ≠ some "1" → (print request env).stderr = []) ∧
      (∀ env : Environment, ∀ r ∈ records request env, r.level ≠ .warn) ∧
      ∀ env₁ env₂ : Environment, (print request env₁).stdout = (print request env₂).stdout ∧
        (print request env₁).code = (print request env₂).code := by
  refine ⟨?_, fun _ h => stderr_of_stops request h, ?_, ?_, ?_⟩
  · intro env htraced hpasses
    refine ⟨stderr_of_passes request hpasses, ?_⟩
    rw [stderr_of_passes request hpasses, records_of_traced request htraced, print_eq,
      List.map_map]
    exact accompanies_events request.name request.targets _
  · intro env h
    rw [print_eq, records_of_not_traced request h]
    rfl
  · intro env r hr
    simp [level_of_mem_records hr]
  · intro env₁ env₂
    rw [print_eq, print_eq]
    exact ⟨rfl, rfl⟩

/-- A walk to both ends of the range, of a variable with a name that must be quoted: with the
default filter, with one that stops everything, and without tracing. -/
theorem stderr_print_extremes :
    let request : CommandLine := ⟨true, "x \"7\"", [Int32.minValue, Int32.maxValue]⟩
    (print request ⟨some "1", none⟩).stderr =
        ["DEBUG created variable=\"x \\\"7\\\"\"",
          "DEBUG assigned variable=\"x \\\"7\\\"\" value=-2147483648 depth=2",
          "DEBUG assigned variable=\"x \\\"7\\\"\" value=2147483647 depth=3",
          "DEBUG unassigned variable=\"x \\\"7\\\"\" value=-2147483648 depth=2",
          "DEBUG unassigned variable=\"x \\\"7\\\"\" value=0 depth=1",
          "DEBUG read variable=\"x \\\"7\\\"\" value=0"] ∧
      (print request ⟨some "1", none⟩).stdout =
        ["x \"7\": 0\t [0 ]",
          "x \"7\": -2147483648\t [0 -2147483648 ]",
          "x \"7\": 2147483647\t [0 -2147483648 4294967295 ]",
          "x \"7\": -2147483648\t [0 -2147483648 ]",
          "x \"7\": 0\t [0 ]",
          "x \"7\" = 0"] ∧
      Accompanies "x \"7\"" 2 (records request ⟨some "1", none⟩)
        (print request ⟨some "1", none⟩).stderr (print request ⟨some "1", none⟩).stdout ∧
      (print request ⟨some "1", some "rimpvar=off"⟩).stderr = [] ∧
      (print request ⟨some "true", some "trace"⟩).stderr = [] := by
  intro request
  have hfilter : ∀ asked t, LogFilter.choose asked "rimpvar=debug" =
      ⟨[.ofTarget (some Record.target) t]⟩ → ∀ r : Record, r.level = .debug →
        (Environment.mk (some "1") asked).filterInForce.passes r = t.passes .debug := by
    intro asked t h r hr
    change (LogFilter.choose asked "rimpvar=debug").passes r = _
    rw [h, passes_ofTarget, hr]
  have hdefault := hfilter none (some .debug) (by decide +kernel)
  have hoff := hfilter (some "rimpvar=off") none (by decide +kernel)
  obtain ⟨hpasses, hstops, huntraced, -⟩ := stderr_print_accompanies_stdout request
  exact ⟨by decide +kernel, by decide +kernel, (hpasses _ rfl hdefault).2, hstops _ hoff,
    huntraced _ (by decide)⟩

end Program

end Backstep
