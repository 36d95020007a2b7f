import Backstep.Proofs.Variable.Stack
import Backstep.Request

/-!
# What a trace tells

A traced variable reports each operation once it is complete, so every event can be told from the
stack of values before it. This file says which events those are, with no word about differences,
and that a trace log holds their lines and no others: all of them since the log was last emptied, in
the order of the run. A rewind reports what as many unassignments would have, and never a refusal.

## Main definitions

* `ValueStack.events`, `ValueStack.runEvents` — the events of an operation and of a run, told from
  the stack before it.
* `Account` — the stack and the events of a run of requests.
* `Account.Agrees` — a variable is as the account says.
-/

namespace Backstep

/-! ## The events of an operation -/

namespace ValueStack

/-- The events of a rewind: one for each value on the stack. The depths go down to `1`, and the
values restored are the earlier ones, the latest first, down to the `0` of the construction. -/
def rewindEvents (name : String) (s : ValueStack) : List Event :=
  List.zipWith (Event.unassigned name) (s.tail ++ [0]) (List.range' 1 s.length).reverse

/-- The events of an operation. A depth counts the sentinel, so it is one more than the number of
values on the stack that the operation leaves. -/
def events (name : String) (s : ValueStack) : Operation → List Event
  | .assign v => [.assigned name v (s.length + 2)]
  | .unassign =>
    match s with
    | [] => [.unassignFailed name]
    | _ :: earlier => [.unassigned name (current earlier) (earlier.length + 1)]
  | .rewind => s.rewindEvents name
  | .get => [.read name s.current]

/-- The events of a run of operations, oldest first. -/
def runEvents (name : String) (s : ValueStack) : List Operation → List Event
  | [] => []
  | o :: os => s.events name o ++ runEvents name (s.next o) os

variable (name : String) (v : Int32) (s : ValueStack)

/-- A rewind starts as an unassignment does, and goes on as a rewind from there. -/
theorem rewindEvents_cons :
    rewindEvents name (v :: s) =
      .unassigned name s.current (s.length + 1) :: rewindEvents name s := by
  have hdepths : (List.range' 1 (s.length + 1)).reverse =
      (s.length + 1) :: (List.range' 1 s.length).reverse := by
    rw [List.range'_concat, List.reverse_append, List.reverse_singleton, List.singleton_append,
      Nat.one_mul, Nat.add_comm]
  rw [rewindEvents, List.tail_cons, List.length_cons, hdepths]
  cases s <;> rfl

@[simp] theorem length_rewindEvents : (rewindEvents name s).length = s.length := by
  induction s with
  | nil => rfl
  | cons v s ih => rw [rewindEvents_cons, List.length_cons, ih, List.length_cons]

end ValueStack

namespace Variable

open History (ofStack)

/-! ## What the sink is told -/

section Sink

variable {σ : Type} [Sink σ]

/-- What the sink of a variable becomes when the variable reports some events, oldest first. -/
def told (x : Variable σ) (es : List Event) : σ :=
  if x.traced then es.foldl Sink.record x.sink else x.sink

@[simp] theorem told_nil (x : Variable σ) : x.told [] = x.sink := by
  rw [told]
  split <;> rfl

theorem sink_report_eq_told (x : Variable σ) (e : Event) : (x.report e).sink = x.told [e] :=
  sink_report x e

/-- A sink that was told some events and then some more was told all of them. -/
theorem told_of_sink_eq {x y : Variable σ} {es : List Event} (hsink : y.sink = x.told es)
    (htraced : y.traced = x.traced) (fs : List Event) : y.told fs = x.told (es ++ fs) := by
  rw [told] at hsink
  rw [told, told, htraced, hsink]
  by_cases h : x.traced = true
  · rw [if_pos h, if_pos h, if_pos h, List.foldl_append]
  · rw [if_neg h, if_neg h, if_neg h]

@[simp] theorem traced_unassignUpTo (n : Nat) (x : Variable σ) :
    (unassignUpTo n x).2.traced = x.traced :=
  unassignUpTo_induction (P := fun y => y.traced = x.traced)
    (fun y hy => (traced_unassign y).trans hy) n rfl

@[simp] theorem traced_rewind (x : Variable σ) : x.rewind.2.traced = x.traced :=
  traced_unassignUpTo _ x

theorem snd_perform_unassign (x : Variable σ) : (x.perform .unassign).2 = x.unassign.2 := by
  rw [perform]
  split <;> simp_all

@[simp] theorem traced_perform (x : Variable σ) (o : Operation) :
    (x.perform o).2.traced = x.traced := by
  cases o with
  | assign v => exact traced_assign x v
  | unassign => rw [snd_perform_unassign, traced_unassign]
  | rewind => exact traced_rewind x
  | get => exact traced_get x

end Sink

section Holds

variable {σ : Type} [Sink σ] {x : Variable σ} {s : ValueStack} (hx : x.history = ofStack s)
include hx

theorem sink_assign_of_history (v : Int32) :
    (x.assign v).sink = x.told [.assigned x.name v (s.length + 2)] := by
  have hstep : (x.history.push v).1.depth = s.length + 2 := by
    rw [hx]
    exact congrArg (· + 1) (History.depth_ofStack s)
  rw [assign, sink_report_eq_told, hstep]
  rfl

theorem sink_unassign_of_history :
    x.unassign.2.sink = x.told (s.events x.name .unassign) := by
  cases s with
  | nil =>
    have hpop : x.history.pop? = none := by rw [hx, History.ofStack_nil, History.pop?_new]
    rw [unassign, hpop]
    exact sink_report_eq_told x _
  | cons v s =>
    have hpop := hx ▸ History.pop?_ofStack_cons s v
    rw [unassign, hpop]
    exact sink_report_eq_told { x with history := ofStack s } _

end Holds

/-- Rewinding tells the sink one event for each value. -/
theorem sink_rewind_of_history {σ : Type} [Sink σ] {x : Variable σ} {s : ValueStack}
    (hx : x.history = ofStack s) : x.rewind.2.sink = x.told (s.rewindEvents x.name) := by
  rw [snd_rewind_of_history hx]
  induction s generalizing x with
  | nil => exact (told_nil x).symm
  | cons v s ih =>
    have hfirst := sink_unassign_of_history hx
    have hrest := ih (history_unassign_of_history hx)
    rw [name_unassign, told_of_sink_eq hfirst (traced_unassign x)] at hrest
    rw [List.length_cons, Function.iterate_succ_apply, hrest, ValueStack.rewindEvents_cons]
    rfl

/-- **What an operation reports.** The sink of a traced variable is told the events of the
operation, and that of another variable nothing. -/
theorem sink_perform_of_history {σ : Type} [Sink σ] {x : Variable σ} {s : ValueStack}
    (hx : x.history = ofStack s) (o : Operation) :
    (x.perform o).2.sink = x.told (s.events x.name o) := by
  cases o with
  | assign v => exact sink_assign_of_history hx v
  | unassign => rw [snd_perform_unassign, sink_unassign_of_history hx]
  | rewind => exact sink_rewind_of_history hx
  | get =>
    have hvalue : x.history.value = s.current := by rw [hx, History.value_ofStack]
    change (x.report (.read x.name x.history.value)).sink = _
    rw [sink_report_eq_told, hvalue]
    rfl

/-- **What a run reports.** The sink is told the events of each operation in turn. -/
theorem sink_performAll_of_history {σ : Type} [Sink σ] {x : Variable σ} {s : ValueStack}
    (hx : x.history = ofStack s) (os : List Operation) :
    (x.performAll os).2.sink = x.told (s.runEvents x.name os) := by
  induction os generalizing x s with
  | nil => exact (told_nil x).symm
  | cons o os ih =>
    have hfirst := sink_perform_of_history hx o
    have hrest := ih (perform_of_history hx o).2
    rw [name_perform, told_of_sink_eq hfirst (traced_perform x o)] at hrest
    exact hrest

/-- A log that is told events has their lines after those it had. -/
theorem lines_told (x : Variable Trace) (es : List Event) :
    (x.told es).lines = if x.traced then x.sink.lines ++ es.map Event.line else x.sink.lines := by
  have hlines : (es.foldl Sink.record x.sink).lines = x.sink.lines ++ es.map Event.line := by
    generalize x.sink = log
    induction es generalizing log with
    | nil => simp
    | cons e es ih =>
      rw [List.foldl_cons, ih, Trace.lines_record, List.append_assoc, List.singleton_append,
        List.map_cons]
  rw [told]
  split
  · exact hlines
  · rfl

end Variable

/-! ## Accounts -/

/-- A run of requests as it can be told without the variable: the stack of values that the run has
come to, and the events since the trace was last forgotten. -/
structure Account where
  stack : ValueStack
  events : List Event
  deriving DecidableEq

namespace Account

def new (name : String) : Account := ⟨[], [.created name]⟩

/-- The account after one more request. Looks leave no trace. -/
def next (name : String) (a : Account) : Request → Account
  | .perform o => ⟨a.stack.next o, a.events ++ a.stack.events name o⟩
  | .look _ => a
  | .clear => { a with events := [] }

def ofRun (name : String) (rs : List Request) : Account := rs.foldl (next name) (new name)

/-- The variable has the name and the stack of the account, and its log, if it is traced, has the
lines of the account's events. -/
structure Agrees (name : String) (a : Account) (x : Variable Trace) : Prop where
  name_eq : x.name = name
  history_eq : x.history = History.ofStack a.stack
  lines_eq : x.sink.lines = if x.traced then a.events.map Event.line else []

theorem agrees_create (name : String) (traced : Bool) :
    Agrees name (new name) (.create name traced .empty) where
  name_eq := Variable.name_create name traced _
  history_eq := Variable.history_create name traced _
  lines_eq := by
    rw [Variable.create, Variable.sink_report_eq_told, Variable.lines_told,
      Variable.traced_report]
    rfl

namespace Agrees

variable {name : String} {a : Account} {x : Variable Trace}

theorem perform (h : Agrees name a x) (o : Operation) :
    Agrees name (a.next name (.perform o)) (x.perform o).2 where
  name_eq := by rw [Variable.name_perform, h.name_eq]
  history_eq := (Variable.perform_of_history h.history_eq o).2
  lines_eq := by
    rw [Variable.sink_perform_of_history h.history_eq, Variable.lines_told, Variable.traced_perform,
      h.lines_eq, h.name_eq, next, List.map_append]
    by_cases ht : x.traced = true
    · rw [if_pos ht, if_pos ht, if_pos ht]
    · rw [if_neg ht, if_neg ht, if_neg ht]

theorem clear (h : Agrees name a x) : Agrees name (a.next name .clear) x.clearTrace where
  name_eq := h.name_eq
  history_eq := h.history_eq
  lines_eq := by
    rw [Variable.clearTrace, Trace.lines_empty, next, List.map_nil, ite_self]

theorem serve (h : Agrees name a x) (r : Request) :
    Agrees name (a.next name r) (x.serve r).2 := by
  cases r with
  | perform o => exact h.perform o
  | look l => exact h
  | clear => exact h.clear

theorem serveAll (h : Agrees name a x) (rs : List Request) :
    Agrees name (rs.foldl (next name) a) (x.serveAll rs).2 := by
  induction rs generalizing a x with
  | nil => exact h
  | cons r rs ih => exact ih (h.serve r)

end Agrees

end Account

namespace Variable

@[simp] theorem traced_serve (x : Variable Trace) (r : Request) :
    (x.serve r).2.traced = x.traced := by
  cases r with
  | perform o => exact traced_perform x o
  | look l => rfl
  | clear => rfl

@[simp] theorem traced_serveAll (x : Variable Trace) (rs : List Request) :
    (x.serveAll rs).2.traced = x.traced := by
  induction rs generalizing x with
  | nil => rfl
  | cons r rs ih => exact (ih _).trans (traced_serve x r)

/-- **The trace is the run.** Whatever is asked of a traced variable, its log holds the lines of the
account of the run, which has the value and depth that the variable has; rewound from there, it adds
one line for each assignment in force. The log of a variable that is not traced stays empty. -/
theorem lines_serveAll (name : String) (rs : List Request) :
    let x := ((create name true Trace.empty).serveAll rs).2
    let y := ((create name false Trace.empty).serveAll rs).2
    let account := Account.ofRun name rs
    x.sink.lines = account.events.map Event.line ∧
      x.history.value = account.stack.current ∧
      x.depth = account.stack.length + 1 ∧
      x.rewind.2.sink.lines =
        x.sink.lines ++ (account.stack.rewindEvents name).map Event.line ∧
      (account.stack.rewindEvents name).length = x.depth - 1 ∧
      y.sink.lines = [] := by
  intro x y account
  have hx : account.Agrees name x := (Account.agrees_create name true).serveAll rs
  have hy : account.Agrees name y := (Account.agrees_create name false).serveAll rs
  have htraced : x.traced = true := (traced_serveAll _ rs).trans (traced_create ..)
  have huntraced : y.traced = false := (traced_serveAll _ rs).trans (traced_create ..)
  have hdepth : x.depth = account.stack.length + 1 := by
    rw [depth, hx.history_eq, History.depth_ofStack]
  refine ⟨?_, ?_, hdepth, ?_, ?_, ?_⟩
  · rw [hx.lines_eq, if_pos htraced]
  · rw [hx.history_eq, History.value_ofStack]
  · rw [sink_rewind_of_history hx.history_eq, lines_told, if_pos htraced, hx.name_eq]
  · rw [ValueStack.length_rewindEvents, hdepth, Nat.add_sub_cancel]
  · rw [hy.lines_eq, huntraced]
    rfl

/-- A short run that undoes once too often. -/
example :
    let operations : List Operation := [.assign 5, .assign 2, .get, .unassign, .unassign, .unassign]
    ((create "x" true Trace.empty).serveAll (operations.map .perform)).2.sink.lines =
      ["created x",
        "assigned x to 5 (history size 2)",
        "assigned x to 2 (history size 3)",
        "read x: 2",
        "unassigned x to 5 (history size 2)",
        "unassigned x to 0 (history size 1)",
        "unassigning x failed: history is empty"] := by
  decide +kernel

end Variable

end Backstep
