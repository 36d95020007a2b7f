import Backstep.Program
import Backstep.Proofs.Variable.Stack
import Mathlib.Data.List.Infix
import Mathlib.Data.List.Palindrome

/-!
# The printed walk is a mirror

On the way back a walk knows nothing of its targets: it undoes as long as there is something to
undo. Still it writes what the way out has written, in reverse, because each undone assignment leads
to the stack of values from before it, and the stacks met on the way down are those met on the way
up. So a printed walk is never refused, ends where it has begun, and what it prints reads the same
from either end up to the line that sums it up.
-/

namespace Backstep

open History (ofStack)

/-- A list followed by its reverse reads the same from either end, also when the two share the
middle. -/
theorem palindrome_append_tail_reverse {α : Type} (l : List α) :
    (l ++ l.reverse.tail).Palindrome := by
  apply List.Palindrome.of_reverse_eq
  rcases List.eq_nil_or_concat l with rfl | ⟨front, a, rfl⟩
  · rfl
  · simp

namespace Walk

/-! ## The two ways -/

/-- The inspection line of a variable of the given name that holds a stack of values. -/
def lineAt (name : String) (s : ValueStack) : String :=
  Snapshot.line ⟨name, s.current, (ofStack s).toList⟩

theorem lineAt_nil (name : String) : lineAt name [] = name ++ ": 0\t [0 ]" := by
  have hvalue : Decimal.ofInt (ValueStack.current []).toInt = "0" := by decide +kernel
  have hchanges : String.join ((ofStack []).toList.map fun delta : Int64 =>
      Decimal.ofInt delta.toInt ++ " ") = "0 " := by decide +kernel
  rw [lineAt, Snapshot.line, hvalue, hchanges]
  simp only [String.append_assoc]
  rfl

theorem line_of_history {σ : Type} {x : Variable σ} {s : ValueStack} (hx : x.history = ofStack s) :
    x.line = lineAt x.name s := by
  rw [Variable.line, Variable.snapshot, hx, History.value_ofStack, lineAt]

variable {σ : Type} [Sink σ]

theorem snd_forwards (x : Variable σ) (targets : List Int32) :
    (forwards x targets).2 = targets.foldl Variable.assign x := by
  induction targets generalizing x with
  | nil => rfl
  | cons target rest ih => exact ih (x.assign target)

/-- The line before the way out and those on it are the lines after the first parts of the
targets. -/
theorem lines_forwards (x : Variable σ) (targets : List Int32) :
    x.line :: (forwards x targets).1 =
      targets.inits.map fun done => (done.foldl Variable.assign x).line := by
  induction targets generalizing x with
  | nil => rfl
  | cons target rest ih =>
    rw [List.inits_cons, List.map_cons, List.map_map]
    exact congrArg (x.line :: ·) (ih (x.assign target))

/-- The line of a new variable after some assignments. -/
theorem line_foldl_assign_create (name : String) (traced : Bool) (sink : σ) (done : List Int32) :
    (done.foldl Variable.assign (.create name traced sink)).line = lineAt name done.reverse := by
  have hx : (Variable.create name traced sink).history = ofStack [] :=
    Variable.history_create name traced sink
  have hhistory := Variable.history_foldl_assign hx done
  rw [List.append_nil] at hhistory
  rw [line_of_history hhistory, Variable.name_foldl_assign, Variable.name_create]

/-- The way back is never refused, leads to the start and passes the stacks below, the latest
first. -/
theorem backwards_of_history {n : Nat} {x : Variable σ} {s : ValueStack}
    (hx : x.history = ofStack s) (hn : s.length ≤ n) :
    (backwards n x).outcome = .ok () ∧
      x.line :: (backwards n x).lines = s.tails.map (lineAt x.name) ∧
      (backwards n x).var.history = ofStack [] ∧ (backwards n x).var.name = x.name := by
  induction n generalizing x s with
  | zero =>
    have hs : s = [] := List.length_eq_zero_iff.1 (Nat.le_zero.1 hn)
    subst hs
    exact ⟨rfl, congrArg ([·]) (line_of_history hx), hx, rfl⟩
  | succ n ih =>
    cases s with
    | nil =>
      have hc : ¬ x.canUndo = true := by rw [Variable.canUndo_of_history hx]; simp
      rw [backwards, if_neg hc]
      exact ⟨rfl, congrArg ([·]) (line_of_history hx), hx, rfl⟩
    | cons v s =>
      have hc : x.canUndo = true := (Variable.canUndo_of_history hx).2 (List.cons_ne_nil v s)
      have hok : x.unassign = (.ok (), x.unassign.2) :=
        Prod.ext (Variable.fst_unassign_of_history hx) rfl
      obtain ⟨houtcome, hlines, hhistory, hname⟩ :=
        ih (Variable.history_unassign_of_history hx) (Nat.le_of_succ_le_succ hn)
      rw [Variable.name_unassign] at hlines hname
      rw [backwards, if_pos hc, hok]
      refine ⟨houtcome, ?_, hhistory, hname⟩
      rw [List.tails_cons, List.map_cons, line_of_history hx]
      exact congrArg (lineAt x.name (v :: s) :: ·) hlines

/-- The lines of a new variable on its way through targets, the first before all of them. -/
def stops (name : String) (targets : List Int32) : List String :=
  targets.inits.map fun done => lineAt name done.reverse

theorem reverse_stops (name : String) (targets : List Int32) :
    (stops name targets).reverse = targets.reverse.tails.map (lineAt name) := by
  have hstops : stops name targets = (targets.inits.map List.reverse).map (lineAt name) := by
    rw [List.map_map]
    rfl
  rw [hstops, List.map_reverse_inits, List.map_reverse, List.reverse_reverse]

/-- A walk whose way back is not refused ends with the value that it has come back to. -/
theorem thereAndBack_of_ok {x y : Variable σ} {targets : List Int32}
    (hy : (forwards x targets).2 = y) (hok : (backwards y.depth y).outcome = .ok ()) :
    thereAndBack x targets =
      ⟨x.line :: (forwards x targets).1 ++ (backwards y.depth y).lines ++
          [(backwards y.depth y).var.name ++ " = " ++
            Decimal.ofInt (backwards y.depth y).var.history.value.toInt],
        .ok (), (backwards y.depth y).var.get.2⟩ := by
  subst hy
  unfold thereAndBack
  simp only [hok, Variable.name_get, Variable.fst_get]

/-- **A walk there and back** from a new variable is not refused. It writes the stops of the way
out, these in reverse, and the value of the start. -/
theorem thereAndBack_create (name : String) (traced : Bool) (sink : σ) (targets : List Int32) :
    (thereAndBack (.create name traced sink) targets).outcome = .ok () ∧
      (thereAndBack (.create name traced sink) targets).lines =
        stops name targets ++ (stops name targets).reverse.tail ++ [name ++ " = 0"] := by
  obtain ⟨y, hy⟩ : ∃ y, (forwards (.create name traced sink) targets).2 = y := ⟨_, rfl⟩
  have hhistory : y.history = ofStack targets.reverse := by
    have hx := Variable.history_create name traced sink
    rw [← hy, snd_forwards, Variable.history_foldl_assign (s := []) hx, List.append_nil]
  have hname : y.name = name := by
    rw [← hy, snd_forwards, Variable.name_foldl_assign, Variable.name_create]
  have hdepth : targets.reverse.length ≤ y.depth := by
    rw [Variable.depth, hhistory, History.depth_ofStack]
    exact Nat.le_succ _
  -- The depth bounds the loop, one more than the assignments that are there to undo.
  obtain ⟨hok, hlines, hstart, hback⟩ := backwards_of_history hhistory hdepth
  have hout : (Variable.create name traced sink).line ::
      (forwards (.create name traced sink) targets).1 = stops name targets := by
    rw [lines_forwards]
    simp only [line_foldl_assign_create, stops]
  have htail : (backwards y.depth y).lines = (stops name targets).reverse.tail := by
    rw [reverse_stops, ← hname, ← hlines, List.tail_cons]
  have hvalue : Decimal.ofInt (backwards y.depth y).var.history.value.toInt = "0" := by
    rw [hstart]
    decide +kernel
  rw [thereAndBack_of_ok hy hok, hout, htail, hvalue, hback, hname, String.append_assoc]
  exact ⟨rfl, rfl⟩

end Walk

namespace Program

/-! ## What is printed -/

/-- The lines of the walk of a new variable through targets and back. -/
structure Mirror (name : String) (targets : List Int32) (lines : List String) : Prop where
  length_eq : lines.length = 2 * targets.length + 2
  /-- On the way out each line is that of a new variable after the first assignments. -/
  out : ∀ k ≤ targets.length, ∀ (traced : Bool) (sink : Trace),
    lines[k]? = some ((targets.take k).foldl Variable.assign (.create name traced sink)).line
  /-- On the way back each line is the one met as far from the turn on the way out. -/
  back : ∀ j ≤ targets.length, lines[targets.length + j]? = lines[targets.length - j]?
  palindrome : (lines.take (2 * targets.length + 1)).Palindrome
  first : lines[0]? = some (name ++ ": 0\t [0 ]")
  returned : lines[2 * targets.length]? = some (name ++ ": 0\t [0 ]")
  last : lines[2 * targets.length + 1]? = some (name ++ " = 0")

section Stops

open Walk (lineAt stops)

variable (name : String) (targets : List Int32)

theorem length_stops : (stops name targets).length = targets.length + 1 := by
  rw [stops, List.length_map, List.length_inits]

theorem getElem?_stops {k : Nat} (hk : k ≤ targets.length) :
    (stops name targets)[k]? = some (lineAt name (targets.take k).reverse) := by
  have hinits : targets.inits[k]? = some (targets.take k) := by
    rw [List.getElem?_eq_getElem (by rw [List.length_inits]; omega), List.getElem_inits]
  rw [stops, List.getElem?_map, hinits, Option.map_some]

/-- Stops, the same in reverse and a last line make a mirror. -/
theorem mirror_of_stops :
    Mirror name targets
      (stops name targets ++ (stops name targets).reverse.tail ++ [name ++ " = 0"]) := by
  have hmirror := palindrome_append_tail_reverse (stops name targets)
  have hstops := length_stops name targets
  have hlength : (stops name targets ++ (stops name targets).reverse.tail).length =
      2 * targets.length + 1 := by
    rw [List.length_append, List.length_tail, List.length_reverse, hstops]
    omega
  have hout : ∀ k ≤ targets.length,
      (stops name targets ++ (stops name targets).reverse.tail)[k]? =
        some (lineAt name (targets.take k).reverse) := by
    intro k hk
    rw [List.getElem?_append_left (by omega), getElem?_stops name targets hk]
  generalize stops name targets ++ (stops name targets).reverse.tail = both at *
  have hboth : ∀ i < 2 * targets.length + 1, (both ++ [name ++ " = 0"])[i]? = both[i]? := by
    intro i hi
    exact List.getElem?_append_left (by omega)
  have hback : ∀ j ≤ targets.length, both[targets.length + j]? = both[targets.length - j]? := by
    intro j hj
    have hplace : both.length - 1 - (targets.length + j) = targets.length - j := by omega
    rw [← hplace, ← List.getElem?_reverse (by omega), hmirror.reverse_eq]
  have hfirst : both[0]? = some (name ++ ": 0\t [0 ]") := by
    rw [hout 0 (Nat.zero_le _), List.take_zero, List.reverse_nil, Walk.lineAt_nil]
  refine ⟨?_, ?_, ?_, ?_, ?_, ?_, ?_⟩
  · rw [List.length_append, hlength]
    rfl
  · intro k hk traced sink
    rw [hboth k (by omega), hout k hk, Walk.line_foldl_assign_create]
  · intro j hj
    rw [hboth _ (by omega), hboth _ (by omega), hback j hj]
  · rw [List.take_left' hlength]
    exact hmirror
  · rw [hboth 0 (by omega), hfirst]
  · have hend := hback targets.length le_rfl
    rw [Nat.sub_self, ← Nat.two_mul, hfirst] at hend
    rw [hboth _ (by omega), hend]
  · rw [← hlength, List.getElem?_concat_length]

end Stops

/-- A printed walk ends well, whatever is traced and logged of it. -/
theorem print_mirror (request : CommandLine) (env : Environment) :
    (print request env).code = 0 ∧
      Mirror request.name request.targets (print request env).stdout := by
  obtain ⟨hok, hlines⟩ := Walk.thereAndBack_create request.name
    (Tracing.ofValue env.tracing).enabled Journal.empty request.targets
  have hmirror := mirror_of_stops request.name request.targets
  rw [← hlines] at hmirror
  simp only [print, hok]
  exact ⟨trivial, hmirror⟩

/-! ## What is refused -/

/-- The words for a refusal. -/
inductive ReasonOf : CommandLine.Error → String → Prop
  | missingName : ReasonOf .missingName "no variable name provided"
  | invalidTarget (argument : String) :
      ReasonOf (.invalidTarget argument)
        ("invalid target value '" ++ argument ++ "': expected a 32-bit integer")
  | unknownOption (argument : String) :
      ReasonOf (.unknownOption argument) ("unknown option '" ++ argument ++ "'")

theorem reasonOf_message (e : CommandLine.Error) : ReasonOf e e.message := by
  cases e with
  | missingName => exact .missingName
  | invalidTarget argument => exact .invalidTarget argument
  | unknownOption argument => exact .unknownOption argument

/-- What the program of the given name leaves of an argument list that it refuses. -/
structure Refuses (program : String) (e : CommandLine.Error) (outcome : Outcome) : Prop where
  code_eq : outcome.code = 1
  stdout_eq : outcome.stdout = []
  /-- The reason, an empty line, and the usage. -/
  stderr_eq : ∃ reason, ReasonOf e reason ∧ outcome.stderr =
    ["Error: " ++ reason,
      "",
      "Usage: " ++ program ++ " [--print] <name> <value>...",
      "",
      "Examples:",
      "  " ++ program ++ " x 5 2 -3          # Step through the assignments in the TUI",
      "  " ++ program ++ " --print x 5 2     # Assign then unwind, printing each step",
      "",
      "Set RIMP_DEBUG=1 to trace every operation."]

theorem refuses_refuse (program : String) (e : CommandLine.Error) :
    Refuses program e (refuse program e) where
  code_eq := rfl
  stdout_eq := rfl
  stderr_eq := ⟨e.message, reasonOf_message e, rfl⟩

/-- **A printed walk is a mirror.** Whatever the environment is, an argument list that asks for a
printed walk gets one that ends well and reads the same from either end, and one that cannot be read
gets the reason and the usage and nothing else. -/
theorem start_mirrors_or_refuses (program : String) (arguments : List String) (env : Environment) :
    (∀ request, CommandLine.parse arguments = .ok request → request.print = true →
      ∃ outcome, start program arguments env = .ended outcome ∧ outcome.code = 0 ∧
        Mirror request.name request.targets outcome.stdout) ∧
    ∀ e, CommandLine.parse arguments = .error e →
      ∃ outcome, start program arguments env = .ended outcome ∧ Refuses program e outcome := by
  refine ⟨?_, ?_⟩
  · intro request hparse hprint
    refine ⟨print request env, ?_, print_mirror request env⟩
    rw [start, hparse]
    exact if_pos hprint
  · intro e hparse
    refine ⟨refuse program e, ?_, refuses_refuse program e⟩
    rw [start, hparse]

/-- A walk to both ends of the range, and a list that stops at its second argument. -/
theorem start_mirrors_extremes :
    let asked := ["x", "-2147483648", "-p", "2147483647"]
    let wrong := ["-p", "x", "2147483648", "--help"]
    let env : Environment := ⟨some "1", some "rimpvar=off"⟩
    CommandLine.parse asked = .ok ⟨true, "x", [Int32.minValue, Int32.maxValue]⟩ ∧
      (∃ outcome, start "rimpvar" asked env = .ended outcome ∧ outcome.code = 0 ∧
        Mirror "x" [Int32.minValue, Int32.maxValue] outcome.stdout) ∧
      CommandLine.parse wrong = .error (.invalidTarget "2147483648") ∧
      ∃ outcome, start "./rimpvar" wrong env = .ended outcome ∧ outcome.code = 1 ∧
        outcome.stdout = [] ∧ outcome.stderr =
          ["Error: invalid target value '2147483648': expected a 32-bit integer",
            "",
            "Usage: ./rimpvar [--print] <name> <value>...",
            "",
            "Examples:",
            "  ./rimpvar x 5 2 -3          # Step through the assignments in the TUI",
            "  ./rimpvar --print x 5 2     # Assign then unwind, printing each step",
            "",
            "Set RIMP_DEBUG=1 to trace every operation."] := by
  intro asked wrong env
  have hasked : CommandLine.parse asked = .ok ⟨true, "x", [Int32.minValue, Int32.maxValue]⟩ := by
    decide +kernel
  have hwrong : CommandLine.parse wrong = .error (.invalidTarget "2147483648") := by
    decide +kernel
  obtain ⟨outcome, hstart, hrefuses⟩ := (start_mirrors_or_refuses "./rimpvar" wrong env).2 _ hwrong
  obtain ⟨_, ⟨⟩, hstderr⟩ := hrefuses.stderr_eq
  exact ⟨hasked, (start_mirrors_or_refuses "rimpvar" asked env).1 _ hasked rfl, hwrong, outcome,
    hstart, hrefuses.code_eq, hrefuses.stdout_eq, hstderr⟩

end Program

end Backstep
