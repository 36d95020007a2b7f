import Backstep.Proofs.Stepper.Lockstep

/-!
# Sessions apart from their views

Focus and scroll offsets say what a user looks at, and no command decides anything by them. So the
keys that only move them may be left out of a session, and its screens may have any size, and the
program does the same: the variable, its trace line for line, the status, playback and the wish to
quit. The two sessions to be compared are of different length, and what is carried from one moment
to the next is a relation between them: the longer one takes the moments that were left out alone,
and neither its variable nor its status takes notice.

## Main definitions

* `Input.IsView`, `Moment.IsView`, `Occurrence.IsView` — what only concerns the view.
* `Thinned` — a list of which some members may have been left out.
* `Stepper.SameButView` — two sessions that differ at most in their views.
* `Stepper.SameProgram` — all that two such sessions have in common.
-/

namespace Backstep

/-! ## What only concerns the view -/

/-- Moving the focus or an offset. -/
def Command.IsView : Command → Prop
  | .switchFocus | .scrollUp | .scrollDown => True
  | .quit | .advance _ | .back | .forward | .togglePlay | .jumpToEnd | .jumpToStart => False

/-- A key for such a command or for none, a space bar that bounced, or no key press at all. -/
def Input.IsView : Input → Prop
  | .press key => ∀ c, key.command? = some c → c.IsView
  | .bounce | .noise => True

/-- Such an input, or a draw. -/
def Moment.IsView : Moment → Prop
  | .input i => i.IsView
  | .tick => False
  | .draw _ => True

/-- Such an input with the draws around it, or a draw. -/
def Occurrence.IsView : Occurrence → Prop
  | .input i => i.IsView
  | .tick => False
  | .redraw => True

/-- The same moment, but for the size of a draw. -/
inductive Moment.SameButSize : Moment → Moment → Prop
  | refl (m : Moment) : SameButSize m m
  | draw (size₁ size₂ : Size) : SameButSize (.draw size₁) (.draw size₂)

/-- A key that starts playback is not for the view. -/
theorem Input.IsView.isPlayKey_eq {i : Input} (hi : i.IsView) : i.isPlayKey = false := by
  rw [isPlayKey, beq_eq_false_iff_ne]
  rintro rfl
  exact hi .togglePlay rfl

/-! ## Lists of which some members were left out -/

/-- The second list is the first one, but for idle members, of which any may have been left out, and
but for members that were replaced by their like. -/
inductive Thinned {α : Type} (Idle : α → Prop) (Like : α → α → Prop) : List α → List α → Prop
  | nil : Thinned Idle Like [] []
  | keep {a b : α} {as bs : List α} (hlike : Like a b) (hrest : Thinned Idle Like as bs) :
      Thinned Idle Like (a :: as) (b :: bs)
  | leaveOut {a : α} {as bs : List α} (hidle : Idle a) (hrest : Thinned Idle Like as bs) :
      Thinned Idle Like (a :: as) bs

/-- A relation that is kept by the like steps of two runs, and by the idle steps of the first one
alone, is kept by the runs. -/
theorem Thinned.foldl {α σ : Type} {Idle : α → Prop} {Like : α → α → Prop} {step : σ → α → σ}
    {R : σ → σ → Prop}
    (hlike : ∀ s t a b, R s t → Like a b → R (step s a) (step t b))
    (hidle : ∀ s t a, R s t → Idle a → R (step s a) t)
    {as bs : List α} (h : Thinned Idle Like as bs) {s t : σ} (hst : R s t) :
    R (as.foldl step s) (bs.foldl step t) := by
  induction h generalizing s t with
  | nil => exact hst
  | keep hab _ ih => exact ih (hlike s t _ _ hst hab)
  | leaveOut ha _ ih => exact ih (hidle s t _ hst ha)

namespace Stepper

/-- The second session is the first one, perhaps with the focus and the offsets elsewhere. -/
def SameButView (s t : Stepper) : Prop :=
  ∃ focus historyScroll traceScroll, t = { s with focus, historyScroll, traceScroll }

namespace SameButView

variable {s t : Stepper}

theorem refl (s : Stepper) : SameButView s s := ⟨s.focus, s.historyScroll, s.traceScroll, rfl⟩

theorem var_eq (h : SameButView s t) : s.var = t.var := by
  obtain ⟨f, m, n, rfl⟩ := h
  rfl

theorem targets_eq (h : SameButView s t) : s.targets = t.targets := by
  obtain ⟨f, m, n, rfl⟩ := h
  rfl

theorem position_eq (h : SameButView s t) : s.position = t.position :=
  congrArg (fun x : Variable Trace => x.depth - 1) h.var_eq

/-- **No command looks at the view.** -/
theorem lockstep : Lockstep SameButView where
  targets_eq := targets_eq
  next?_eq := by
    intro s t h
    rw [next?, next?, h.position_eq, h.targets_eq]
  name_eq h := congrArg Variable.name h.var_eq
  playing_eq := by
    rintro s _ ⟨f, m, n, rfl⟩
    rfl
  quit_eq := by
    rintro s _ ⟨f, m, n, rfl⟩
    rfl
  withStatus := by
    rintro s _ ⟨f, m, n, rfl⟩ status
    exact ⟨f, m, n, rfl⟩
  withPlaying := by
    rintro s _ ⟨f, m, n, rfl⟩ playing
    exact ⟨f, m, n, rfl⟩
  toQuit := by
    rintro s _ ⟨f, m, n, rfl⟩
    exact ⟨f, m, n, rfl⟩
  switchFocus := by
    rintro s _ ⟨f, m, n, rfl⟩
    exact ⟨f.other, m, n, rfl⟩
  scroll := by
    -- Each session moves the offset of its own focus.
    rintro s _ ⟨f, m, n, rfl⟩ move
    rw [Stepper.scroll, Stepper.scroll]
    cases s.focus <;> cases f <;> exact ⟨_, _, _, rfl⟩
  assign := by
    rintro s _ ⟨f, m, n, rfl⟩ v
    exact ⟨f, m, Page.farthest, rfl⟩
  back := by
    rintro s _ ⟨f, m, n, rfl⟩
    exact ⟨f, m, Page.farthest, rfl⟩
  jumpToStart := by
    rintro s _ ⟨f, m, n, rfl⟩
    exact ⟨f, m, Page.farthest, rfl⟩

/-- Draws settle offsets and nothing else, whatever the two sizes. -/
theorem settle (h : SameButView s t) (size₁ size₂ : Size) :
    SameButView (s.settle size₁) (t.settle size₂) := by
  obtain ⟨f, m, n, rfl⟩ := h
  exact ⟨_, _, _, rfl⟩

/-! ## Steps of one session alone -/

theorem settle_left (h : SameButView s t) (size : Size) : SameButView (s.settle size) t := by
  obtain ⟨f, m, n, rfl⟩ := h
  exact ⟨f, m, n, rfl⟩

theorem scroll_left (h : SameButView s t) (move : Nat → Nat) : SameButView (s.scroll move) t := by
  obtain ⟨f, m, n, rfl⟩ := h
  refine ⟨f, m, n, ?_⟩
  rw [Stepper.scroll]
  cases s.focus <;> rfl

/-- **The program takes no notice of the view.** -/
theorem receive_left (h : SameButView s t) {i : Input} (hi : i.IsView) :
    SameButView (s.receive i) t := by
  cases i with
  | press key =>
    rw [Stepper.receive, press]
    cases hkey : key.command? with
    | none => exact h
    | some c =>
      have hview : c.IsView := hi c hkey
      cases c with
      | switchFocus =>
        obtain ⟨f, m, n, rfl⟩ := h
        exact ⟨f, m, n, rfl⟩
      | scrollUp => exact h.scroll_left _
      | scrollDown => exact h.scroll_left _
      | _ => exact hview.elim
  | bounce => exact h
  | noise => exact h

/-! ## Moments -/

theorem undergo (h : SameButView s t) {m n : Moment} (hmn : m.SameButSize n) :
    SameButView (s.undergo m) (t.undergo n) := by
  cases hmn with
  | refl =>
    cases m with
    | input i => exact lockstep.receive h i
    | tick => exact lockstep.tick h
    | draw size => exact h.settle size size
  | draw size₁ size₂ => exact h.settle size₁ size₂

theorem undergo_left (h : SameButView s t) {m : Moment} (hm : m.IsView) :
    SameButView (s.undergo m) t := by
  cases m with
  | input i => exact h.receive_left hm
  | tick => exact hm.elim
  | draw size => exact h.settle_left size

/-! ## The loop -/

theorem meet (h : SameButView s t) (size₁ size₂ : Size) (o : Occurrence) :
    SameButView (s.meet size₁ o) (t.meet size₂ o) :=
  lockstep.meet (fun hst => hst.settle size₁ size₂) h o

/-- A turn in which no tick is due and only the view is concerned. -/
theorem turn_left (h : SameButView s t) (size : Size) {input : Option Input}
    (hinput : ∀ i, input = some i → i.IsView) : SameButView (s.turn size false input) t := by
  have hshown := h.settle_left size
  rw [Stepper.turn]
  split
  · exact hshown
  · cases input with
    | none => exact hshown
    | some i => exact hshown.receive_left (hinput i rfl)

theorem meet_left (h : SameButView s t) (size : Size) {o : Occurrence} (ho : o.IsView) :
    SameButView (s.meet size o) t := by
  cases o with
  | input i =>
    have htaken : SameButView (s.turn size false (some i)) t :=
      h.turn_left size fun j hj => Option.some.inj hj ▸ ho
    have hanswered : SameButView ((s.turn size false (some i)).turn size false none) t :=
      htaken.turn_left size fun j hj => nomatch hj
    rw [Stepper.meet, takeInput, Input.IsView.isPlayKey_eq ho]
    exact hanswered.settle_left size
  | tick => exact ho.elim
  | redraw => exact h.settle_left size

end SameButView

/-! ## Whole sessions -/

/-- Two sessions of which the program does not tell which is which. -/
structure SameProgram (s t : Stepper) : Prop where
  value_eq : s.var.history.value = t.var.history.value
  history_eq : s.var.history = t.var.history
  lines_eq : s.var.sink.lines = t.var.sink.lines
  position_eq : s.position = t.position
  next?_eq : s.next? = t.next?
  message_eq : s.status.message = t.status.message
  playing_eq : s.playing = t.playing
  quit_eq : s.quit = t.quit
  /-- At most the focus and the offsets differ. -/
  sameButView : SameButView s t

theorem SameButView.sameProgram {s t : Stepper} (h : SameButView s t) : SameProgram s t where
  value_eq := congrArg (·.history.value) h.var_eq
  history_eq := congrArg (·.history) h.var_eq
  lines_eq := congrArg (·.sink.lines) h.var_eq
  position_eq := h.position_eq
  next?_eq := lockstep.next?_eq h
  message_eq := by
    obtain ⟨f, m, n, rfl⟩ := h
    rfl
  playing_eq := lockstep.playing_eq h
  quit_eq := lockstep.quit_eq h
  sameButView := h

/-- **The view never influences the program.** Leave out of what happens to a new session any of the
inputs that only concern the view, and any of the draws, and draw the others at any size: the
program ends the same, and only focus and offsets may differ. So it is with the moments of a session
and with what its loop meets. -/
theorem sameProgram_of_thinned (name : String) (traced : Bool) (sink : Trace)
    (targets : List Int32) :
    let start := Stepper.new (.create name traced sink) targets
    (∀ ms ns, Thinned Moment.IsView Moment.SameButSize ms ns →
        SameProgram (start.undergoAll ms) (start.undergoAll ns)) ∧
      ∀ os ps : List (Size × Occurrence),
        Thinned (fun o => o.2.IsView) (fun o p => o.2 = p.2) os ps →
          SameProgram (start.run os) (start.run ps) := by
  intro start
  constructor
  · intro ms ns h
    refine (h.foldl (R := SameButView) ?_ ?_ (SameButView.refl start)).sameProgram
    · exact fun _ _ _ _ hst hmn => hst.undergo hmn
    · exact fun _ _ _ hst hm => hst.undergo_left hm
  · intro os ps h
    refine (h.foldl (R := SameButView) ?_ ?_ (SameButView.refl start)).sameProgram
    · rintro s t ⟨size₁, o⟩ ⟨size₂, _⟩ hst rfl
      exact hst.meet size₁ size₂ o
    · rintro s t ⟨size, o⟩ hst ho
      exact hst.meet_left size ho

/-- A session that looks around on its way, on screens of two sizes, ends with the other focus and
the same program as one that does not. -/
theorem sameProgram_looking_around :
    let start := Stepper.new (.create "x" true .empty) [5, 7]
    let ms : List Moment := [.input (.press .tab), .input (.press .right), .draw ⟨80, 24⟩,
      .input (.press .up), .input .bounce, .input (.press (.char 'z')), .tick]
    let ns : List Moment := [.input (.press .right), .draw ⟨3, 1⟩, .tick]
    let os : List (Size × Occurrence) := [(⟨80, 24⟩, .input (.press .down)),
      (⟨80, 24⟩, .input (.press (.char ' '))), (⟨9, 2⟩, .redraw), (⟨80, 24⟩, .tick)]
    let ps : List (Size × Occurrence) := [(⟨3, 1⟩, .input (.press (.char ' '))), (⟨3, 1⟩, .tick)]
    (start.undergoAll ms).focus ≠ (start.undergoAll ns).focus ∧
      Thinned Moment.IsView Moment.SameButSize ms ns ∧
      SameProgram (start.undergoAll ms) (start.undergoAll ns) ∧
      Thinned (fun o => o.2.IsView) (fun o p => o.2 = p.2) os ps ∧
      SameProgram (start.run os) (start.run ps) := by
  intro start ms ns os ps
  have hms : Thinned Moment.IsView Moment.SameButSize ms ns := by
    have htab : (Input.press .tab).IsView := by rintro _ ⟨⟩; trivial
    have hup : (Input.press .up).IsView := by rintro _ ⟨⟩; trivial
    have hunbound : (Input.press (.char 'z')).IsView := by
      intro c hc
      exact absurd hc (by simp [Key.command?, Key.steps?])
    exact .leaveOut htab (.keep (.refl _) (.keep (.draw _ _) (.leaveOut hup
      (.leaveOut trivial (.leaveOut hunbound (.keep (.refl _) .nil))))))
  have hos : Thinned (fun o => o.2.IsView) (fun o p => o.2 = p.2) os ps := by
    have hdown : (Input.press .down).IsView := by rintro _ ⟨⟩; trivial
    exact .leaveOut hdown (.keep rfl (.leaveOut trivial (.keep rfl .nil)))
  obtain ⟨hmoments, hloop⟩ := sameProgram_of_thinned "x" true .empty [5, 7]
  exact ⟨by decide, hms, hmoments ms ns hms, hos, hloop os ps hos⟩

end Stepper

end Backstep
