import Backstep.Proofs.CommandLine.Grammar

/-!
# Spellings of a command line

A command line can be written down as its name and the numerals of its values, with print flags
anywhere in between if each step is to be printed. However it is written down, it is read as itself,
as long as its name is neither taken for a flag nor for an option; and every command line that is
ever read has such a name. So reading and writing again changes nothing but the way in which the
values and the flags were spelled.
-/

namespace Backstep.CommandLine

/-- The text can stand for a name. A single hyphen in front does not matter. -/
def IsName (name : String) : Prop := name ≠ "-p" ∧ ¬ IsOption name

/-- The list `mixed` is made of two others, each of them in its order. -/
inductive Mixes : (inserted kept mixed : List String) → Prop
  | nil : Mixes [] [] []
  | insert {inserted kept mixed : List String} (argument : String) :
      Mixes inserted kept mixed → Mixes (argument :: inserted) kept (argument :: mixed)
  | keep {inserted kept mixed : List String} (argument : String) :
      Mixes inserted kept mixed → Mixes inserted (argument :: kept) (argument :: mixed)

variable (c : CommandLine)

/-- The name and the numerals of the values. -/
def words : List String := c.name :: c.targets.map fun v => Decimal.ofInt v.toInt

/-- The argument list is the words of a command line and print flags anywhere in between: at least
one if each step is to be printed, and otherwise none. -/
def Spells (arguments : List String) : Prop :=
  ∃ flags, (∀ flag ∈ flags, flag = "--print" ∨ flag = "-p") ∧ (flags ≠ [] ↔ c.print = true) ∧
    Mixes flags c.words arguments

/-- The argument list with at most one flag, and that in front. -/
def render : List String := if c.print then "--print" :: c.words else c.words

variable {c : CommandLine}

/-! ## What is no flag -/

theorem not_isPrintFlag_of_isName {name : String} (h : IsName name) : ¬ isPrintFlag name := by
  rw [isPrintFlag_iff, not_or]
  refine ⟨?_, h.1⟩
  rintro rfl
  exact h.2 ⟨"print", rfl⟩

/-- No numeral is a print flag. -/
theorem not_isPrintFlag_of_isTarget {argument : String} {v : Int32} (h : IsTarget argument v) :
    ¬ isPrintFlag argument := by
  have hread : Decimal.readInt32? argument = some v := Decimal.readInt32?_eq_some_iff.2 h
  have hlong : Decimal.readInt32? "--print" = none := by decide
  have hshort : Decimal.readInt32? "-p" = none := by decide
  rw [isPrintFlag_iff]
  rintro (rfl | rfl)
  · exact absurd (hlong.symm.trans hread) nofun
  · exact absurd (hshort.symm.trans hread) nofun

/-- A numeral is read as the value that it was written for. -/
theorem isTarget_ofInt (v : Int32) : IsTarget (Decimal.ofInt v.toInt) v :=
  Decimal.readInt32?_eq_some_iff.1 (Decimal.readInt32?_ofInt v)

theorem not_isPrintFlag_of_mem_words (hname : IsName c.name) {word : String} (h : word ∈ c.words) :
    ¬ isPrintFlag word := by
  rcases List.mem_cons.1 h with rfl | h
  · exact not_isPrintFlag_of_isName hname
  · obtain ⟨v, -, rfl⟩ := List.mem_map.1 h
    exact not_isPrintFlag_of_isTarget (isTarget_ofInt v)

/-! ## Flags put in and taken out -/

theorem Mixes.refl (kept : List String) : Mixes [] kept kept := by
  induction kept with
  | nil => exact .nil
  | cons argument kept ih => exact .keep argument ih

/-- Taking the flags out undoes putting them in, and tells whether there were any. -/
theorem Mixes.unflagged_eq {flags kept mixed : List String} (h : Mixes flags kept mixed)
    (hflags : ∀ flag ∈ flags, isPrintFlag flag) (hkept : ∀ word ∈ kept, ¬ isPrintFlag word) :
    unflagged mixed = kept ∧ (Flagged mixed ↔ flags ≠ []) := by
  induction h with
  | nil => exact ⟨rfl, by simp [Flagged]⟩
  | insert argument h ih =>
    obtain ⟨hfirst, hrest⟩ := List.forall_mem_cons.1 hflags
    refine ⟨?_, ?_⟩
    · rw [unflagged_cons_of_flag _ hfirst]
      exact (ih hrest hkept).1
    · exact iff_of_true (flagged_cons_of_flag _ hfirst) (List.cons_ne_nil _ _)
  | keep argument h ih =>
    obtain ⟨hfirst, hrest⟩ := List.forall_mem_cons.1 hkept
    obtain ⟨hunflagged, hflagged⟩ := ih hflags hrest
    refine ⟨?_, ?_⟩
    · rw [unflagged_cons_of_not_flag _ hfirst, hunflagged]
    · rw [flagged_cons_of_not_flag _ hfirst, hflagged]

/-! ## Reading and writing -/

/-- However a command line is spelled, the grammar reads it as itself. -/
theorem Spells.reads {arguments : List String} (h : c.Spells arguments) (hname : IsName c.name) :
    Reads arguments (.ok c) := by
  obtain ⟨flags, hflags, hprint, hmixes⟩ := h
  obtain ⟨hunflagged, hflagged⟩ := hmixes.unflagged_eq
    (fun flag hflag => (isPrintFlag_iff flag).2 (hflags flag hflag))
    (fun word hword => not_isPrintFlag_of_mem_words hname hword)
  have htargets : List.Forall₂ IsTarget (c.targets.map fun v => Decimal.ofInt v.toInt) c.targets :=
    List.forall₂_map_left_iff.2 (List.forall₂_same.2 fun v _ => isTarget_ofInt v)
  have hreads := Reads.accepted hunflagged hname.2 htargets
  have hdecide : decide (Flagged arguments) = c.print := by
    rw [Bool.eq_iff_iff, decide_eq_true_iff, hflagged, hprint]
  rwa [hdecide] at hreads

theorem spells_render (c : CommandLine) : c.Spells c.render := by
  rw [render]
  by_cases hprint : c.print = true
  · rw [if_pos hprint]
    refine ⟨["--print"], ?_, iff_of_true (List.cons_ne_nil _ _) hprint, .insert _ (.refl _)⟩
    intro flag hflag
    exact .inl (List.mem_singleton.1 hflag)
  · rw [if_neg hprint]
    exact ⟨[], List.forall_mem_nil _, iff_of_false (not_not_intro rfl) hprint, .refl _⟩

/-- What is read as a name can stand for one. -/
theorem isName_of_parse {arguments : List String} (h : parse arguments = .ok c) :
    IsName c.name := by
  obtain ⟨result, hreads⟩ := exists_reads arguments
  rw [hreads.parse_eq] at h
  subst h
  cases hreads with
  | @accepted name later targets hunflagged hoption _ =>
    have hmem : name ∈ unflagged arguments := hunflagged ▸ List.mem_cons_self
    have hkept := (List.mem_filter.1 hmem).2
    simp only [decide_eq_true_eq] at hkept
    exact ⟨hkept.2, hoption⟩

/-- **Reading undoes writing, however it was written**: wherever print flags are put between its
words, a command line whose name can stand for one is read as itself. And what is read has such a
name, so that it can be written down and read again. -/
theorem parse_of_spells_and_render :
    (∀ (c : CommandLine) (arguments : List String), IsName c.name → c.Spells arguments →
      parse arguments = .ok c) ∧
    ∀ (arguments : List String) (c : CommandLine), parse arguments = .ok c →
      IsName c.name ∧ c.Spells c.render ∧ parse c.render = .ok c := by
  refine ⟨fun c arguments hname h => (h.reads hname).parse_eq, ?_⟩
  intro arguments c h
  have hname := isName_of_parse h
  have hrender := spells_render c
  exact ⟨hname, hrender, (hrender.reads hname).parse_eq⟩

/-- A name with a hyphen, both ends of the range of values, and flags in front, in between and at
the end. Other spellings of a list are lost when it is read. -/
theorem parse_spelled_extremes :
    let c : CommandLine := ⟨true, "-5", [Int32.minValue, Int32.maxValue]⟩
    let spelled := ["-p", "-5", "-2147483648", "--print", "2147483647", "-p"]
    let other := ["-5", "-02147483648", "-p", "+2147483647"]
    (IsName c.name ∧ c.Spells spelled ∧ parse spelled = .ok c) ∧
      parse other = .ok c ∧ c.render = ["--print", "-5", "-2147483648", "2147483647"] ∧
        parse c.render = .ok c := by
  intro c spelled other
  have hname : IsName c.name := by
    refine ⟨by decide, ?_⟩
    rw [← isLongOption_iff]
    decide
  have hspells : c.Spells spelled :=
    ⟨["-p", "--print", "-p"], by decide, by decide,
      .insert _ (.keep _ (.keep _ (.insert _ (.keep _ (.insert _ .nil)))))⟩
  have hother : parse other = .ok c := by decide +kernel
  exact ⟨⟨hname, hspells, parse_of_spells_and_render.1 c spelled hname hspells⟩, hother,
    by decide +kernel, (parse_of_spells_and_render.2 other c hother).2.2⟩

end Backstep.CommandLine
