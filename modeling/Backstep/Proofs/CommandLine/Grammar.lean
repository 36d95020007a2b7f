import Backstep.CommandLine
import Backstep.Proofs.Text.Numeral
import Mathlib.Data.List.Forall2

/-!
# The grammar of the command line

An argument list is read in one pass, and where a print flag stands in it makes no difference. So
the list falls apart into whether it has a print flag, and all its other arguments: a name and then
values. Whether they are in order, and if not what is wrong with them first, can be said without
the pass, and every argument list is of exactly one of the four kinds that this gives.
-/

namespace Backstep.CommandLine

/-! ## The grammar -/

/-- Whether a print flag is among the arguments. -/
def Flagged (arguments : List String) : Prop := "--print" ∈ arguments ∨ "-p" ∈ arguments

instance (arguments : List String) : Decidable (Flagged arguments) :=
  inferInstanceAs (Decidable (_ ∨ _))

/-- All arguments but the print flags. -/
def unflagged (arguments : List String) : List String :=
  arguments.filter fun argument => argument ≠ "--print" ∧ argument ≠ "-p"

/-- The argument starts as an option does. -/
def IsOption (argument : String) : Prop := ∃ word, argument = "--" ++ word

/-- The argument is a numeral for the value `v`. -/
def IsTarget (argument : String) (v : Int32) : Prop := Decimal.Denotes argument.toList v.toInt

/-- What an argument list is read as: a command line, or the first offence in it. -/
inductive Reads (arguments : List String) : Except Error CommandLine → Prop
  | missingName : unflagged arguments = [] → Reads arguments (.error .missingName)
  | unknownOption {name : String} {later : List String} :
      unflagged arguments = name :: later → IsOption name →
      Reads arguments (.error (.unknownOption name))
  | invalidTarget {name bad : String} {earlier later : List String} :
      unflagged arguments = name :: (earlier ++ bad :: later) → ¬ IsOption name →
      (∀ argument ∈ earlier, ∃ v, IsTarget argument v) → (¬ ∃ v, IsTarget bad v) →
      Reads arguments (.error (.invalidTarget bad))
  | accepted {name : String} {later : List String} {targets : List Int32} :
      unflagged arguments = name :: later → ¬ IsOption name →
      List.Forall₂ IsTarget later targets →
      Reads arguments (.ok ⟨decide (Flagged arguments), name, targets⟩)

/-! ## The parts of an argument list -/

theorem isPrintFlag_iff (argument : String) :
    isPrintFlag argument ↔ argument = "--print" ∨ argument = "-p" := by
  simp [isPrintFlag]

theorem isLongOption_iff (argument : String) : isLongOption argument ↔ IsOption argument := by
  rw [isLongOption, List.isPrefixOf_iff_prefix]
  constructor
  · rintro ⟨rest, hrest⟩
    have htext : ("--" ++ String.ofList rest).toList = "--".toList ++ rest := by simp
    exact ⟨String.ofList rest, String.toList_injective (hrest.symm.trans htext.symm)⟩
  · rintro ⟨word, rfl⟩
    exact ⟨word.toList, String.toList_append.symm⟩

section Cons

variable {argument : String} (rest : List String)

theorem unflagged_cons_of_flag (h : isPrintFlag argument) :
    unflagged (argument :: rest) = unflagged rest := by
  rw [isPrintFlag_iff] at h
  exact List.filter_cons_of_neg (by simp; tauto)

theorem unflagged_cons_of_not_flag (h : ¬ isPrintFlag argument) :
    unflagged (argument :: rest) = argument :: unflagged rest := by
  rw [isPrintFlag_iff] at h
  exact List.filter_cons_of_pos (by simp; tauto)

theorem flagged_cons_of_flag (h : isPrintFlag argument) : Flagged (argument :: rest) := by
  rw [isPrintFlag_iff] at h
  rcases h with rfl | rfl
  · exact .inl List.mem_cons_self
  · exact .inr List.mem_cons_self

theorem flagged_cons_of_not_flag (h : ¬ isPrintFlag argument) :
    Flagged (argument :: rest) ↔ Flagged rest := by
  rw [isPrintFlag_iff, not_or] at h
  simp [Flagged, Ne.symm h.1, Ne.symm h.2]

end Cons

/-! ## Values -/

def readTarget (argument : String) : Except Error Int32 :=
  match Decimal.readInt32? argument with
  | some target => .ok target
  | none => .error (.invalidTarget argument)

theorem readTarget_of_isTarget {argument : String} {v : Int32} (h : IsTarget argument v) :
    readTarget argument = .ok v := by
  rw [readTarget, Decimal.readInt32?_eq_some_iff.2 h]

theorem readTarget_of_not_isTarget {argument : String} (h : ¬ ∃ v, IsTarget argument v) :
    readTarget argument = .error (.invalidTarget argument) := by
  have hnone : Decimal.readInt32? argument = none := by
    rw [Option.eq_none_iff_forall_ne_some]
    intro v hv
    exact h ⟨v, Decimal.readInt32?_eq_some_iff.1 hv⟩
  rw [readTarget, hnone]

theorem mapM_readTarget_of_forall₂ {arguments : List String} {targets : List Int32}
    (h : List.Forall₂ IsTarget arguments targets) :
    arguments.mapM readTarget = .ok targets := by
  induction h with
  | nil => rfl
  | cons hfirst _ ih =>
    rw [List.mapM_cons, readTarget_of_isTarget hfirst, ih]
    rfl

/-- Reading stops at the first argument that is no value. -/
theorem mapM_readTarget_of_first {earlier : List String} {bad : String}
    (hearlier : ∀ argument ∈ earlier, ∃ v, IsTarget argument v) (hbad : ¬ ∃ v, IsTarget bad v)
    (later : List String) :
    (earlier ++ bad :: later).mapM readTarget = .error (.invalidTarget bad) := by
  induction earlier with
  | nil =>
    rw [List.nil_append, List.mapM_cons, readTarget_of_not_isTarget hbad]
    rfl
  | cons argument earlier ih =>
    obtain ⟨v, hv⟩ := hearlier argument List.mem_cons_self
    rw [List.cons_append, List.mapM_cons, readTarget_of_isTarget hv,
      ih fun a ha => hearlier a (List.mem_cons_of_mem argument ha)]
    rfl

/-- Either all arguments are values or there is a first one that is none. -/
theorem forall₂_or_first (arguments : List String) :
    (∃ targets, List.Forall₂ IsTarget arguments targets) ∨
      ∃ earlier bad later, arguments = earlier ++ bad :: later ∧
        (∀ argument ∈ earlier, ∃ v, IsTarget argument v) ∧ ¬ ∃ v, IsTarget bad v := by
  induction arguments with
  | nil => exact .inl ⟨[], .nil⟩
  | cons argument rest ih =>
    by_cases hfirst : ∃ v, IsTarget argument v
    · rcases ih with ⟨targets, htargets⟩ | ⟨earlier, bad, later, rfl, hearlier, hbad⟩
      · obtain ⟨v, hv⟩ := hfirst
        exact .inl ⟨v :: targets, .cons hv htargets⟩
      · refine .inr ⟨argument :: earlier, bad, later, rfl, ?_, hbad⟩
        exact List.forall_mem_cons.2 ⟨hfirst, hearlier⟩
    · exact .inr ⟨[], argument, rest, rfl, List.forall_mem_nil _, hfirst⟩

/-! ## The pass -/

/-- Read a name and values, when it is known whether there was a print flag. -/
def readUnflagged (print : Bool) : List String → Except Error CommandLine
  | [] => .error .missingName
  | name :: later =>
    if isLongOption name then .error (.unknownOption name)
    else (later.mapM readTarget).map fun targets => ⟨print, name, targets⟩

theorem parseTargets_eq (arguments : List String) :
    parseTargets arguments =
      ((unflagged arguments).mapM readTarget).map fun targets =>
        (decide (Flagged arguments), targets) := by
  induction arguments with
  | nil => rfl
  | cons argument rest ih =>
    by_cases h : isPrintFlag argument = true
    · rw [parseTargets, if_pos h, unflagged_cons_of_flag rest h,
        decide_eq_true (flagged_cons_of_flag rest h), ih]
      cases (unflagged rest).mapM readTarget <;> rfl
    · rw [parseTargets, if_neg h, unflagged_cons_of_not_flag rest h, List.mapM_cons, readTarget,
        decide_eq_decide.2 (flagged_cons_of_not_flag rest h)]
      cases Decimal.readInt32? argument with
      | none => rfl
      | some target =>
        change (parseTargets rest >>= _) = _
        rw [ih]
        cases (unflagged rest).mapM readTarget <;> rfl

/-- **The pass sees the two parts of the list**, wherever the flags stand. -/
theorem parse_eq (arguments : List String) :
    parse arguments = readUnflagged (decide (Flagged arguments)) (unflagged arguments) := by
  induction arguments with
  | nil => rfl
  | cons argument rest ih =>
    by_cases h : isPrintFlag argument = true
    · rw [parse, if_pos h, unflagged_cons_of_flag rest h,
        decide_eq_true (flagged_cons_of_flag rest h), ih]
      cases unflagged rest with
      | nil => rfl
      | cons name later =>
        rw [readUnflagged, readUnflagged]
        split
        · rfl
        · cases later.mapM readTarget <;> rfl
    · rw [parse, if_neg h, unflagged_cons_of_not_flag rest h, readUnflagged, parseTargets_eq,
        decide_eq_decide.2 (flagged_cons_of_not_flag rest h)]
      split
      · rfl
      · cases (unflagged rest).mapM readTarget <;> rfl

/-! ## The grammar is what is read -/

/-- What the grammar answers is answered. -/
theorem Reads.parse_eq {arguments : List String} {result : Except Error CommandLine}
    (h : Reads arguments result) : parse arguments = result := by
  rw [CommandLine.parse_eq]
  cases h with
  | missingName hnone => rw [hnone, readUnflagged]
  | unknownOption hname hoption =>
    rw [hname, readUnflagged, if_pos ((isLongOption_iff _).2 hoption)]
  | invalidTarget hname hoption hearlier hbad =>
    rw [hname, readUnflagged, if_neg (mt (isLongOption_iff _).1 hoption),
      mapM_readTarget_of_first hearlier hbad]
    rfl
  | accepted hname hoption htargets =>
    rw [hname, readUnflagged, if_neg (mt (isLongOption_iff _).1 hoption),
      mapM_readTarget_of_forall₂ htargets]
    rfl

/-- The grammar has an answer to every argument list. -/
theorem exists_reads (arguments : List String) : ∃ result, Reads arguments result := by
  cases hrest : unflagged arguments with
  | nil => exact ⟨_, .missingName hrest⟩
  | cons name later =>
    by_cases hoption : IsOption name
    · exact ⟨_, .unknownOption hrest hoption⟩
    · rcases forall₂_or_first later with ⟨targets, htargets⟩ | ⟨_, _, _, rfl, hearlier, hbad⟩
      · exact ⟨_, .accepted hrest hoption htargets⟩
      · exact ⟨_, .invalidTarget hrest hoption hearlier hbad⟩

/-- **The grammar of the command line.** An argument list is read as the grammar says and in no
other way, whether it is accepted or refused; in particular the first offence is the one reported.
The values in it are the numerals of integers in the range of values. -/
theorem parse_eq_iff_reads :
    (∀ (arguments : List String) (result : Except Error CommandLine),
      parse arguments = result ↔ Reads arguments result) ∧
    ∀ argument : String,
      (∀ v, Decimal.readInt32? argument = some v ↔ IsTarget argument v) ∧
        ((∃ v, IsTarget argument v) ↔ ∃ i, Decimal.Denotes argument.toList i ∧ IsValue i) := by
  refine ⟨?_, ?_⟩
  · intro arguments result
    constructor
    · intro h
      obtain ⟨answer, hanswer⟩ := exists_reads arguments
      rw [← h, hanswer.parse_eq]
      exact hanswer
    · exact Reads.parse_eq
  · intro argument
    exact ⟨fun _ => Decimal.readInt32?_eq_some_iff, Decimal.exists_denotes_toInt_iff⟩

/-- Neither a single hyphen in front nor where the flags stand keeps a name from being one. -/
example : parse ["-p", "-5", "+5", "--print", "-0", "007"] = .ok ⟨true, "-5", [5, 0, 7]⟩ := by
  decide +kernel

end Backstep.CommandLine
