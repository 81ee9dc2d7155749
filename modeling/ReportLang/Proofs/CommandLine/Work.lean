import ReportLang.CommandLine.Run

/-!
# Laws of work

Work prints and may fail. Three things are said of it here, each with one rule for each way in which
work is put together: that it only adds to what is printed already (`Work.OnlyAdds`), that longer
work carries it on (`Work.CarriesOn`), and that it performs a step of the pipeline, which settles
how it ends whatever it prints, and what it prints if it is quiet (`Work.Performs`).
-/

namespace ReportLang.CommandLine.Work

variable {ε α β : Type}

section Sequence

variable {first : Work α} {next : α → Work β} {printed output : String}

/-- Work in sequence, as a function of what is printed. -/
theorem bind_apply (first : Work α) (next : α → Work β) (printed : String) :
    (first >>= next) printed =
      match first printed with
      | (.ok value, output) => next value output
      | (.error error, output) => (.error error, output) := by
  simp only [bind, ExceptT.bind, ExceptT.mk, StateT.bind]
  obtain ⟨ended, output⟩ := first printed
  cases ended with
  | ok value => rfl
  | error error => rfl

/-- After work that succeeds the work after it goes on. -/
theorem bind_of_ok {value : α} (ended : first printed = (.ok value, output)) :
    (first >>= next) printed = next value output := by
  rw [bind_apply, ended]

/-- After work that fails nothing goes on. -/
theorem bind_of_error {error : WorkError} (ended : first printed = (.error error, output)) :
    (first >>= next) printed = (.error error, output) := by
  rw [bind_apply, ended]

end Sequence

/-- Whether work leaves what is printed already in front of what it prints. -/
def OnlyAdds (work : Work α) : Prop :=
  ∀ printed, ∃ added, (work printed).2 = printed ++ added

/-- A result adds nothing. -/
theorem onlyAdds_pure (value : α) : OnlyAdds (pure value) :=
  fun _ => ⟨"", String.append_empty.symm⟩

/-- A step of the pipeline adds nothing. -/
theorem onlyAdds_ofExcept (fault : ε → Fault) (step : Except ε α) :
    OnlyAdds (ofExcept fault step) :=
  fun _ => ⟨"", String.append_empty.symm⟩

/-- What is printed is added. -/
theorem onlyAdds_printIf (asked : Bool) (text : String) : OnlyAdds (printIf asked text) := by
  cases asked with
  | false => exact onlyAdds_pure ()
  | true => exact fun _ => ⟨text, rfl⟩

/-- Work in sequence adds what the first and then what the second adds. -/
theorem OnlyAdds.bind {first : Work α} {next : α → Work β} (head : OnlyAdds first)
    (tail : ∀ value, OnlyAdds (next value)) : OnlyAdds (first >>= next) := by
  intro printed
  obtain ⟨added, adds⟩ := head printed
  cases started : first printed with
  | mk ended output =>
    obtain rfl : output = printed ++ added := by rwa [started] at adds
    cases ended with
    | error error =>
      rw [bind_of_error started]
      exact ⟨added, rfl⟩
    | ok value =>
      obtain ⟨later, addsLater⟩ := tail value (printed ++ added)
      rw [bind_of_ok started, addsLater, String.append_assoc]
      exact ⟨added ++ later, rfl⟩

/-- Work that may end before it starts adds no more than it does otherwise. -/
theorem OnlyAdds.unlessEnded {work : Work Unit} {ended : Prop} [Decidable ended]
    (adds : OnlyAdds work) : OnlyAdds (if ended then pure () else work) := by
  split
  · exact onlyAdds_pure ()
  · exact adds

/-- Whether longer work carries shorter work on: if the shorter work succeeds, the longer one prints
all that it prints and may print more; if the shorter work fails, the longer one fails likewise. -/
structure CarriesOn (shorter longer : Work α) : Prop where
  /-- The longer work prints what the shorter one prints. -/
  ok : ∀ {printed value output}, shorter printed = (.ok value, output) →
    ∃ added, (longer printed).2 = output ++ added
  /-- A failure of the shorter work is one of the longer work. -/
  error : ∀ {printed error output}, shorter printed = (.error error, output) →
    longer printed = (.error error, output)

/-- Work carries itself on. -/
theorem CarriesOn.refl (work : Work α) : CarriesOn work work where
  ok same := ⟨"", by rw [same, String.append_empty]⟩
  error same := same

/-- Where work could end, all that adds to it carries it on. -/
theorem carriesOn_pure {longer : Work α} (value : α) (adds : OnlyAdds longer) :
    CarriesOn (pure value) longer where
  ok same := by
    obtain rfl := (Prod.ext_iff.mp same).2
    exact adds _
  error same := nomatch (Prod.ext_iff.mp same).1

/-- What starts in the same way is carried on if what follows is. -/
theorem CarriesOn.bind {next later : α → Work β} (first : Work α)
    (tail : ∀ value, CarriesOn (next value) (later value)) :
    CarriesOn (first >>= next) (first >>= later) where
  ok {printed} {value} {output} same := by
    cases started : first printed with
    | mk ended middle =>
      cases ended with
      | ok found =>
        rw [bind_of_ok started] at same ⊢
        exact (tail found).ok same
      | error failure =>
        rw [bind_of_error started] at same
        exact nomatch (Prod.ext_iff.mp same).1
  error {printed} {error} {output} same := by
    cases started : first printed with
    | mk ended middle =>
      cases ended with
      | ok found =>
        rw [bind_of_ok started] at same ⊢
        exact (tail found).error same
      | error failure =>
        rw [bind_of_error started] at same ⊢
        exact same

/-- Work that may end before it starts is carried on by work that does so no sooner. -/
theorem CarriesOn.unlessEnded {shorter longer : Work Unit} {ended endedLater : Prop}
    [Decidable ended] [Decidable endedLater] (sooner : endedLater → ended)
    (adds : OnlyAdds longer) (carries : CarriesOn shorter longer) :
    CarriesOn (if ended then pure () else shorter) (if endedLater then pure () else longer) := by
  -- The shorter work may end where the longer one goes on, but never the other way round.
  by_cases stops : ended
  · rw [if_pos stops]
    by_cases stopsLater : endedLater
    · rw [if_pos stopsLater]
      exact .refl _
    · rw [if_neg stopsLater]
      exact carriesOn_pure () adds
  · rw [if_neg stops, if_neg (mt sooner stops)]
    exact carries

/-- Whether work performs a step of the pipeline: it ends as the step does and, if it is quiet,
prints what is shown of the result and nothing else. -/
structure Performs (quiet : Prop) (shown : β → String) (work : Work Unit) (step : Except Fault β) :
    Prop where
  /-- If the step succeeds, the work succeeds and, if it is quiet, shows the result alone. -/
  ok : ∀ {found}, step = .ok found → ∀ printed,
    (work printed).1 = .ok () ∧ (quiet → (work printed).2 = printed ++ shown found)
  /-- If the step fails, the work fails in the same way and, if it is quiet, shows nothing. -/
  error : ∀ {fault}, step = .error fault → ∀ printed,
    (work printed).1 = .error (.pipeline fault) ∧ (quiet → (work printed).2 = printed)

section Performs

variable {quiet : Prop} {shown : β → String} {step : Except Fault β}

/-- A result is shown by printing it, which quiet work has to do. -/
theorem performs_printIf {asked : Bool} {found : β} (heard : quiet → asked = true) :
    Performs quiet shown (printIf asked (shown found)) (.ok found) where
  ok same printed := by
    obtain rfl := Except.ok.inj same
    cases asked with
    | false => exact ⟨rfl, fun isQuiet => nomatch heard isQuiet⟩
    | true => exact ⟨rfl, fun _ => rfl⟩
  error same := nomatch same

/-- What only work that is not quiet prints before does not change how the work after it ends. -/
theorem Performs.printIf_bind {work : Work Unit} {asked : Bool} {text : String}
    (silent : quiet → asked = false) (performs : Performs quiet shown work step) :
    Performs quiet shown (do printIf asked text; work) step := by
  cases asked with
  | false => exact performs
  | true =>
    -- Nothing is said of what work prints that is not quiet, only of how it ends.
    have loud : ¬ quiet := fun isQuiet => nomatch silent isQuiet
    exact {
      ok := fun same printed =>
        ⟨(performs.ok same (printed ++ text)).1, fun isQuiet => absurd isQuiet loud⟩
      error := fun same printed =>
        ⟨(performs.error same (printed ++ text)).1, fun isQuiet => absurd isQuiet loud⟩ }

/-- What only work that is not quiet prints afterwards does not change how the work ends. -/
theorem Performs.bind_printIf {work : Work Unit} {asked : Bool} {text : String}
    (performs : Performs quiet shown work step) (silent : quiet → asked = false) :
    Performs quiet shown (do work; printIf asked text) step := by
  cases asked with
  | false =>
    rw [printIf, if_neg Bool.false_ne_true, bind_pure_unit]
    exact performs
  | true =>
    have loud : ¬ quiet := fun isQuiet => nomatch silent isQuiet
    constructor
    · intro found same printed
      have ended := (performs.ok same printed).1
      rw [bind_of_ok (Prod.ext ended rfl)]
      exact ⟨rfl, fun isQuiet => absurd isQuiet loud⟩
    · intro fault same printed
      have ended := (performs.error same printed).1
      rw [bind_of_error (Prod.ext ended rfl)]
      exact ⟨rfl, fun isQuiet => absurd isQuiet loud⟩

/-- Steps of the pipeline in sequence are performed one after the other. -/
theorem Performs.ofExcept_bind {fault : ε → Fault} {first : Except ε α} {next : α → Work Unit}
    {later : α → Except Fault β}
    (performs : ∀ value, Performs quiet shown (next value) (later value)) :
    Performs quiet shown (ofExcept fault first >>= next) (first.mapError fault >>= later) := by
  cases first with
  | ok value => exact performs value
  | error failure =>
    constructor
    · intro found same
      exact nomatch same
    · intro other same printed
      obtain rfl := Except.error.inj same
      exact ⟨rfl, fun _ => rfl⟩

end Performs

end ReportLang.CommandLine.Work
