import PveSanFenced.Library.Runs

/-!
# What the most recent event said

Some events of a run speak about a matter and the others are silent about it.
A part of the state that every speaking event overwrites and no silent event
touches shows, after any run, what was said last; before anything was said it
shows what it showed at the start.
-/

namespace PveSanFenced.Library.Latest

open PveSanFenced.Library.Runs

set_option autoImplicit false

section Said

variable {State Event Report : Type*} (step : State → Event → Option State)
  (speaks : State → Event → Option Report) (start : State)

/-- None of the events that follow `before` speaks. -/
def Silent (before after : List Event) : Prop :=
  ∀ between event rest state, after = between ++ event :: rest →
    (before ++ between).foldlM step start = some state → speaks state event = none

/-- The last event that speaks says `report`. -/
def SaidLast (events : List Event) (report : Report) : Prop :=
  ∃ before event after state, events = before ++ event :: after ∧
    before.foldlM step start = some state ∧ speaks state event = some report ∧
      Silent step speaks start (before ++ [event]) after

variable {step speaks start}

@[simp] theorem silent_nil (before : List Event) : Silent step speaks start before [] := by
  intro between event rest state split
  simp at split

theorem silent_snoc {before after : List Event} {event : Event} {state : State}
    (silent : Silent step speaks start before after)
    (ran : (before ++ after).foldlM step start = some state) (last : speaks state event = none) :
    Silent step speaks start before (after ++ [event]) := by
  intro between other rest middle split reached
  rcases List.eq_nil_or_concat rest with rfl | ⟨rest, final, rfl⟩
  · obtain ⟨rfl, same⟩ := List.append_inj' split rfl
    cases same
    rw [ran] at reached
    cases reached
    exact last
  · have shorter : after = between ++ other :: rest := by
      rw [List.concat_eq_append, ← List.cons_append, ← List.append_assoc] at split
      exact (List.append_inj' split rfl).1
    exact silent between other rest middle shorter reached

theorem silent_of_snoc {before after : List Event} {event : Event}
    (silent : Silent step speaks start before (after ++ [event])) :
    Silent step speaks start before after := by
  intro between other rest state split reached
  apply silent between other (rest ++ [event]) state
  · rw [split, List.append_assoc, List.cons_append]
  · exact reached

section Shown

variable {view : State → Report}
  (tracks : ∀ state event next, step state event = some next →
    view next = (speaks state event).getD (view state))
include tracks

theorem view_of_silent {before after : List Event} {middle state : State}
    (reached : before.foldlM step start = some middle)
    (ran : (before ++ after).foldlM step start = some state)
    (silent : Silent step speaks start before after) : view state = view middle := by
  induction after using List.reverseRecOn generalizing state with
  | nil =>
      rw [List.append_nil, reached] at ran
      rw [Option.some.inj ran]
  | append_singleton after event ih =>
      rw [← List.append_assoc] at ran
      obtain ⟨near, earlier, last⟩ := run_snoc ran
      have quiet : speaks near event = none := silent after event [] near rfl earlier
      rw [tracks near event state last, quiet, Option.getD_none]
      exact ih earlier (silent_of_snoc silent)

theorem view_of_said_last {events : List Event} {report : Report} {state : State}
    (latest : SaidLast step speaks start events report)
    (ran : events.foldlM step start = some state) : view state = report := by
  obtain ⟨before, event, after, middle, rfl, reached, said, silent⟩ := latest
  have split : before ++ event :: after = (before ++ [event]) ++ after := by simp
  rw [split] at ran
  have whole := ran
  rw [List.foldlM_append, Option.bind_eq_bind, Option.bind_eq_some_iff] at whole
  obtain ⟨next, spoken, -⟩ := whole
  obtain ⟨near, earlier, last⟩ := run_snoc spoken
  obtain rfl : middle = near := Option.some.inj (reached.symm.trans earlier)
  have shown : view next = report := by
    rw [tracks middle event next last, said, Option.getD_some]
  exact (view_of_silent tracks spoken ran silent).trans shown

theorem said_last_or_silent {events : List Event} {state : State}
    (ran : events.foldlM step start = some state) :
    SaidLast step speaks start events (view state) ∨
      (Silent step speaks start [] events ∧ view state = view start) := by
  induction events using List.reverseRecOn generalizing state with
  | nil =>
      cases ran
      exact Or.inr ⟨silent_nil [], rfl⟩
  | append_singleton events event ih =>
      obtain ⟨middle, earlier, last⟩ := run_snoc ran
      have shown := tracks middle event state last
      cases said : speaks middle event with
      | some report =>
          rw [said, Option.getD_some] at shown
          rw [shown]
          exact Or.inl ⟨events, event, [], middle, rfl, earlier, said, silent_nil _⟩
      | none =>
          rw [said, Option.getD_none] at shown
          rw [shown]
          apply (ih earlier).imp
          · intro latest
            obtain ⟨before, other, after, near, rfl, reached, spoke, silent⟩ := latest
            refine ⟨before, other, after ++ [event], near, by simp, reached, spoke, ?_⟩
            exact silent_snoc silent (by simpa using earlier) said
          · intro quiet
            exact ⟨silent_snoc quiet.1 earlier said, quiet.2⟩

/-- What shows is what was said last, and before that what showed at first. -/
theorem view_eq_iff {events : List Event} {state : State}
    (ran : events.foldlM step start = some state) (report : Report) :
    view state = report ↔ SaidLast step speaks start events report ∨
      (Silent step speaks start [] events ∧ view start = report) := by
  constructor
  · intro shown
    rw [← shown]
    apply (said_last_or_silent tracks ran).imp_right
    exact fun quiet => ⟨quiet.1, quiet.2.symm⟩
  · intro said
    cases said with
    | inl latest => exact view_of_said_last tracks latest ran
    | inr quiet =>
        have unchanged : view state = view start := view_of_silent tracks rfl ran quiet.1
        exact unchanged.trans quiet.2

end Shown

end Said

section Occurred

variable {State Event : Type*} (step : State → Event → Option State)
  (happens : State → Event → Prop) (start : State)

/-- At some point of the run an event made it happen. -/
def Occurred (events : List Event) : Prop :=
  ∃ before event after state, events = before ++ event :: after ∧
    before.foldlM step start = some state ∧ happens state event

variable {step happens start}

theorem occurred_snoc {events : List Event} {state : State}
    (ran : events.foldlM step start = some state) (event : Event) :
    Occurred step happens start (events ++ [event]) ↔
      Occurred step happens start events ∨ happens state event := by
  constructor
  · intro occurred
    obtain ⟨before, other, after, middle, split, reached, happened⟩ := occurred
    rcases List.eq_nil_or_concat after with rfl | ⟨rest, final, rfl⟩
    · obtain ⟨rfl, same⟩ := List.append_inj' split rfl
      cases same
      rw [ran] at reached
      cases reached
      exact Or.inr happened
    · have shorter : events = before ++ other :: rest := by
        rw [List.concat_eq_append, ← List.cons_append, ← List.append_assoc] at split
        exact (List.append_inj' split rfl).1
      exact Or.inl ⟨before, other, rest, middle, shorter, reached, happened⟩
  · intro occurred
    cases occurred with
    | inl earlier =>
        obtain ⟨before, other, after, middle, rfl, reached, happened⟩ := earlier
        exact ⟨before, other, after ++ [event], middle, by simp, reached, happened⟩
    | inr now => exact ⟨events, event, [], state, rfl, ran, now⟩

theorem flag_iff_occurred {flag : State → Prop} (unset : ¬flag start)
    (sets : ∀ state event next, step state event = some next →
      (flag next ↔ flag state ∨ happens state event)) {events : List Event} {state : State}
    (ran : events.foldlM step start = some state) :
    flag state ↔ Occurred step happens start events := by
  induction events using List.reverseRecOn generalizing state with
  | nil =>
      cases ran
      apply iff_of_false unset
      intro occurred
      obtain ⟨before, event, after, middle, split, -⟩ := occurred
      simp at split
  | append_singleton events event ih =>
      obtain ⟨middle, earlier, last⟩ := run_snoc ran
      rw [occurred_snoc earlier, ← ih earlier, sets middle event state last]

end Occurred

end PveSanFenced.Library.Latest
