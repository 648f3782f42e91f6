import AisFeed.Pipeline.Codecs

/-!
# The first signal

Of all signals the first one counts: once a cause is known, no turn changes it
(`System.cause?_turnWith`). So a cause that is known in the end was signalled in one turn, before
which nothing was (`System.exists_first_signal`).
-/

set_option autoImplicit false

namespace AisFeed

namespace Control

variable {c : Control} {cause : Error}

theorem cause?_signal (c : Control) (error : Error) :
    (c.signal error).supervisor.cause? = c.supervisor.cause?.or (some error) :=
  rfl

theorem cause?_signal_ne_none (c : Control) (error : Error) :
    (c.signal error).supervisor.cause? ≠ none := by
  rw [cause?_signal]
  cases c.supervisor.cause? <;> nofun

theorem cause?_signal_of_some (known : c.supervisor.cause? = some cause) (error : Error) :
    (c.signal error).supervisor.cause? = some cause := by
  rw [cause?_signal, known]
  rfl

/-- After a signal, the cause is the one that was known before, or the one that is signalled. -/
theorem cause?_signal_eq_some {error : Error}
    (known : (c.signal error).supervisor.cause? = some cause) :
    c.supervisor.cause? = some cause ∨ cause = error := by
  rw [cause?_signal] at known
  cases first : c.supervisor.cause? with
  | none =>
    rw [first] at known
    cases known
    exact .inr rfl
  | some first =>
    rw [first] at known
    exact .inl known

end Control

theorem ReaderStage.cause?_step {s s' : ReaderStage} {c c' : Control} {h h' : Hub Record}
    {cause : Error} (known : c.supervisor.cause? = some cause)
    (step : s.step c h = some (s', c', h')) : c'.supervisor.cause? = some cause := by
  unfold ReaderStage.step at step
  split at step
  · split at step <;> cases step <;> exact known
  · split at step <;> cases step <;> exact known
  · cases step
    exact known
  · cases step
    exact known
  · cases step
    exact Control.cause?_signal_of_some known _
  · cases step
    exact known
  · cases step
    exact known
  · cases step
    exact known
  · cases step
    exact Control.cause?_signal_of_some known _
  · cases step

theorem DecoderStage.cause?_step {clock : Nat → Time} {s s' : DecoderStage} {c c' : Control}
    {records records' : Hub Record} {messages messages' : Hub Message} {cause : Error}
    (known : c.supervisor.cause? = some cause)
    (step : s.step clock c records messages = some (s', c', records', messages')) :
    c'.supervisor.cause? = some cause := by
  cases phase : s.phase with
  | receiving =>
    rw [DecoderStage.step, phase] at step
    dsimp only at step
    split at step <;> cases step <;> exact known
  | handing message tickets =>
    rw [DecoderStage.step, phase] at step
    cases tickets <;> cases step <;> exact known
  | leaving hasCrashed =>
    rw [DecoderStage.step, phase] at step
    cases hasCrashed <;> cases step <;> exact known
  | reporting =>
    rw [DecoderStage.step, phase] at step
    cases step
    exact Control.cause?_signal_of_some known _
  | closing tickets hasCrashed =>
    rw [DecoderStage.step, phase] at step
    cases tickets <;> cases step <;> exact known
  | done hasCrashed =>
    rw [DecoderStage.step, phase] at step
    cases step

namespace System

variable {codecs : Nat → Codec} {clock : Nat → Time} {s s' : System} {cause : Error}

theorem cause?_step (known : s.control.supervisor.cause? = some cause) {agent : Agent}
    (step : s.step? clock agent = some s') : s'.control.supervisor.cause? = some cause := by
  cases agent with
  | reader =>
    obtain ⟨⟨_, _, _⟩, made, rfl⟩ := Option.map_eq_some_iff.1 step
    exact ReaderStage.cause?_step known made
  | decoder =>
    obtain ⟨⟨_, _, _, _⟩, made, rfl⟩ := Option.map_eq_some_iff.1 step
    exact DecoderStage.cause?_step known made
  | rawSink | messageSink =>
    obtain ⟨_, _, rfl⟩ := Option.map_eq_some_iff.1 step
    exact known
  | main =>
    obtain ⟨-, -, rfl⟩ | ⟨_, -, rfl⟩ | ⟨_, -, -, rfl⟩ := stepMain_cases step <;> exact known

/-- A cause that is known stays known. -/
theorem cause?_turnWith (known : s.control.supervisor.cause? = some cause) (agent : Agent) :
    (s.turnWith codecs clock agent).control.supervisor.cause? = some cause := by
  rw [turnWith, turn]
  cases step : step? clock { s with decoder := s.decoder.withCodec codecs } agent with
  | none => exact known
  | some s' => exact cause?_step (s := { s with decoder := s.decoder.withCodec codecs }) known step

theorem cause?_runWith (known : s.control.supervisor.cause? = some cause)
    (schedule : List Agent) :
    (s.runWith codecs clock schedule).control.supervisor.cause? = some cause := by
  induction schedule generalizing s with
  | nil => exact known
  | cons agent rest ih => exact ih (cause?_turnWith known agent)

/-- **The cause is the first signal**: there is one turn that makes it known, and no signal before
it. -/
theorem exists_first_signal (silent : s.control.supervisor.cause? = none)
    {schedule : List Agent}
    (known : (s.runWith codecs clock schedule).control.supervisor.cause? = some cause) :
    ∃ earlier agent rest, schedule = earlier ++ agent :: rest ∧
      (s.runWith codecs clock earlier).control.supervisor.cause? = none ∧
      (s.runWith codecs clock (earlier ++ [agent])).control.supervisor.cause? = some cause := by
  induction schedule generalizing s with
  | nil => cases silent.symm.trans known
  | cons agent rest ih =>
    cases next : (s.turnWith codecs clock agent).control.supervisor.cause? with
    | some first =>
      have same := @cause?_runWith codecs clock _ _ next rest
      cases same.symm.trans known
      exact ⟨[], agent, rest, rfl, silent, next⟩
    | none =>
      obtain ⟨earlier, agent', rest', rfl, before, after⟩ := ih next known
      exact ⟨agent :: earlier, agent', rest', rfl, before, after⟩

end System

end AisFeed
