import AisFeed.Pipeline.Codecs
import AisFeed.Proofs.Decoder.Attempts

/-!
# A codec that stays the same

A pipeline keeps its codec, so a run with a codec that never changes is a run of the pipeline as it
was set up (`System.runWith_const`).
-/

set_option autoImplicit false

namespace AisFeed

namespace DecoderStage

variable {clock : Nat → Time} {s s' : DecoderStage} {c c' : Control}
  {records records' : Hub Record} {messages messages' : Hub Message}

theorem decode_codec (s : DecoderStage) (clock : Nat → Time) (r : Record) (tickets : List Nat) :
    (s.decode clock r tickets).decoder.codec = s.decoder.codec := by
  unfold decode
  dsimp only
  split
  · rfl
  · rename_i step
    exact Decoder.process_codec step
  · rename_i step
    exact Decoder.process_codec step

theorem step_codec (step : s.step clock c records messages = some (s', c', records', messages')) :
    s'.decoder.codec = s.decoder.codec := by
  unfold DecoderStage.step at step
  split at step
  · split at step
    · cases step
    · cases step
      rfl
    · cases step
      exact decode_codec s clock _ _
  all_goals cases step <;> rfl

end DecoderStage

namespace System

variable {clock : Nat → Time} {s : System}

theorem turn_codec (clock : Nat → Time) (s : System) (agent : Agent) :
    (s.turn clock agent).decoder.decoder.codec = s.decoder.decoder.codec := by
  rw [turn]
  cases step : s.step? clock agent with
  | none => rfl
  | some s' =>
    rw [Option.getD_some]
    cases agent with
    | decoder =>
      obtain ⟨_, made, rfl⟩ := Option.map_eq_some_iff.1 step
      exact DecoderStage.step_codec made
    | main =>
      obtain ⟨-, -, rfl⟩ | ⟨_, -, rfl⟩ | ⟨_, -, -, rfl⟩ := stepMain_cases step <;> rfl
    | reader | rawSink | messageSink =>
      obtain ⟨_, made, rfl⟩ := Option.map_eq_some_iff.1 step
      rfl

/-- **A codec that never changes is the codec of the pipeline.** -/
theorem runWith_const (clock : Nat → Time) (s : System) (schedule : List Agent) :
    s.runWith (fun _ => s.decoder.decoder.codec) clock schedule = s.run clock schedule := by
  generalize same : s.decoder.decoder.codec = codec
  induction schedule generalizing s with
  | nil => rfl
  | cons agent rest ih =>
    have here : s.decoder.withCodec (fun _ => codec) = s.decoder := by
      rw [DecoderStage.withCodec, ← same]
    have step : s.turnWith (fun _ => codec) clock agent = s.turn clock agent := by
      rw [turnWith, here]
    rw [runWith, List.foldl_cons, step]
    exact ih (s.turn clock agent) ((turn_codec clock s agent).trans same)

end System

end AisFeed
