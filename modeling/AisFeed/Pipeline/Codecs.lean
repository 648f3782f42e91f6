import AisFeed.Pipeline.Schedule

/-!
# Pipelines with a codec that changes

The codec of a pipeline may answer differently from one payload to the next, and crash on one that
it has decoded before. `System.runWith` is the run of a system whose codec is `codecs n` when it
decodes the record after `n` others. If the codec is always the same, that is `System.run`.
-/

set_option autoImplicit false

namespace AisFeed

/-- The decoder stage with the codec that decodes its next record. -/
def DecoderStage.withCodec (codecs : Nat → Codec) (s : DecoderStage) : DecoderStage :=
  { s with decoder := { s.decoder with codec := codecs s.count } }

namespace System

/-- One turn, with the codec as it is then. -/
def turnWith (codecs : Nat → Codec) (clock : Nat → Time) (s : System) (agent : Agent) : System :=
  { s with decoder := s.decoder.withCodec codecs }.turn clock agent

/-- Turns in the order of a schedule. -/
def runWith (codecs : Nat → Codec) (clock : Nat → Time) (s : System) (schedule : List Agent) :
    System :=
  schedule.foldl (turnWith codecs clock) s

end System

end AisFeed
