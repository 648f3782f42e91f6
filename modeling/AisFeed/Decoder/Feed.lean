import AisFeed.Decoder.Run

/-!
# Feeds with a codec that changes

A codec may answer differently from one payload to the next. A feed says for every record which
codec decodes it, and at which time: `Request.feed`.
-/

set_option autoImplicit false

namespace AisFeed

/-- A codec that never crashes. -/
def Codec.IsCalm (codec : Codec) : Prop :=
  ∀ text fillBits crash, codec text fillBits ≠ .error crash

/-- The requests to process records, if `n` others came before: the record after `n` others is
decoded by `codecs n` at the time `clock n`. -/
def Request.feed (codecs : Nat → Codec) (clock : Nat → Time) (n : Nat) :
    List Record → List Request
  | [] => []
  | r :: rest => .process (codecs n) r (clock n) :: feed codecs clock (n + 1) rest

/-- The message that a service brought, if it brought one. -/
def Service.message? (s : Service) : Option Message :=
  match s.answer with
  | .message message => message
  | .payload _ | .expired _ => none

end AisFeed
