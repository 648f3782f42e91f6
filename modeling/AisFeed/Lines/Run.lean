import AisFeed.Lines.Buffer

/-!
# Streams in chunks

What a buffer yields of a stream whose bytes are added in chunks, one after the other.
-/

set_option autoImplicit false

namespace AisFeed

/-- Add chunks of a stream, and take all lines and events that come of them. -/
def LineBuffer.extendAll (b : LineBuffer) :
    List (List UInt8) → LineBuffer × List (List UInt8) × List Event
  | [] => (b, [], [])
  | chunk :: rest =>
    let (b, lines, event) := b.extend chunk
    let (b, later, events) := b.extendAll rest
    (b, lines ++ later, event.toList ++ events)

end AisFeed
