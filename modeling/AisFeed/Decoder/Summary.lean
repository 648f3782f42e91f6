/-!
# Summaries

Counts of everything that happened to the records of a feed.
-/

set_option autoImplicit false

namespace AisFeed

/-- What has happened so far, in numbers. -/
structure Summary where
  records : Nat
  /-- Records that hold a sentence. -/
  sentences : Nat
  /-- Records that are passed over. -/
  ignored : Nat
  unrecognized : Nat
  checksumMismatches : Nat
  malformed : Nat
  /-- Messages of one fragment. -/
  singleFragment : Nat
  /-- Messages put together from several fragments. -/
  multipartCompleted : Nat
  /-- Groups of fragments that were given up. -/
  evicted : Nat
  decoded : Nat
  decodeFailures : Nat
  deriving DecidableEq, Repr

namespace Summary

/-- Nothing has happened yet. -/
def zero : Summary := ⟨0, 0, 0, 0, 0, 0, 0, 0, 0, 0, 0⟩

instance : Inhabited Summary := ⟨zero⟩

/-- Payloads that were complete. -/
def completed (s : Summary) : Nat :=
  s.singleFragment + s.multipartCompleted

/-- Events that deserved a warning. -/
def warnings (s : Summary) : Nat :=
  s.unrecognized + s.checksumMismatches + s.malformed + s.evicted + s.decodeFailures

end Summary

end AisFeed
