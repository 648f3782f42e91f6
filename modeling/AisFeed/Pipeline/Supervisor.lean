import AisFeed.Error

/-!
# Supervisors

A supervisor learns why a pipeline ends. Of several causes the first counts; if no one is left
who could signal one, that is the cause.
-/

set_option autoImplicit false

namespace AisFeed

/-- The first cause that was signalled. -/
structure Supervisor where
  cause? : Option Error
  deriving DecidableEq, Repr

namespace Supervisor

/-- Nothing was signalled yet. -/
def new : Supervisor := ⟨none⟩

/-- Signal a cause. Only the first is kept. -/
def signal (s : Supervisor) (error : Error) : Supervisor :=
  ⟨s.cause?.or (some error)⟩

/-- The cause, once all who could signal one are gone. -/
def cause (s : Supervisor) : Error :=
  s.cause?.getD .disconnected

/-- The cause after some signals. -/
def causeOf (signals : List Error) : Error :=
  (signals.foldl signal new).cause

end Supervisor

end AisFeed
