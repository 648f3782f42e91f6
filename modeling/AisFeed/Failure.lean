import AisFeed.Error

/-!
# Failures of commands

A command fails with a text, and with what it was doing at the time: a chain of texts, the
outermost first.
-/

set_option autoImplicit false

namespace AisFeed

/-- Why a command fails. -/
structure Failure where
  chain : List String
  deriving DecidableEq, Repr

namespace Failure

/-- A failure with one text. -/
def ofText (text : String) : Failure := ⟨[text]⟩

/-- A failure by an error. -/
def ofError (error : Error) : Failure := ⟨[error.message]⟩

/-- A failure of an input or output while doing something. -/
def during (doing : String) (error : IoError) : Failure := ⟨[doing, error.message]⟩

/-- All texts in one. -/
def message (f : Failure) : String :=
  String.intercalate ": " f.chain

end Failure

end AisFeed
