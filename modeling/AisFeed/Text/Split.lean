/-!
# Parts between separators

A list cut at every separator: there is always a first part, and one more for each separator.
-/

set_option autoImplicit false

namespace AisFeed.Text

variable {α : Type} [DecidableEq α]

/-- What stands before the first separator, and what stands after each of them up to the next. -/
def splitAtAll (separator : α) (as : List α) : List α × List (List α) :=
  as.foldr (fun a parts =>
    if a = separator then ([], parts.1 :: parts.2) else (a :: parts.1, parts.2)) ([], [])

/-- The parts of `as` between separators. -/
def partsBetween (separator : α) (as : List α) : List (List α) :=
  let parts := splitAtAll separator as
  parts.1 :: parts.2

theorem splitAtAll_cons_self (separator : α) (as : List α) :
    splitAtAll separator (separator :: as) = ([], partsBetween separator as) := by
  simp [splitAtAll, partsBetween]

theorem splitAtAll_cons_of_ne {separator a : α} (h : a ≠ separator) (as : List α) :
    splitAtAll separator (a :: as) =
      (a :: (splitAtAll separator as).1, (splitAtAll separator as).2) := by
  simp [splitAtAll, h]

end AisFeed.Text
