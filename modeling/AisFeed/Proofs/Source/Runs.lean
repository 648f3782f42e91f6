import AisFeed.Proofs.Pipeline.Reader

/-!
# Runs up to a fatal error

A run of a source publishes what the readings hand out, goes on after errors that are not fatal,
and stops at the first that is (`runReadings_until`). It makes no reading after that: what the
others would yield has no part in what comes of the run.
-/

set_option autoImplicit false

namespace AisFeed

theorem Distributor.publishAll_append {α : Type} (d : Distributor α) (as bs : List α) :
    (d.publishAll (as ++ bs)).1 = ((d.publishAll as).1.publishAll bs).1 := by
  induction as generalizing d with
  | nil => rfl
  | cons a as ih => exact ih (d.publish a).1

/-- A reading after which a run goes on. -/
structure Reading.GoesOn (r : Reading) : Prop extends r.IsCalm where
  transient : ∀ e, r.error = some e → e.isFatal = false

namespace Source

section Runs

variable (name : String) (isIdle : Bool)

/-- A reading after which a run goes on has its records published. -/
theorem runReadings_goesOn {r : Reading} (goesOn : r.GoesOn) (queues : Distributor Record) :
    ∃ events, ∀ rest, runReadings name isIdle true queues (r :: rest) =
      (runReadings name isIdle true (queues.publishAll r.records).1 rest).after events := by
  cases fails : r.error with
  | none =>
    refine ⟨r.events ++ (queues.publishAll r.records).2, fun rest => ?_⟩
    rw [runReadings, goesOn.crash, fails, goesOn.stops]
    rfl
  | some error =>
    have transient := goesOn.transient error fails
    refine ⟨r.events ++ (queues.publishAll r.records).2 ++ [.readFailed error name],
      fun rest => ?_⟩
    rw [runReadings, goesOn.crash, fails, goesOn.stops]
    dsimp only
    rw [if_neg (by simp [transient])]
    rfl

/-- A run goes on to a reading with a fatal error and stops there, whatever comes after it. -/
theorem runReadings_until {before : List Reading} {last : Reading} {error : Error}
    (goesOn : ∀ r ∈ before, r.GoesOn) (calm : last.IsCalm) (fails : last.error = some error)
    (fatal : error.isFatal = true) (queues : Distributor Record) :
    ∃ events, ∀ rest, runReadings name isIdle true queues (before ++ last :: rest) =
      ⟨(queues.publishAll (before.flatMap Reading.records ++ last.records)).1, .failed error,
        rest.length, events⟩ := by
  induction before generalizing queues with
  | nil =>
    refine ⟨last.events ++ (queues.publishAll last.records).2 ++ [.sourceEnded error name],
      fun rest => ?_⟩
    rw [List.nil_append, runReadings, calm.crash, fails]
    dsimp only
    rw [if_pos fatal]
    rfl
  | cons r before ih =>
    obtain ⟨first, here⟩ := runReadings_goesOn name isIdle (goesOn r List.mem_cons_self) queues
    obtain ⟨events, later⟩ := ih (fun r mem => goesOn r (List.mem_cons_of_mem _ mem))
      (queues.publishAll r.records).1
    refine ⟨first ++ events, fun rest => ?_⟩
    rw [List.cons_append, here, later, List.flatMap_cons, List.append_assoc,
      Distributor.publishAll_append queues r.records]
    rfl

end Runs

end Source

end AisFeed
