import AisFeed.Queue.InPlace

/-!
# A walk through the queues

A walk through a list of queues by places, from which those that are not attended to are taken out
on the way, comes to the same as putting the item into each queue apart (`Pass.run_start`), which is
what a publication does.
-/

set_option autoImplicit false

namespace AisFeed

variable {α : Type}

namespace Pass

/-- A walk that has come to some place: what is before it stays, and the item is put into each queue
from there on. -/
theorem run_at (a : α) (before queues : List (Nat × Queue α)) (offered : List Nat)
    (events : List Event) :
    run a ⟨before ++ queues, before.length, offered, events⟩ =
      ⟨before ++ (Distributor.putAll a queues).1,
        before.length + (Distributor.putAll a queues).1.length,
        offered ++ queues.map Prod.fst, events ++ (Distributor.putAll a queues).2⟩ := by
  induction queues generalizing before offered events with
  | nil =>
    rw [run, dif_neg (by simp)]
    simp [Distributor.putAll]
  | cons p queues ih =>
    obtain ⟨ticket, q⟩ := p
    have inside : before.length < (before ++ (ticket, q) :: queues).length := by
      rw [List.length_append, List.length_cons]
      omega
    have next : (before ++ (ticket, q) :: queues)[before.length] = (ticket, q) := by
      simp
    rw [run, dif_pos inside]
    simp only [step, next, Distributor.putAll, List.map_cons]
    split
    · have stays := ih (before ++ [(ticket, (q.put a).1)]) (offered ++ [ticket])
        (events ++ (q.put a).2.2)
      simp only [List.append_assoc, List.singleton_append, List.length_append,
        List.length_singleton] at stays
      simp only [List.set_append_right _ _ (Nat.le_refl _), Nat.sub_self, List.set_cons_zero, stays,
        List.length_cons, Pass.mk.injEq, true_and, and_true]
      omega
    · have goes := ih before (offered ++ [ticket])
        (events ++ (q.put a).2.2 ++ [.unregistered (q.put a).1.name])
      simp only [List.append_assoc, List.singleton_append] at goes
      simp only [List.eraseIdx_append_of_length_le (Nat.le_refl _), Nat.sub_self,
        List.eraseIdx_cons_zero, List.append_assoc, goes]

/-- A walk through the whole list puts the item into each queue once. -/
theorem run_start (a : α) (queues : List (Nat × Queue α)) :
    run a (start queues) =
      ⟨(Distributor.putAll a queues).1, (Distributor.putAll a queues).1.length,
        queues.map Prod.fst, (Distributor.putAll a queues).2⟩ := by
  have walk := run_at a [] queues [] []
  simpa [start] using walk

end Pass

end AisFeed
