import LanguageClient.Proofs.Session.Rules

/-!
# The frames of a connection

What has been queued on a connection in a run, taken from all that others have seen of it.
-/

namespace LanguageClient

/-- The frame of an effect, if it is queued on connection `c`. -/
def Effect.frameOn? (c : Nat) : Effect → Option Json
  | .queued k (.send frame) => if k = c then some frame else none
  | _ => none

/-- The frames that have been queued on connection `c`, the oldest first. -/
def framesOn (c : Nat) (said : List Effect) : List Json := said.filterMap (·.frameOn? c)

@[simp] lemma framesOn_nil (c : Nat) : framesOn c [] = [] := rfl

@[simp] lemma framesOn_append (c : Nat) (said later : List Effect) :
    framesOn c (said ++ later) = framesOn c said ++ framesOn c later := List.filterMap_append

lemma framesOn_news (c : Nat) (said : List Effect) : framesOn c (news said) = framesOn c said := by
  induction said with
  | nil => rfl
  | cons e rest ih =>
    simp only [framesOn] at ih
    cases e <;>
      simp [news, framesOn, Effect.isLog, Effect.frameOn?, List.filterMap_cons] at ih ⊢ <;>
      simp [ih]

@[simp] lemma framesOn_queued_self (c : Nat) (frame : Json) :
    framesOn c [.queued c (.send frame)] = [frame] := by
  simp [framesOn, Effect.frameOn?]

lemma framesOn_queued_of_ne {c k : Nat} (h : k ≠ c) (command : Command) :
    framesOn c [.queued k command] = [] := by
  cases command <;> simp [framesOn, Effect.frameOn?, h]

lemma State.framesOn_lose {s : Setup} {w : State} {c : Nat} (k : Nat) (failure : RuntimeFailure) :
    framesOn k (news (w.lose s c failure).2) = [] := by
  by_cases hheeds : w.Heeds c
  · rw [(lose_of_heeds s w c failure hheeds).2]
    rfl
  · rw [lose_of_not_heeds s w c failure hheeds]
    rfl

end LanguageClient
