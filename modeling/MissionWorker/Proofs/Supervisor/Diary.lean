import MissionWorker.Proofs.Supervisor.Shutdown
import MissionWorker.Proofs.Supervisor.Trail

namespace MissionWorker.Supervisor

variable {o : Options} {s s' : State} {l : Label} {more : List Event} {steps : List Taken}

/-- What a caller does or is told, as far as its request goes. -/
inductive Deed where
  | call (generation : Nat) (endpoint : String) (payload : Option Json)
  | answer (r : Except Bridge.Error Json)
  | restart (generation : Nat)
  | refusal (e : StartupError)

def Deed.call? : Deed → Option (String × Option Json)
  | .call _ endpoint payload => some (endpoint, payload)
  | _ => none

def Event.call? (i : Nat) : Event → Option (String × Option Json)
  | .call j endpoint payload => if j = i then some (endpoint, payload) else none
  | _ => none

def Event.deed? (generation : Nat) : Event → Option Deed
  | .call _ endpoint payload => some (.call generation endpoint payload)
  | _ => none

def CallerPoint.refusal? : CallerPoint → Option StartupError
  | .returned (.error (.startup e)) => some e
  | _ => none

/-- What a caller does in a step that leaves it as another, and asks this. -/
def Caller.deeds (c c' : Caller) (asked : List Event) : CallerAct → List Deed
  | .callReturned r => [.answer r]
  | .drop => []
  | .act =>
    match c.point with
    | .ensured generation => asked.filterMap (Event.deed? generation)
    | .restarting generation => [.restart generation]
    | _ => (c'.point.refusal?.map Deed.refusal).toList

def Taken.deeds (i : Nat) (t : Taken) : List Deed :=
  match t.label with
  | .caller j a =>
    if j = i then
      match t.before.callers[i]?, t.after.callers[i]? with
      | some c, some c' => c.deeds c' t.asked a
      | _, _ => []
    else []
  | _ => []

def diary (steps : List Taken) (i : Nat) : List Deed := steps.flatMap (Taken.deeds i)

def calls (deeds : List Deed) : List (String × Option Json) := deeds.filterMap Deed.call?

theorem Taken.deeds_of_other {i : Nat} {t : Taken} (other : ∀ a, t.label ≠ .caller i a) :
    t.deeds i = [] := by
  unfold Taken.deeds
  split
  · rename_i j a label
    split
    · rename_i same
      rw [same] at label
      exact absurd label (other a)
    · rfl
  · rfl

theorem State.step_own {i : Nat} {a : CallerAct} (taken : s.step o (.caller i a) = some (s', more)) :
    ∃ c c' s₁, s.callers[i]? = some c ∧ s'.callers[i]? = some c' ∧ s' = s₁.setCaller i c' ∧
      CallerMove o s i c a s₁ c' more ∧
      Taken.deeds i ⟨s, .caller i a, s', more⟩ = c.deeds c' more a := by
  cases step_move taken with
  | @caller _ c c' a s₁ _ here move =>
    have bound := (List.getElem?_eq_some_iff.mp here).1
    have there : (s₁.setCaller i c').callers[i]? = some c' := by
      rw [setCaller, move.callers]
      exact List.getElem?_set_self bound
    exact ⟨c, c', s₁, here, there, rfl, move, by simp [Taken.deeds, here, there]⟩

theorem diary_append (steps : List Taken) (t : Taken) (i : Nat) :
    diary (steps ++ [t]) i = diary steps i ++ t.deeds i := by
  simp [diary]

theorem Trail.diary_of_missing (trail : Trail o steps s) {i : Nat} (missing : s.callers[i]? = none) :
    diary steps i = [] := by
  induction trail with
  | new => rfl
  | @step steps s s' l asked trail taken ih =>
    have grown := (State.step_callers taken).length_le
    have beyond := List.getElem?_eq_none_iff.mp missing
    have before : s.callers[i]? = none := List.getElem?_eq_none_iff.mpr (Nat.le_trans grown beyond)
    have other (a : CallerAct) : l ≠ .caller i a := by
      rintro rfl
      simp [State.step, before] at taken
    rw [diary_append, ih before, Taken.deeds_of_other other]
    rfl

theorem CallerMove.calls {i : Nat} {c c' : Caller} {a : CallerAct}
    (move : CallerMove o s i c a s' c' more) :
    more.filterMap (Event.call? i) = Supervisor.calls (c.deeds c' more a) := by
  have none (p : CallerPoint) : Supervisor.calls (p.refusal?.map Deed.refusal).toList = [] := by
    cases p.refusal? <;> rfl
  cases move with
  | call at_ => simp [Caller.deeds, at_, Event.call?, Event.deed?, Supervisor.calls, Deed.call?]
  | stopped at_ =>
    rcases at_ with at_ | at_
    · simp [Caller.deeds, at_, none]
    · simp [Caller.deeds, at_, none]
  | drop | answer => rfl
  | restart at_ | restartEnded at_ | restartStale at_ => simp only [Caller.deeds, at_]; rfl
  | finish at_ => simp only [Caller.deeds, at_]; rfl
  | _ => simp_all [Caller.deeds]

theorem Trail.dispatched (trail : Trail o steps s) (i : Nat) :
    (steps.flatMap Taken.asked).filterMap (Event.call? i) = calls (diary steps i) := by
  induction trail with
  | new => rfl
  | @step steps s s' l asked trail taken ih =>
    have step : asked.filterMap (Event.call? i) = calls (Taken.deeds i ⟨s, l, s', asked⟩) := by
      by_cases own : ∃ a, l = .caller i a
      · obtain ⟨a, rfl⟩ := own
        obtain ⟨before, after, s₁, _, _, rfl, move, deeds⟩ := State.step_own taken
        rw [deeds, move.calls]
      · have other (a : CallerAct) : l ≠ .caller i a := fun same => own ⟨a, same⟩
        rw [Taken.deeds_of_other other]
        apply List.filterMap_eq_nil_iff.mpr
        intro e member
        cases e with
        | call j endpoint payload =>
          by_cases same : j = i
          · subst same
            exact absurd (State.step_call taken member).1 (other .act)
          · simp [Event.call?, same]
        | _ => rfl
    rw [diary_append, List.flatMap_append, List.filterMap_append, ih]
    simp [calls, step]

end MissionWorker.Supervisor
