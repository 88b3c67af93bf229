import MissionWorker.Proofs.Supervisor.Coherence

namespace MissionWorker.Supervisor

/-- Each generation that was given out has its monitor, and belongs to the worker of the same rank. -/
structure Monitored (s : State) : Prop where
  length : s.monitors.length + 1 = s.lifecycle.nextGeneration
  live : ∀ {i : Nat} {m : Monitor}, s.monitors[i]? = some m →
    m.live = { generation := i + 1, worker := i }

namespace Monitored

variable {o : Options} {s s' : State} {asked : List Event}

theorem transfer (h : Monitored s) (monitors : s'.monitors = s.monitors)
    (next : s'.lifecycle.nextGeneration = s.lifecycle.nextGeneration) : Monitored s' := by
  constructor
  · rw [monitors, next]
    exact h.length
  · rw [monitors]
    exact h.live

theorem start_move (h : Monitored s) (coherent : Coherent s) {op : Nat} {p : StartPoint}
    {a : StartAct} (here : s.starts[op]? = some p) (move : StartMove o s op p a s' asked) :
    Monitored s' := by
  cases move with
  | register w =>
    obtain ⟨gone, counted, last⟩ := coherent.start_fits here
    have length := h.length
    rw [State.register_of_none gone]
    refine ⟨by simp [length], ?_⟩
    intro i m there
    rw [List.getElem?_append] at there
    split at there
    · exact h.live there
    · rw [List.getElem?_singleton] at there
      split at there
      · cases there
        have rank : w = i := by omega
        have number : s.lifecycle.nextGeneration = i + 1 := by omega
        simp [rank, number]
      · cases there
  | _ => exact h.transfer rfl rfl

theorem monitor_move (h : Monitored s) {i : Nat} {m : Monitor} (here : s.monitors[i]? = some m)
    (move : MonitorMove s i m s') : Monitored s' := by
  have done : Monitored (s.setMonitor i { m with done := true }) := by
    constructor
    · simpa [State.setMonitor] using h.length
    · intro j n there
      by_cases at_ : j = i
      · subst at_
        have bound := (List.getElem?_eq_some_iff.mp here).1
        simp only [State.setMonitor, List.getElem?_set_self bound] at there
        cases there
        have known := h.live here
        exact known
      · simp only [State.setMonitor, List.getElem?_set_ne (Ne.symm at_)] at there
        exact h.live there
  cases move with
  | pass => exact done
  | demote => exact done.transfer rfl rfl

theorem step (h : Monitored s) (coherent : Coherent s) {l : Label}
    (taken : s.step o l = some (s', asked)) : Monitored s' := by
  cases State.step_move taken with
  | enter | worker => exact h.transfer rfl rfl
  | start here move => exact h.start_move coherent here move
  | stop here move => cases move <;> exact h.transfer rfl rfl
  | monitor here pending ended move => exact h.monitor_move here move
  | caller here move => cases move <;> exact h.transfer rfl rfl

end Monitored

theorem Reachable.monitored {o : Options} {s : State} (reachable : Reachable o s) : Monitored s := by
  induction reachable using Reachable.induction with
  | new => exact ⟨rfl, by simp⟩
  | kept reachable h taken => exact h.step reachable.coherent taken

end MissionWorker.Supervisor
