import MissionWorker.Child.Handle

namespace MissionWorker.Child.Channel

variable {c c' : Channel}

/-- Which channel follows which. -/
inductive Leads (c : Channel) : Channel → Prop where
  | ask (mode : Termination) : Leads c (c.terminate mode)
  | letGo : Leads c c.dropHandle
  | receive {mode : Termination} {c' : Channel} (next : c.receive? = some (mode, c')) : Leads c c'
  | report (report : Report) : Leads c (c.reportExit report)
  | vanish : Leads c c.dropSignals

def hasEnded (c : Channel) : Bool := c.report.isSome || !c.signalsOpen

theorem outcome?_isSome {pid : Option Nat} : (c.outcome? pid).isSome = c.hasEnded := by
  unfold outcome? hasEnded
  cases c.report with
  | some report => rfl
  | none => cases c.signalsOpen <;> rfl

theorem hasEnded_of_report (reported : c.report.isSome) : c.hasEnded = true := by
  simp [hasEnded, reported]

theorem terminate_requests (mode : Termination) :
    (c.terminate mode).requests.length ≤ c.requests.length + 1 := by
  unfold terminate
  split
  · simp
  · exact Nat.le_succ _

theorem receive?_requests {mode : Termination} (next : c.receive? = some (mode, c')) :
    c'.requests.length ≤ c.requests.length := by
  unfold receive? at next
  split at next
  · rename_i requests
    cases next
    simp [requests]
  · split at next
    · cases next
    · cases next
      exact Nat.le_refl _

theorem signalsOpen_of_alive (alive : c.hasEnded = false) : c.signalsOpen = true := by
  simp only [hasEnded, Bool.or_eq_false_iff, Bool.not_eq_false'] at alive
  exact alive.2

variable {mode other : Termination}

theorem mem_terminate (waits : mode ∈ c.requests) : mode ∈ (c.terminate other).requests := by
  unfold terminate
  split
  · exact List.mem_append_left _ waits
  · exact waits

theorem mem_terminate_self (alive : (c.terminate mode).hasEnded = false) :
    mode ∈ (c.terminate mode).requests := by
  have signals := signalsOpen_of_alive alive
  unfold terminate at signals ⊢
  split at signals
  · rename_i opened
    simp [opened]
  · contradiction

theorem mem_of_receive? (next : c.receive? = some (other, c')) (waits : mode ∈ c.requests) :
    mode = other ∨ mode ∈ c'.requests := by
  unfold receive? at next
  split at next
  · rename_i first rest requests
    cases next
    rw [requests] at waits
    exact List.mem_cons.mp waits
  · rename_i empty
    rw [empty] at waits
    cases waits

theorem Leads.hasEnded (leads : c.Leads c') (ended : c.hasEnded = true) : c'.hasEnded = true := by
  cases leads with
  | ask mode =>
    unfold terminate
    split
    · exact ended
    · exact ended
  | letGo => exact ended
  | receive next =>
    unfold receive? at next
    split at next
    · cases next
      exact ended
    · split at next
      · cases next
      · cases next
        exact ended
  | report => rfl
  | vanish => simp [Channel.hasEnded, dropSignals]

end MissionWorker.Child.Channel
