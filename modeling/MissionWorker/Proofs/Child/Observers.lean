import Mathlib.Data.List.Induction
import MissionWorker.Proofs.Child.Channel

namespace MissionWorker.Child.Channel

variable {c : Channel} {pid pid' : Option Nat} {history : List Act} {r : Report}

def after (c : Channel) (history : List Act) : Channel := history.foldl (fun c a => (c.act a).2) c

theorem after_append (c : Channel) (before later : List Act) :
    c.after (before ++ later) = (c.after before).after later := List.foldl_append

theorem after_concat (c : Channel) (history : List Act) (a : Act) :
    c.after (history ++ [a]) = ((c.after history).act a).2 := after_append c history [a]

/-- Whether an act is the last that the process's side can do. -/
def Act.isLast : Act → Bool
  | .report _ | .dropSignals => true
  | _ => false

theorem receive?_of_other {mode : Termination} {c' : Channel} (next : c.receive? = some (mode, c')) :
    ∃ requests, c' = { c with requests } := by
  unfold receive? at next
  split at next
  · cases next
    exact ⟨_, rfl⟩
  · split at next <;> cases next
    exact ⟨_, rfl⟩

theorem act_of_other {a : Act} (other : a.isLast = false) :
    ∃ requests handleOpen, (c.act a).2 = { c with requests, handleOpen } := by
  cases a with
  | report | dropSignals => cases other
  | terminate mode =>
    simp only [act, terminate]
    split
    · split <;> exact ⟨_, _, rfl⟩
    · exact ⟨_, _, rfl⟩
  | receive =>
    simp only [act]
    split
    · split
      · rename_i next
        obtain ⟨requests, rfl⟩ := receive?_of_other next
        exact ⟨_, _, rfl⟩
      · exact ⟨_, _, rfl⟩
    · exact ⟨_, _, rfl⟩
  | wait | dropHandle | watch | look => exact ⟨_, _, rfl⟩

/-- Once the process's side has spoken its last, nothing changes the end any more. -/
theorem act_of_closed (closed : c.signalsOpen = false) (a : Act) :
    (c.act a).2.report = c.report ∧ (c.act a).2.signalsOpen = false := by
  cases last : a.isLast with
  | false =>
    obtain ⟨requests, handleOpen, same⟩ := act_of_other (c := c) last
    rw [same]
    exact ⟨rfl, closed⟩
  | true =>
    cases a with
    | report exit => simp [act, closed]
    | dropSignals => exact ⟨rfl, rfl⟩
    | _ => cases last

theorem act_pid (c : Channel) (a : Act) : (c.act a).2.pid = c.pid := by
  cases last : a.isLast with
  | false =>
    obtain ⟨requests, handleOpen, same⟩ := act_of_other (c := c) last
    rw [same]
  | true =>
    cases a with
    | report exit =>
      simp only [act]
      split <;> rfl
    | dropSignals => rfl
    | _ => cases last

def reported? (pid : Option Nat) : Option Act → Option Report
  | some (.report exit) => some { pid, exit }
  | _ => none

theorem after_new (pid : Option Nat) (history : List Act) :
    (({ pid } : Channel).after history).pid = pid ∧
    (({ pid } : Channel).after history).report = reported? pid (history.find? Act.isLast) ∧
    (({ pid } : Channel).after history).signalsOpen = (history.find? Act.isLast).isNone := by
  induction history using List.reverseRecOn with
  | nil => exact ⟨rfl, rfl, rfl⟩
  | append_singleton history a ih =>
    obtain ⟨same, report, signals⟩ := ih
    rw [after_concat, List.find?_append]
    refine ⟨(act_pid _ a).trans same, ?_⟩
    cases before : history.find? Act.isLast with
    | some word =>
      rw [before] at report signals
      obtain ⟨kept, closed⟩ := act_of_closed signals a
      exact ⟨kept.trans report, closed⟩
    | none =>
      rw [before] at report signals
      cases last : a.isLast with
      | false =>
        obtain ⟨requests, handleOpen, unchanged⟩ := act_of_other (c := ({ pid } : Channel).after history) last
        rw [unchanged]
        simpa [last] using ⟨report, signals⟩
      | true =>
        cases a with
        | report exit =>
          have opened : (({ pid } : Channel).after history).signalsOpen = true := signals
          simp [act, opened, reportExit, last, reported?, same]
        | dropSignals => simp [act, dropSignals, last, reported?, report]
        | _ => cases last

def vanished (c : Channel) : Bool := c.report.isNone && !c.signalsOpen

def told (pid : Option Nat) (c : Channel) : List Act → Option Report
  | [] => c.outcome? pid
  | a :: rest => (c.outcome? pid).or (told pid (c.act a).2 rest)

theorem outcome?_eq_some_iff : c.outcome? pid = some r ↔
    c.report = some r ∨ c.vanished = true ∧ r = { pid, exit := .unknown } := by
  unfold outcome? vanished
  cases c.report with
  | some report => simp
  | none => cases c.signalsOpen <;> simp [eq_comm]

theorem outcome?_of_closed (closed : c.signalsOpen = false) (a : Act) :
    (c.act a).2.outcome? pid = c.outcome? pid := by
  obtain ⟨report, still⟩ := act_of_closed closed a
  rw [outcome?, outcome?, report, still, closed]

theorem told_of_closed (closed : c.signalsOpen = false) : c.told pid history = c.outcome? pid := by
  induction history generalizing c with
  | nil => rfl
  | cons a rest ih =>
    rw [told, ih (act_of_closed closed a).2, outcome?_of_closed closed]
    cases c.outcome? pid <;> rfl

theorem outcome?_after_of_closed (closed : c.signalsOpen = false) :
    (c.after history).outcome? pid = c.outcome? pid := by
  induction history generalizing c with
  | nil => rfl
  | cons a rest ih =>
    exact (ih (act_of_closed closed a).2).trans (outcome?_of_closed closed a)

theorem closed_of_outcome? (told : (({ pid } : Channel).after history).outcome? pid' = some r) :
    (({ pid } : Channel).after history).signalsOpen = false := by
  obtain ⟨_, report, signals⟩ := after_new pid history
  rcases outcome?_eq_some_iff.mp told with reported | ⟨vanished, _⟩
  · rw [report] at reported
    rw [signals]
    cases word : history.find? Act.isLast with
    | none =>
      rw [word] at reported
      cases reported
    | some a => rfl
  · simpa [Channel.vanished] using (Bool.and_eq_true_iff.mp vanished).2

/-- It does not matter when one begins to wait. -/
theorem told_eq (pid pid' : Option Nat) (before later : List Act) :
    (({ pid } : Channel).after before).told pid' later =
      (({ pid } : Channel).after (before ++ later)).outcome? pid' := by
  induction later generalizing before with
  | nil => rw [told, List.append_nil]
  | cons a rest ih =>
    cases known : (({ pid } : Channel).after before).outcome? pid' with
    | some report =>
      have closed := closed_of_outcome? known
      rw [told_of_closed closed, after_append, outcome?_after_of_closed closed]
    | none =>
      rw [told, known, Option.none_or, ← after_concat, ih, List.append_assoc, List.singleton_append]

end MissionWorker.Child.Channel
