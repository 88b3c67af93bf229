import MissionWorker.Proofs.Supervisor.Readiness

namespace MissionWorker.Supervisor

variable {o : Options} {s s' : State} {l : Label} {asked more : List Event} {op : Nat}
  {p q : StartPoint}

def Event.isCheck (op : Nat) : Event → Bool
  | .check checked => checked == op
  | _ => false

def checks (asked : List Event) (op : Nat) : Nat := asked.countP (Event.isCheck op)

theorem checks_append (asked more : List Event) (op : Nat) :
    checks (asked ++ more) op = checks asked op + checks more op := List.countP_append

theorem checks_eq_zero (unasked : .check op ∉ asked) : checks asked op = 0 := by
  refine List.countP_eq_zero.mpr fun e member => ?_
  cases e with
  | check checked =>
    by_cases same : checked = op
    · subst same
      exact absurd member unasked
    · simp [Event.isCheck, same]
  | _ => simp [Event.isCheck]

def Options.attempts (o : Options) : Nat := max 1 o.probe.maxAttempts

/-- How many health checks an operation at a point has asked for. -/
def StartPoint.Checked (p : StartPoint) (o : Options) (n : Nat) : Prop :=
  match p with
  | .created | .launching | .launched _ => n = 0
  | .polling _ attempt => n + 1 = attempt ∧ attempt ≤ o.attempts
  | .checking _ attempt => n = attempt ∧ attempt ≤ o.attempts
  | .pausing _ attempt => n = attempt ∧ attempt < o.attempts
  | _ => n ≤ o.attempts

theorem State.step_check (taken : s.step o l = some (s', more)) (check : .check op ∈ more) :
    ∃ live n, s.starts[op]? = some (.polling live n) ∧ s' = s.setStart op (.checking live n) ∧
      more = [.check op] := by
  cases State.step_move taken with
  | enter | monitor => cases check
  | start here move =>
    cases move with
    | watch move =>
      cases move with
      | check =>
        cases List.mem_singleton.mp check
        exact ⟨_, _, here, rfl, rfl⟩
      | _ => simp at check
    | _ => simp at check
  | stop here move => cases move <;> simp at check
  | caller here move => cases move <;> simp at check
  | worker here held move => cases move <;> simp at check

theorem WatchMove.checked {a : StartAct} {n : Nat} (move : WatchMove o s op p a q more)
    (quiet : .check op ∉ more) (checked : p.Checked o n) : q.Checked o n := by
  cases move with
  | check => simp at quiet
  | pause more =>
    obtain ⟨rfl, within⟩ := checked
    exact ⟨rfl, Nat.lt_of_lt_of_le more (Nat.le_max_right _ _)⟩
  | again =>
    obtain ⟨rfl, within⟩ := checked
    exact ⟨rfl, within⟩
  | noticeEnd probing =>
    rcases probing with rfl | rfl | rfl
    all_goals simp only [StartPoint.Checked] at checked ⊢; omega
  | noticeCancel waiting =>
    rcases waiting with ⟨_, rfl⟩ | ⟨_, rfl⟩ | rfl | ⟨rfl, _⟩
    all_goals simp only [StartPoint.Checked] at checked ⊢; omega
  | _ => simp only [StartPoint.Checked] at checked ⊢; omega

theorem StartMove.checked {a : StartAct} {n : Nat} (move : StartMove o s op p a s' more)
    (here : s.starts[op]? = some p) (there : s'.starts[op]? = some q) (quiet : .check op ∉ more)
    (checked : p.Checked o n) : q.Checked o n := by
  cases move with
  | register w =>
    obtain rfl := State.register_point here there
    exact ⟨congrArg (· + 1) checked, Nat.le_max_left _ _⟩
  | watch move =>
    obtain rfl := State.setStart_point here there
    exact move.checked quiet checked
  | call | spawn =>
    obtain rfl := State.setStart_point (s := s) here there
    exact checked
  | refuse | breakDown =>
    obtain rfl := State.setStart_point (s := s) here there
    exact Nat.le_trans (Nat.le_of_eq checked) (Nat.zero_le _)
  | _ =>
    obtain rfl := State.setStart_point (s := s) here there
    exact checked

theorem History.checked (history : History o asked s) (op : Nat) :
    match s.starts[op]? with
    | some p => p.Checked o (checks asked op)
    | none => checks asked op = 0 := by
  induction history using History.induction with
  | new => rfl
  | @kept asked s l s' more _ known taken =>
    rw [checks_append]
    by_cases check : .check op ∈ more
    · obtain ⟨live, n, here, rfl, rfl⟩ := State.step_check taken check
      have bound := (List.getElem?_eq_some_iff.mp here).1
      simp only [here] at known
      simp only [State.setStart, List.getElem?_set_self bound]
      have once : checks [.check op] op = 1 := by simp [checks, Event.isCheck]
      rw [once]
      exact known
    · rw [checks_eq_zero check, Nat.add_zero]
      cases there : s'.starts[op]? with
      | some q =>
        rcases (State.step_starts taken).origin there with
          old | ⟨p, here, a, _, move, _⟩ | ⟨last, rfl, _⟩
        · simpa only [old] using known
        · simp only [here] at known
          exact move.checked here there check known
        · have missing : s.starts[op]? = none := by simp [last]
          simp only [missing] at known
          exact known
      | none =>
        have grown := (State.step_starts taken).length_le
        have missing : s.starts[op]? = none := by
          rw [List.getElem?_eq_none_iff] at there ⊢
          exact Nat.le_trans grown there
        simpa only [missing] using known

theorem History.checks_le (history : History o asked s) (op : Nat) : checks asked op ≤ o.attempts := by
  have positive : 1 ≤ o.attempts := Nat.le_max_left _ _
  have known := history.checked op
  split at known
  · rename_i p _
    cases p <;> simp only [StartPoint.Checked] at known <;> omega
  · omega

theorem State.step_cancelled (taken : s.step o l = some (s', more)) (cancelled : s'.cancelled = true) :
    s.cancelled = true ∨ ∃ (i : Nat) (c : Caller), s.callers[i]? = some c ∧ c.point = .cancelling := by
  cases State.step_move taken with
  | enter | worker => exact .inl cancelled
  | start here move =>
    cases move with
    | register w =>
      have same : (s.releaseAny s.lifecycle.live).cancelled = s.cancelled := by
        cases s.lifecycle.live <;> rfl
      exact .inl (same.symm.trans cancelled)
    | _ => exact .inl cancelled
  | stop here move => cases move <;> exact .inl cancelled
  | monitor here pending ended move => cases move <;> exact .inl cancelled
  | caller here move =>
    cases move with
    | cancel at_ => exact .inr ⟨_, _, here, at_⟩
    | _ => exact .inl cancelled

theorem CallerMove.of_cancelling {i : Nat} {c c' : Caller} {a : CallerAct}
    (move : CallerMove o s i c a s' c' more) (cancelling : c'.point = .cancelling) :
    s'.lifecycle.shuttingDown = true := by
  cases move with
  | announce => rfl
  | @answer generation r =>
    cases r with
    | ok => cases cancelling
    | error e =>
      simp only [State.receiveAnswer] at cancelling
      split at cancelling <;> cases cancelling
  | _ => cases cancelling

/-- What goes on is cancelled only by a shutdown that was announced. -/
theorem Reachable.announced (reachable : Reachable o s) :
    (s.cancelled = true → s.lifecycle.shuttingDown = true) ∧
      ∀ {i : Nat} {c : Caller}, s.callers[i]? = some c → c.point = .cancelling →
        s.lifecycle.shuttingDown = true := by
  induction reachable using Reachable.induction with
  | new => simp
  | kept _ known taken =>
    obtain ⟨all, each⟩ := known
    constructor
    · intro cancelled
      apply State.step_shuttingDown taken
      rcases State.step_cancelled taken cancelled with already | ⟨i, c, here, cancelling⟩
      · exact all already
      · exact each here cancelling
    · intro i c there cancelling
      rcases (State.step_callers taken).origin there with
        old | ⟨_, _, _, _, _, rfl, move⟩ | ⟨_, job, _, rfl⟩
      · exact State.step_shuttingDown taken (each old cancelling)
      · exact move.of_cancelling cancelling
      · cases job <;> cases cancelling

theorem StartMove.cancels {a : StartAct} (move : StartMove o s op p a s' more)
    (here : s.starts[op]? = some p) (there : s'.starts[op]? = some q)
    (failed : q.error? = some .cancelled) :
    p.error? = some .cancelled ∨ s.cancelled = true ∨ s.lifecycle.shuttingDown = true := by
  cases move with
  | register w =>
    obtain rfl := State.register_point here there
    cases failed
  | watch move =>
    obtain rfl := State.setStart_point here there
    cases move with
    | leave cancelled | noticeCancel _ cancelled => exact .inr (.inl cancelled)
    | refuse closed => exact .inr (.inr closed)
    | _ => cases failed
  | @publish r =>
    obtain rfl := State.setStart_point (s := s) here there
    cases r with
    | ok => cases failed
    | error => exact .inl failed
  | take | miss | terminate | spare | ended | outlast | abandon =>
    obtain rfl := State.setStart_point (s := s) here there
    exact .inl failed
  | _ =>
    obtain rfl := State.setStart_point (s := s) here there
    cases failed

theorem Reachable.cancels (reachable : Reachable o s) :
    ∀ {op : Nat} {p : StartPoint}, s.starts[op]? = some p → p.error? = some .cancelled →
      s.lifecycle.shuttingDown = true := by
  induction reachable using Reachable.induction with
  | new => simp
  | kept reachable known taken =>
    intro op q there failed
    apply State.step_shuttingDown taken
    rcases (State.step_starts taken).origin there with old | ⟨p, here, a, _, move, _⟩ | ⟨_, rfl, _⟩
    · exact known old failed
    · rcases move.cancels here there failed with already | cancelled | closed
      · exact known here already
      · exact reachable.announced.1 cancelled
      · exact closed
    · cases failed

end MissionWorker.Supervisor
