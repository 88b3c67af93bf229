import Mathlib.Algebra.BigOperators.Group.Finset.Basic
import Mathlib.Algebra.Order.Group.Nat
import MissionWorker.Probe

namespace MissionWorker.Probe

open Finset (range sum_range_succ)

variable {p : Probe} {interval : Nat} {check : Nat → Check} {cancel : Option Nat} {n t c : Nat} {e : End}

inductive Finishes (p : Probe) (check : Nat → Check) : End → Prop where
  | ready {k : Nat} {d : Nat → Nat} (within : k < p.maxAttempts)
    (came : ∀ i ≤ k, (check i).after = some (d i)) (healthy : (check k).healthy = true)
    (first : ∀ i < k, (check i).healthy = false) :
    Finishes p check ⟨.ready (k + 1), ∑ i ∈ range (k + 1), d i + k * p.interval, k + 1⟩
  | timeout {d : Nat → Nat} (came : ∀ i < p.maxAttempts, (check i).after = some (d i))
    (never : ∀ i < p.maxAttempts, (check i).healthy = false) :
    Finishes p check ⟨.failed (.timeout p.maxAttempts),
      ∑ i ∈ range p.maxAttempts, d i + (p.maxAttempts - 1) * p.interval, p.maxAttempts⟩

/-- A check is due when all before it have come back, and an interval has passed after each. -/
def Due (interval : Nat) (check : Nat → Check) (n t : Nat) : Prop :=
  ∃ d : Nat → Nat, (∀ i < n, (check i).after = some (d i)) ∧ t = ∑ i ∈ range n, d i + n * interval

theorem due_zero : Due interval check 0 0 := ⟨fun _ => 0, by simp, by simp⟩

theorem due_succ_iff : Due interval check (n + 1) t ↔
    ∃ s d, Due interval check n s ∧ (check n).after = some d ∧ t = s + d + interval := by
  constructor
  · rintro ⟨d, came, rfl⟩
    refine ⟨_, d n, ⟨d, fun i below => came i (by omega), rfl⟩, came n (by omega), ?_⟩
    rw [sum_range_succ, Nat.succ_mul]
    omega
  · rintro ⟨s, last, ⟨d, came, rfl⟩, back, rfl⟩
    refine ⟨fun i => if i = n then last else d i, ?_, ?_⟩
    · intro i below
      by_cases here : i = n
      · simp [here, back]
      · simpa [here] using came i (by omega)
    · have before : ∑ i ∈ range n, (if i = n then last else d i) = ∑ i ∈ range n, d i :=
        Finset.sum_congr rfl fun i member => if_neg (Nat.ne_of_lt (Finset.mem_range.mp member))
      rw [sum_range_succ, before, if_pos rfl, Nat.succ_mul]
      omega

theorem Due.unique {s : Nat} (due : Due interval check n s) (again : Due interval check n t) :
    s = t := by
  induction n generalizing s t with
  | zero =>
    obtain ⟨_, _, rfl⟩ := due
    obtain ⟨_, _, rfl⟩ := again
    simp
  | succ n ih =>
    obtain ⟨s, d, former, back, rfl⟩ := due_succ_iff.mp due
    obtain ⟨t, d', former', back', rfl⟩ := due_succ_iff.mp again
    cases back.symm.trans back'
    rw [ih former former']

theorem Due.before {m : Nat} (due : Due interval check n t) (earlier : m ≤ n) :
    ∃ s, Due interval check m s ∧ s ≤ t := by
  induction n generalizing t with
  | zero => exact ⟨t, by rwa [Nat.le_zero.mp earlier], Nat.le_refl t⟩
  | succ n ih =>
    rcases Nat.le_succ_iff.mp earlier with below | rfl
    · obtain ⟨s, d, former, _, rfl⟩ := due_succ_iff.mp due
      obtain ⟨u, known, le⟩ := ih former below
      exact ⟨u, known, by omega⟩
    · exact ⟨t, due, Nat.le_refl t⟩

theorem Due.ready (due : Due p.interval check (n + 1) t) (within : n < p.maxAttempts)
    (healthy : (check n).healthy = true) (first : ∀ i < n, (check i).healthy = false) :
    ∃ e, Finishes p check e ∧ e.time + p.interval = t := by
  obtain ⟨d, came, rfl⟩ := due
  refine ⟨_, .ready within (fun i le => came i (Nat.lt_succ_of_le le)) healthy first, ?_⟩
  rw [Nat.succ_mul, Nat.add_assoc]

theorem Due.timeout (due : Due p.interval check p.maxAttempts t) (some_attempt : 1 ≤ p.maxAttempts)
    (never : ∀ i < p.maxAttempts, (check i).healthy = false) :
    ∃ e, Finishes p check e ∧ e.time + p.interval = t := by
  obtain ⟨d, came, rfl⟩ := due
  refine ⟨_, .timeout came never, ?_⟩
  rw [Nat.add_assoc, ← Nat.succ_mul, Nat.succ_eq_add_one, Nat.sub_add_cancel some_attempt]

def Undisturbed (cancel : Option Nat) (t : Nat) : Prop := ∀ c, cancel = some c → t < c

theorem Undisturbed.not_by (quiet : Undisturbed cancel t) : cancelledBy cancel t = false := by
  cases cancel with
  | none => rfl
  | some c => simpa [cancelledBy] using quiet c rfl

theorem Undisturbed.not_before (quiet : Undisturbed cancel t) : cancelledBefore cancel t = false := by
  cases cancel with
  | none => rfl
  | some c => simpa [cancelledBefore] using Nat.le_of_lt (quiet c rfl)

theorem Undisturbed.mono {s : Nat} (quiet : Undisturbed cancel t) (le : s ≤ t) :
    Undisturbed cancel s := fun c signal => Nat.lt_of_le_of_lt le (quiet c signal)

section Attempt

variable {later d : Nat}

theorem attempts_of_healthy (back : (check n).after = some d) (healthy : (check n).healthy = true)
    (quiet : Undisturbed cancel (t + d)) :
    attempts interval check cancel later n t = ⟨.ready (n + 1), t + d, n + 1⟩ := by
  rw [attempts.eq_def]
  simp [(quiet.mono (Nat.le_add_right t d)).not_by, back, quiet.not_before, healthy]

theorem attempts_of_last (back : (check n).after = some d) (unwell : (check n).healthy = false)
    (quiet : Undisturbed cancel (t + d)) :
    attempts interval check cancel 0 n t = ⟨.failed (.timeout (n + 1)), t + d, n + 1⟩ := by
  rw [attempts.eq_def]
  simp [(quiet.mono (Nat.le_add_right t d)).not_by, back, quiet.not_before, unwell]

theorem attempts_of_unwell (back : (check n).after = some d) (unwell : (check n).healthy = false)
    (quiet : Undisturbed cancel (t + d + interval)) :
    attempts interval check cancel (later + 1) n t =
      attempts interval check cancel later (n + 1) (t + d + interval) := by
  have returned := quiet.mono (Nat.le_add_right (t + d) interval)
  have begun := returned.mono (Nat.le_add_right t d)
  rw [attempts.eq_def]
  simp [begun.not_by, back, returned.not_before, unwell, quiet.not_by]

theorem attempts_of_checking (begun : t < c) (away : ∀ d, (check n).after = some d → c < t + d) :
    attempts interval check (some c) later n t = ⟨.failed .cancelled, c, n + 1⟩ := by
  have early : cancelledBy (some c) t = false := by simpa [cancelledBy] using begun
  rw [attempts.eq_def]
  cases back : (check n).after with
  | none => simp [early, back]
  | some d => simp [early, back, cancelledBefore, away d back]

theorem attempts_of_resting (begun : t < c) (back : (check n).after = some d)
    (unwell : (check n).healthy = false) (rests : t + d ≤ c) (within : c ≤ t + d + interval) :
    attempts interval check (some c) (later + 1) n t = ⟨.failed .cancelled, c, n + 1⟩ := by
  have early : cancelledBy (some c) t = false := by simpa [cancelledBy] using begun
  have returned : cancelledBefore (some c) (t + d) = false := by simpa [cancelledBefore] using rests
  have due : cancelledBy (some c) (t + d + interval) = true := by simpa [cancelledBy] using within
  rw [attempts.eq_def]
  simp [early, back, returned, unwell, due, rests]

end Attempt

theorem run_reaches {k : Canceller} (within : n < p.maxAttempts) (due : Due p.interval check n t)
    (unwell : ∀ i < n, (check i).healthy = false) (quiet : Undisturbed k.comes? t) :
    p.run check k = attempts p.interval check k.comes? (p.maxAttempts - 1 - n) n t := by
  induction n generalizing t with
  | zero =>
    cases due.unique due_zero
    rfl
  | succ n ih =>
    obtain ⟨s, d, former, back, rfl⟩ := due_succ_iff.mp due
    rw [ih (by omega) former (fun i below => unwell i (by omega)) (quiet.mono (by omega))]
    have left : p.maxAttempts - 1 - n = p.maxAttempts - 1 - (n + 1) + 1 := by omega
    rw [left, attempts_of_unwell back (unwell n (Nat.lt_succ_self n)) quiet]

theorem Finishes.run {k : Canceller} (finishes : Finishes p check e)
    (some_attempt : 1 ≤ p.maxAttempts) (quiet : Undisturbed k.comes? e.time) :
    p.run check k = e := by
  cases finishes with
  | @ready n d within came healthy first =>
    have due : Due p.interval check n _ := ⟨d, fun i below => came i (by omega), rfl⟩
    have back : ∑ i ∈ range (n + 1), d i + n * p.interval =
        ∑ i ∈ range n, d i + n * p.interval + d n := by
      rw [sum_range_succ]
      omega
    rw [back] at quiet ⊢
    rw [run_reaches within due first (quiet.mono (Nat.le_add_right _ _)),
      attempts_of_healthy (came n (Nat.le_refl n)) healthy quiet]
  | @timeout d came never =>
    obtain ⟨n, all⟩ : ∃ n, p.maxAttempts = n + 1 := ⟨p.maxAttempts - 1, by omega⟩
    rw [all] at came never quiet ⊢
    have due : Due p.interval check n _ := ⟨d, fun i below => came i (by omega), rfl⟩
    have back : ∑ i ∈ range (n + 1), d i + (n + 1 - 1) * p.interval =
        ∑ i ∈ range n, d i + n * p.interval + d n := by
      rw [sum_range_succ, Nat.add_sub_cancel]
      omega
    rw [back] at quiet ⊢
    rw [run_reaches (by omega) due (fun i below => never i (by omega))
        (quiet.mono (Nat.le_add_right _ _)), all, Nat.add_sub_cancel, Nat.sub_self,
      attempts_of_last (came n (Nat.lt_succ_self n)) (never n (Nat.lt_succ_self n)) quiet]

structure LastDue (p : Probe) (check : Nat → Check) (c n t : Nat) : Prop where
  within : n < p.maxAttempts
  due : Due p.interval check n t
  before : t < c
  last : ∀ s, n + 1 < p.maxAttempts → Due p.interval check (n + 1) s → c ≤ s

theorem exists_lastDue (some_attempt : 1 ≤ p.maxAttempts) (later : 0 < c) :
    ∃ n t, LastDue p check c n t := by
  have search (left : Nat) : ∀ n t, n + left + 1 = p.maxAttempts → Due p.interval check n t → t < c →
      ∃ n t, LastDue p check c n t := by
    induction left with
    | zero =>
      intro n t all due before
      exact ⟨n, t, by omega, due, before, fun s more => by omega⟩
    | succ left ih =>
      intro n t all due before
      by_cases next : ∃ s, Due p.interval check (n + 1) s ∧ s < c
      · obtain ⟨s, due', before'⟩ := next
        exact ih (n + 1) s (by omega) due' before'
      · push Not at next
        exact ⟨n, t, by omega, due, before, fun s _ due' => next s due'⟩
  exact search (p.maxAttempts - 1) 0 0 (by omega) due_zero later

theorem LastDue.lt_succ_iff (known : LastDue p check c n t) (i : Nat) :
    i < n + 1 ↔ i < p.maxAttempts ∧ ∃ s, Due p.interval check i s ∧ s < c := by
  constructor
  · intro below
    obtain ⟨s, due, le⟩ := known.due.before (Nat.lt_succ_iff.mp below)
    exact ⟨by have := known.within; omega, s, due, Nat.lt_of_le_of_lt le known.before⟩
  · rintro ⟨within, s, due, before⟩
    by_contra beyond
    obtain ⟨u, next, le⟩ := due.before (Nat.not_lt.mp beyond)
    have late := known.last u (by omega) next
    omega

/-- No check that comes back before the cancellation is healthy: the first one would end the probe. -/
theorem unwell_of_unfinished (unfinished : ∀ e, Finishes p check e → c < e.time)
    (within : n ≤ p.maxAttempts) (due : Due p.interval check n t) (before : t ≤ c + p.interval) :
    ∀ i < n, (check i).healthy = false := by
  intro i
  induction i using Nat.strong_induction_on with
  | _ i first =>
    intro below
    by_contra healthy
    obtain ⟨s, due', le⟩ := due.before (Nat.succ_le_of_lt below)
    obtain ⟨e, finishes, time⟩ := due'.ready (by omega) (Bool.not_eq_false _ ▸ healthy)
      fun j earlier => first j earlier (by omega)
    have late := unfinished e finishes
    omega

theorem run_of_cancelled {k : Canceller} (some_attempt : 1 ≤ p.maxAttempts) (later : 0 < c)
    (signal : k.comes? = some c) (unfinished : ∀ e, Finishes p check e → c < e.time) :
    ∃ n, p.run check k = ⟨.failed .cancelled, c, n⟩ ∧
      ∀ i, i < n ↔ i < p.maxAttempts ∧ ∃ s, Due p.interval check i s ∧ s < c := by
  obtain ⟨n, t, known⟩ : ∃ n t, LastDue p check c n t := exists_lastDue some_attempt later
  have within := known.within
  have before := known.before
  have unwell := unwell_of_unfinished unfinished (by omega) known.due (by omega)
  have quiet : Undisturbed k.comes? t := by
    intro c' signal'
    cases signal.symm.trans signal'
    exact before
  refine ⟨n + 1, ?_, known.lt_succ_iff⟩
  rw [run_reaches within known.due unwell quiet, signal]
  by_cases away : ∀ d, (check n).after = some d → c < t + d
  · exact attempts_of_checking before away
  · push Not at away
    obtain ⟨d, back, returned⟩ := away
    have due : Due p.interval check (n + 1) (t + d + p.interval) :=
      due_succ_iff.mpr ⟨t, d, known.due, back, rfl⟩
    have unwell := unwell_of_unfinished unfinished (by omega) due (by omega)
    have more : n + 1 < p.maxAttempts := by
      by_contra none
      have all : n + 1 = p.maxAttempts := by omega
      rw [all] at due unwell
      obtain ⟨e, finishes, time⟩ := due.timeout some_attempt unwell
      have late := unfinished e finishes
      omega
    have left : p.maxAttempts - 1 - n = p.maxAttempts - 1 - (n + 1) + 1 := by omega
    rw [left]
    exact attempts_of_resting before back (unwell n (Nat.lt_succ_self n)) returned
      (known.last _ more due)

theorem exists_finishes (some_attempt : 1 ≤ p.maxAttempts)
    (came : ∀ i < p.maxAttempts, ∃ d, (check i).after = some d) : ∃ e, Finishes p check e := by
  have due : ∀ n ≤ p.maxAttempts, ∃ t, Due p.interval check n t := by
    intro n
    induction n with
    | zero => exact fun _ => ⟨0, due_zero⟩
    | succ n ih =>
      intro within
      obtain ⟨t, due⟩ := ih (by omega)
      obtain ⟨d, back⟩ := came n within
      exact ⟨_, due_succ_iff.mpr ⟨t, d, due, back, rfl⟩⟩
  by_contra none
  have never : ∀ i < p.maxAttempts, (check i).healthy = false := by
    intro i
    induction i using Nat.strong_induction_on with
    | _ i first =>
      intro within
      by_contra healthy
      obtain ⟨t, due⟩ := due (i + 1) within
      obtain ⟨e, finishes, _⟩ := due.ready within (Bool.not_eq_false _ ▸ healthy)
        fun j earlier => first j earlier (by omega)
      exact none ⟨e, finishes⟩
  obtain ⟨t, due⟩ := due p.maxAttempts (Nat.le_refl _)
  obtain ⟨e, finishes, _⟩ := due.timeout some_attempt never
  exact none ⟨e, finishes⟩

theorem run_of_entry {k : Canceller} (signal : k.comes? = some 0) :
    p.run check k = ⟨.failed .cancelled, 0, 0⟩ := by
  rw [run, attempts.eq_def, signal]
  rfl

theorem Canceller.comes?_of_unsignalled {k : Canceller} (unsignalled : k.signal = none) :
    k.comes? = none := by
  rw [comes?, waits, unsignalled]
  cases k.gone <;> rfl

/-- What comes of a probe whose checks go in a certain way, and that may be cancelled. Nothing is said
of a cancellation at the very moment when the probe ends. -/
structure Settled (p : Probe) (check : Nat → Check) (k : Canceller) : Prop where
  finishes : (∀ i < p.maxAttempts, ∃ d, (check i).after = some d) → ∃ e, Finishes p check e
  finished : ∀ e, Finishes p check e → Undisturbed k.comes? e.time → p.run check k = e
  cancelled : ∀ c, k.comes? = some c → 0 < c → (∀ e, Finishes p check e → c < e.time) →
    ∃ n, p.run check k = ⟨.failed .cancelled, c, n⟩ ∧
      ∀ i, i < n ↔ i < p.maxAttempts ∧ ∃ s, Due p.interval check i s ∧ s < c
  cancelled_on_entry : k.comes? = some 0 → p.run check k = ⟨.failed .cancelled, 0, 0⟩
  deserted : k.signal = none → p.run check k = p.run check {}

theorem probe_settled (p : Probe) (some_attempt : 1 ≤ p.maxAttempts) (check : Nat → Check)
    (k : Canceller) : Settled p check k where
  finishes := exists_finishes some_attempt
  finished _ finishes quiet := finishes.run some_attempt quiet
  cancelled _ signal later unfinished := run_of_cancelled some_attempt later signal unfinished
  cancelled_on_entry := run_of_entry
  deserted unsignalled := by
    rw [run, run, Canceller.comes?_of_unsignalled unsignalled]
    rfl

/-- The third check is healthy. The sender goes during the first pause; had it signalled then, there
would have been no second check. -/
theorem probe_settled_at_third : ∃ (p : Probe) (check : Nat → Check), 1 ≤ p.maxAttempts ∧
    p.run check { gone := some 60 } = ⟨.ready 3, 282, 3⟩ ∧
    p.run check { signal := some 60, gone := some 70 } = ⟨.failed .cancelled, 60, 1⟩ := by
  let p : Probe := .ofAttempts 5 100
  let d (i : Nat) : Nat := [30, 45].getD i 7
  let check (i : Nat) : Check := { after := some (d i), healthy := decide (2 ≤ i) }
  have third : Finishes p check ⟨.ready 3, 282, 3⟩ :=
    .ready (k := 2) (d := d) (by decide) (fun i _ => rfl) rfl (by decide)
  have settled := probe_settled p (by decide) check
  refine ⟨p, check, by decide, (settled _).finished _ third (by simp [Undisturbed, Canceller.comes?,
    Canceller.waits]), ?_⟩
  have early : ∀ e, Finishes p check e → 60 < e.time := by
    intro e finishes
    have ended := finishes.run (k := {}) (by decide) (by simp [Undisturbed, Canceller.comes?,
      Canceller.waits])
    have known : p.run check {} = ⟨.ready 3, 282, 3⟩ := by decide +kernel
    rw [← ended, known]
    decide
  obtain ⟨n, ended, begun⟩ := (settled { signal := some 60, gone := some 70 }).cancelled 60 rfl
    (by decide) early
  have one : n = 1 := by
    have first := (begun 0).mpr ⟨by decide, 0, due_zero, by decide⟩
    have second : ¬ 1 < n := by
      intro more
      obtain ⟨_, s, due, before⟩ := (begun 1).mp more
      obtain ⟨t, d', former, back, rfl⟩ := due_succ_iff.mp due
      cases back
      have late : t + 30 + 100 < 60 := before
      omega
    omega
  rw [ended, one]

end MissionWorker.Probe
