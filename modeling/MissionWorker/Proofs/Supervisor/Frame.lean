import MissionWorker.Proofs.Child.Channel
import MissionWorker.Proofs.Supervisor.Move

namespace MissionWorker.Supervisor

variable {o : Options} {s s' : State} {asked : List Event}

def Event.isTerminate (w : Nat) : Event → Bool
  | .terminate worker _ => worker == w
  | _ => false

def terminations (asked : List Event) (w : Nat) : Nat := asked.countP (Event.isTerminate w)

inductive StartPoint.Leads : StartPoint → StartPoint → Prop where
  | call : Leads .created .launching
  | spawn (worker : Nat) : Leads .launching (.launched worker)
  | refuse (e : Launch.Error) : Leads .launching (.failed (.launch e))
  | breakDown : Leads .launching .died
  | register {worker : Nat} (live : Live) : Leads (.launched worker) (.polling live 1)
  | watch {p p' : StartPoint} {live : Live} (watched : p.watched? = some live)
    (still : p'.watched? = some live) : Leads p p'
  | fail {p : StartPoint} {live : Live} {e : StartupError} (watched : p.watched? = some live)
    (known : e ≠ .aborted) : Leads p (.failed e)
  | promote {live : Live} : Leads (.verified live) (.resolved (.ok ()))
  | take {e : StartupError} (live : Live) : Leads (.failed e) (.taken e live)
  | miss {e : StartupError} : Leads (.failed e) (.released e)
  | terminate {e : StartupError} {live : Live} : Leads (.taken e live) (.terminating e live)
  | spare {e : StartupError} {live : Live} : Leads (.taken e live) (.released e)
  | letGo {e : StartupError} {live : Live} : Leads (.terminating e live) (.released e)
  | abandon {e : StartupError} : Leads (.released e) (.resolved (.error e))
  | publish {r : Except StartupError Unit} : Leads (.resolved r) (.published r)

theorem StartPoint.Leads.of_died {p : StartPoint} (leads : StartPoint.Leads .died p) : False := by
  cases leads with
  | watch watched | fail watched => simp [watched?] at watched

theorem StartPoint.Leads.of_published {r : Except StartupError Unit} {p : StartPoint}
    (leads : StartPoint.Leads (.published r) p) : False := by
  cases leads with
  | watch watched | fail watched => simp [watched?] at watched

theorem WatchMove.watched {op : Nat} {p p' : StartPoint} {a : StartAct}
    (move : WatchMove o s op p a p' asked) :
    ∃ live, p.watched? = some live ∧
      (p'.watched? = some live ∨ ∃ e, p' = .failed e ∧ e ≠ .aborted) := by
  cases move with
  | noticeEnd probing =>
    rcases probing with rfl | rfl | rfl
    all_goals exact ⟨_, rfl, .inr ⟨_, rfl, by simp⟩⟩
  | noticeCancel waiting =>
    rcases waiting with ⟨_, rfl⟩ | ⟨_, rfl⟩ | rfl | ⟨rfl, _⟩
    all_goals exact ⟨_, rfl, .inr ⟨_, rfl, by simp⟩⟩
  | leave | exhaust | refuse | bury | lose => exact ⟨_, rfl, .inr ⟨_, rfl, by simp⟩⟩
  | check | healthy | pause | again | reconcile | skip | reconciled => exact ⟨_, rfl, .inl rfl⟩

theorem WatchMove.leads {op : Nat} {p p' : StartPoint} {a : StartAct}
    (move : WatchMove o s op p a p' asked) : p.Leads p' := by
  obtain ⟨live, watched, still | ⟨e, rfl, known⟩⟩ := move.watched
  · exact .watch watched still
  · exact .fail watched known

namespace StartMove

variable {op : Nat} {p : StartPoint} {a : StartAct}

theorem leads (move : StartMove o s op p a s' asked) :
    ∃ p', s'.starts = s.starts.set op p' ∧ p.Leads p' := by
  cases move with
  | call => exact ⟨_, rfl, .call⟩
  | spawn pid => exact ⟨_, rfl, .spawn _⟩
  | refuse e => exact ⟨_, rfl, .refuse e⟩
  | breakDown => exact ⟨_, rfl, .breakDown⟩
  | register w =>
    refine ⟨_, ?_, .register { generation := s.lifecycle.nextGeneration, worker := w }⟩
    cases held : s.lifecycle.live <;> simp [State.register, State.releaseAny, held] <;> rfl
  | watch move => exact ⟨_, rfl, move.leads⟩
  | promote => exact ⟨_, rfl, .promote⟩
  | take => exact ⟨_, rfl, .take _⟩
  | miss => exact ⟨_, rfl, .miss⟩
  | terminate => exact ⟨_, rfl, .terminate⟩
  | spare => exact ⟨_, rfl, .spare⟩
  | ended | outlast => exact ⟨_, rfl, .letGo⟩
  | abandon => exact ⟨_, rfl, .abandon⟩
  | publish => exact ⟨_, rfl, .publish⟩

theorem frame (move : StartMove o s op p a s' asked) :
    s'.stops = s.stops ∧ s'.callers = s.callers := by
  cases move with
  | register w =>
    cases held : s.lifecycle.live <;> simp only [State.register, State.releaseAny, held]
    all_goals exact ⟨rfl, rfl⟩
  | _ => exact ⟨rfl, rfl⟩

end StartMove

inductive StopPoint.Leads : StopPoint → StopPoint → Prop where
  | terminate (live : Live) : Leads (.created live) (.terminating live)
  | spare (live : Live) : Leads (.created live) .released
  | letGo (live : Live) : Leads (.terminating live) .released
  | clear : Leads .released .cleared
  | publish : Leads .cleared .done

namespace StopMove

variable {op : Nat} {p : StopPoint} {a : StopAct}

theorem leads (move : StopMove o s op p a s' asked) :
    ∃ p', s'.stops = s.stops.set op p' ∧ p.Leads p' := by
  cases move with
  | terminate => exact ⟨_, rfl, .terminate _⟩
  | spare => exact ⟨_, rfl, .spare _⟩
  | ended | outlast => exact ⟨_, rfl, .letGo _⟩
  | clear => exact ⟨_, rfl, .clear⟩
  | publish => exact ⟨_, rfl, .publish⟩

theorem frame (move : StopMove o s op p a s' asked) :
    s'.starts = s.starts ∧ s'.callers = s.callers := by
  cases move <;> exact ⟨rfl, rfl⟩

end StopMove

theorem MonitorMove.frame {i : Nat} {m : Monitor} (move : MonitorMove s i m s') :
    s'.starts = s.starts ∧ s'.stops = s.stops ∧ s'.callers = s.callers := by
  cases move <;> exact ⟨rfl, rfl, rfl⟩

/-- What a list of parts becomes in one step: one of them moves, or a new one comes after the others. -/
inductive Evolves {α : Type} (moves : Nat → α → α → Prop) (enters : α → Prop) (old : List α) :
    List α → Prop where
  | same : Evolves moves enters old old
  | set {i : Nat} {x y : α} (here : old[i]? = some x) (move : moves i x y) :
    Evolves moves enters old (old.set i y)
  | concat {x : α} (enter : enters x) : Evolves moves enters old (old ++ [x])

namespace Evolves

variable {α : Type} {moves : Nat → α → α → Prop} {enters : α → Prop} {old new : List α} {i : Nat}

theorem onward (h : Evolves moves enters old new) {x : α} (here : old[i]? = some x) :
    ∃ y, new[i]? = some y ∧ (y = x ∨ moves i x y) := by
  cases h with
  | same => exact ⟨x, here, .inl rfl⟩
  | @set j a y there move =>
    by_cases at_ : i = j
    · subst at_
      cases here.symm.trans there
      exact ⟨y, List.getElem?_set_self (List.getElem?_eq_some_iff.mp there).1, .inr move⟩
    · exact ⟨x, by rw [List.getElem?_set_ne (Ne.symm at_), here], .inl rfl⟩
  | concat enter =>
    have bound := (List.getElem?_eq_some_iff.mp here).1
    exact ⟨x, by rw [List.getElem?_append_left bound, here], .inl rfl⟩

theorem origin (h : Evolves moves enters old new) {y : α} (there : new[i]? = some y) :
    old[i]? = some y ∨ (∃ x, old[i]? = some x ∧ moves i x y) ∨ (i = old.length ∧ enters y) := by
  cases h with
  | same => exact .inl there
  | @set j x y' here move =>
    by_cases at_ : i = j
    · subst at_
      rw [List.getElem?_set_self (List.getElem?_eq_some_iff.mp here).1] at there
      cases there
      exact .inr (.inl ⟨x, here, move⟩)
    · rw [List.getElem?_set_ne (Ne.symm at_)] at there
      exact .inl there
  | @concat x enter =>
    rw [List.getElem?_append] at there
    split at there
    · exact .inl there
    · rename_i beyond
      rw [List.getElem?_singleton] at there
      split at there
      · cases there
        exact .inr (.inr ⟨by omega, enter⟩)
      · cases there

theorem length_le (h : Evolves moves enters old new) : old.length ≤ new.length := by
  cases h <;> simp

theorem imp {others : Nat → α → α → Prop} (h : Evolves moves enters old new)
    (also : ∀ {i x y}, moves i x y → others i x y) : Evolves others enters old new := by
  cases h with
  | same => exact .same
  | set here move => exact .set here (also move)
  | concat enter => exact .concat enter

theorem modify {f : α → α} (move : ∀ x, moves i x (f x)) :
    Evolves moves enters old (old.modify i f) := by
  cases here : old[i]? with
  | none =>
    have beyond := List.getElem?_eq_none_iff.mp here
    rw [List.modify_eq_self beyond]
    exact .same
  | some x =>
    have changed : old.modify i f = old.set i (f x) := by
      apply List.ext_getElem?
      intro j
      by_cases at_ : i = j
      · subst at_
        have bound := (List.getElem?_eq_some_iff.mp here).1
        simp [here, List.getElem?_set_self bound]
      · rw [List.getElem?_modify_ne _ _ at_, List.getElem?_set_ne at_]
    rw [changed]
    exact .set here (move x)

end Evolves

structure State.Creates (s : State) (i : Nat) (c : Caller) (a : CallerAct) (s' : State) (c' : Caller) :
    Prop where
  needed : c.point = .ensuring
  admitting : s.lifecycle.shuttingDown = false
  idle : s.lifecycle.phase = .idle
  act : a = .act
  created : s' = s.create
  joined : c' = { c with point := .awaitingStart s.starts.length }

namespace CallerMove

variable {i : Nat} {c c' : Caller} {a : CallerAct}

theorem callers (move : CallerMove o s i c a s' c' asked) : s'.callers = s.callers := by
  cases move <;> rfl

theorem starts (move : CallerMove o s i c a s' c' asked) :
    s'.starts = s.starts ∨ s.Creates i c a s' c' := by
  cases move with
  | create here admitting idle => exact .inr ⟨here, admitting, idle, rfl, rfl, rfl⟩
  | _ => exact .inl rfl

theorem stops (move : CallerMove o s i c a s' c' asked) :
    s'.stops = s.stops ∨ ∃ live, s.lifecycle.live = some live ∧
      s'.stops = s.stops ++ [.created live] := by
  cases move with
  | restart here ready held => exact .inr ⟨_, held, rfl⟩
  | halt here ready held => exact .inr ⟨_, held, rfl⟩
  | _ => exact .inl rfl

theorem unfinished (move : CallerMove o s i c a s' c' asked) :
    c.point ≠ .dropped ∧ ∀ r, c.point ≠ .returned r := by
  cases move with
  | drop waiting =>
    constructor
    · intro at_
      simp [State.isWaiting, at_] at waiting
    · intro r at_
      simp [State.isWaiting, at_] at waiting
  | stopped here => rcases here with here | here <;> simp [here]
  | _ => simp_all

end CallerMove

namespace State

theorem startOutcome?_eq_some_iff {op : Nat} {r : Except StartupError Unit} :
    s.startOutcome? op = some r ↔
      s.starts[op]? = some (.published r) ∨ (s.starts[op]? = some .died ∧ r = .error .aborted) := by
  unfold startOutcome?
  split
  · rename_i here
    simp [here]
  · rename_i here
    simp [here, eq_comm]
  · rename_i unpublished alive
    constructor
    · intro told
      cases told
    · rintro (here | ⟨here, _⟩)
      · exact absurd here (unpublished r)
      · exact absurd here alive

variable {l : Label}

theorem step_starts (taken : s.step o l = some (s', asked)) :
    Evolves (fun op p p' => ∃ a, l = .start op a ∧ StartMove o s op p a s' asked ∧ p.Leads p')
      (fun p => p = .created ∧ ∃ i c a s₁ c', l = .caller i a ∧ s.callers[i]? = some c ∧
        s' = s₁.setCaller i c' ∧ s.Creates i c a s₁ c') s.starts s'.starts := by
  cases step_move taken with
  | enter | worker => exact .same
  | start here move =>
    obtain ⟨p', starts, leads⟩ := move.leads
    rw [starts]
    exact .set here ⟨_, rfl, move, leads⟩
  | stop here move =>
    rw [move.frame.1]
    exact .same
  | monitor here pending ended move =>
    rw [move.frame.1]
    exact .same
  | caller here move =>
    rcases move.starts with same | ⟨needed, admitting, idle, rfl, rfl, rfl⟩
    · simp only [setCaller, same]
      exact .same
    · exact .concat ⟨rfl, _, _, _, _, _, rfl, here, rfl, needed, admitting, idle, rfl, rfl, rfl⟩

theorem step_stops (taken : s.step o l = some (s', asked)) :
    Evolves (fun op p p' => ∃ a, l = .stop op a ∧ StopMove o s op p a s' asked ∧ p.Leads p')
      (fun p => ∃ live, s.lifecycle.live = some live ∧ p = .created live) s.stops s'.stops := by
  cases step_move taken with
  | enter | worker => exact .same
  | start here move =>
    rw [move.frame.1]
    exact .same
  | stop here move =>
    obtain ⟨p', stops, leads⟩ := move.leads
    rw [stops]
    exact .set here ⟨_, rfl, move, leads⟩
  | monitor here pending ended move =>
    rw [move.frame.2.1]
    exact .same
  | caller here move =>
    rcases move.stops with same | ⟨live, held, more⟩
    · simp only [setCaller, same]
      exact .same
    · simp only [setCaller, more]
      exact .concat ⟨live, held, rfl⟩

theorem onWorker_length {w : Nat} {f : Child.Channel → Child.Channel} :
    (s.onWorker w f).workers.length = s.workers.length := List.length_modify ..

inductive Touches (asked : List Event) (w : Nat) (c : Child.Channel) : Child.Channel → Prop where
  | ask (mode : Child.Termination) (told : .terminate w mode ∈ asked) :
    Touches asked w c (c.terminate mode)
  | letGo : Touches asked w c c.dropHandle
  | move {c' : Child.Channel} (held : c.signalsOpen = true) (move : WorkerMove w c c' asked) :
    Touches asked w c c'

theorem release_workers {enters : Child.Channel → Prop} {live : Live} :
    Evolves (Touches asked) enters s.workers (s.release live).workers :=
  .modify fun _ => .letGo

theorem asked_workers {enters : Child.Channel → Prop} {live : Live} {e : Event} :
    Evolves (Touches [.terminate live.worker (.graceful o.stopTimeout), e]) enters s.workers
      (s.asked o live).workers :=
  .modify fun _ => .ask _ List.mem_cons_self

theorem register_workers {op w : Nat} :
    (s.register op w).workers = (s.releaseAny s.lifecycle.live).workers := rfl

theorem step_channels (taken : s.step o l = some (s', asked)) :
    Evolves (Touches asked) (fun c => ∃ pid, c = { pid }) s.workers s'.workers := by
  cases step_move taken with
  | enter => exact .same
  | start here move =>
    cases move with
    | spawn pid => exact .concat ⟨pid, rfl⟩
    | register w =>
      rw [register_workers]
      cases s.lifecycle.live with
      | none => exact .same
      | some live => exact release_workers
    | terminate => exact asked_workers
    | spare | ended | outlast => exact release_workers
    | _ => exact .same
  | stop here move =>
    cases move with
    | terminate => exact asked_workers
    | spare | ended | outlast => exact release_workers
    | _ => exact .same
  | monitor here pending ended move =>
    cases move with
    | pass => exact .same
    | demote => exact release_workers
  | caller here move =>
    cases move with
    | _ => exact .same
  | worker here held move => exact .set here (.move held move)

def Hears (asked : List Event) (w : Nat) (c c' : Child.Channel) : Prop :=
  c.Leads c' ∧ c'.requests.length ≤ c.requests.length + terminations asked w

theorem Touches.hears {w : Nat} {c c' : Child.Channel} (touches : Touches asked w c c') :
    Hears asked w c c' := by
  cases touches with
  | ask mode told =>
    have once : 0 < terminations asked w :=
      List.countP_pos_iff.mpr ⟨_, told, by simp [Event.isTerminate]⟩
    have few := c.terminate_requests mode
    exact ⟨.ask mode, by omega⟩
  | letGo => exact ⟨.letGo, Nat.le_add_right _ _⟩
  | move held move =>
    cases move with
    | receive next => exact ⟨.receive next, Child.Channel.receive?_requests next⟩
    | report exit => exact ⟨.report _, Nat.le_add_right _ _⟩
    | vanish => exact ⟨.vanish, Nat.le_add_right _ _⟩

theorem step_workers (taken : s.step o l = some (s', asked)) :
    Evolves (Hears asked) (fun c => ∃ pid, c = { pid }) s.workers s'.workers :=
  (step_channels taken).imp fun touches => touches.hears

theorem releaseAny_lifecycle {live : Option Live} : (s.releaseAny live).lifecycle = s.lifecycle := by
  cases live <;> rfl

theorem register_nextGeneration {op w : Nat} :
    (s.register op w).lifecycle.nextGeneration = s.lifecycle.nextGeneration + 1 := by
  show (s.releaseAny s.lifecycle.live).lifecycle.nextGeneration + 1 = _
  rw [releaseAny_lifecycle]

theorem step_nextGeneration (taken : s.step o l = some (s', asked)) :
    s.lifecycle.nextGeneration ≤ s'.lifecycle.nextGeneration := by
  cases step_move taken with
  | enter | worker => exact Nat.le_refl _
  | start here move =>
    cases move with
    | register w =>
      rw [register_nextGeneration]
      exact Nat.le_succ _
    | _ => exact Nat.le_refl _
  | stop here move => cases move <;> exact Nat.le_refl _
  | monitor here pending ended move => cases move <;> exact Nat.le_refl _
  | caller here move => cases move <;> exact Nat.le_refl _

theorem step_callers (taken : s.step o l = some (s', asked)) :
    Evolves (fun i c c' => ∃ a s₁, l = .caller i a ∧ s' = s₁.setCaller i c' ∧
        CallerMove o s i c a s₁ c' asked)
      (fun c => ∃ job, l = .enter job ∧ c = { job, point := entry job }) s.callers s'.callers := by
  cases step_move taken with
  | enter job => exact .concat ⟨job, rfl, rfl⟩
  | worker => exact .same
  | start here move =>
    rw [move.frame.2]
    exact .same
  | stop here move =>
    rw [move.frame.2]
    exact .same
  | monitor here pending ended move =>
    rw [move.frame.2.2]
    exact .same
  | @caller i c c' a s₁ asked here move =>
    have after : (s₁.setCaller i c').callers = s.callers.set i c' :=
      congrArg (·.set i c') move.callers
    rw [after]
    exact .set here ⟨_, _, rfl, rfl, move⟩

theorem step_died {op : Nat} (taken : s.step o l = some (s', asked))
    (here : s.starts[op]? = some .died) : s'.starts[op]? = some .died := by
  obtain ⟨p, there, rfl | ⟨_, _, _, leads⟩⟩ := (step_starts taken).onward here
  · exact there
  · exact leads.of_died.elim

/-- What is told of a start operation is told for good. -/
theorem step_startOutcome? {op : Nat} {r : Except StartupError Unit}
    (taken : s.step o l = some (s', asked)) (told : s.startOutcome? op = some r) :
    s'.startOutcome? op = some r := by
  rw [startOutcome?_eq_some_iff] at told ⊢
  rcases told with published | ⟨died, rfl⟩
  · obtain ⟨p, there, rfl | ⟨_, _, _, leads⟩⟩ := (step_starts taken).onward published
    · exact .inl there
    · exact leads.of_published.elim
  · exact .inr ⟨step_died taken died, rfl⟩

def hasEnded (s : State) (w : Nat) : Bool := s.workers[w]?.any Child.Channel.hasEnded

theorem hasEnded_of_outcome? {w : Nat} (told : (s.outcome? w).isSome) : s.hasEnded w = true := by
  unfold outcome? at told
  unfold hasEnded
  cases here : s.workers[w]? with
  | none => simp [here] at told
  | some c =>
    rw [here, Option.bind_some, Child.Channel.outcome?_isSome] at told
    exact told

theorem hasEnded_of_report? {w : Nat} (told : (s.report? w).isSome) : s.hasEnded w = true := by
  unfold report? at told
  unfold hasEnded
  cases here : s.workers[w]? with
  | none => simp [here] at told
  | some c =>
    rw [here, Option.bind_some] at told
    exact Child.Channel.hasEnded_of_report told

theorem step_hasEnded {w : Nat} (taken : s.step o l = some (s', asked))
    (ended : s.hasEnded w = true) : s'.hasEnded w = true := by
  unfold hasEnded at ended ⊢
  cases here : s.workers[w]? with
  | none => simp [here] at ended
  | some c =>
    rw [here] at ended
    obtain ⟨c', there, rfl | ⟨leads, _⟩⟩ := (step_workers taken).onward here
    · rw [there]
      exact ended
    · rw [there]
      exact leads.hasEnded ended

end State
end MissionWorker.Supervisor
