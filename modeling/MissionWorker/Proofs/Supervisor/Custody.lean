import MissionWorker.Proofs.Supervisor.Handover

namespace MissionWorker.Supervisor

variable {o : Options} {s s' : State} {l : Label} {asked more : List Event} {op w : Nat}

theorem terminations_append (asked more : List Event) (w : Nat) :
    terminations (asked ++ more) w = terminations asked w + terminations more w := List.countP_append

theorem terminations_eq_zero (unasked : ∀ mode, .terminate w mode ∉ asked) : terminations asked w = 0 := by
  refine List.countP_eq_zero.mpr fun e member => ?_
  cases e with
  | terminate worker mode =>
    by_cases same : worker = w
    · subst same
      exact absurd member (unasked mode)
    · simp [Event.isTerminate, same]
  | _ => simp [Event.isTerminate]

theorem terminations_ask {mode : Child.Termination} {e : Event} (quiet : e.isFarewell = false)
    (v : Nat) : terminations (asked ++ [.terminate w mode, e]) v =
      terminations asked v + if w = v then 1 else 0 := by
  have other : Event.isTerminate v e = false := by
    cases e with
    | terminate => cases quiet
    | _ => rfl
  have mine : Event.isTerminate v (.terminate w mode) = (w == v) := rfl
  simp [terminations, List.countP_cons, mine, other]

/-- What is known of every worker from what was asked and who holds its handle. -/
structure Accounted (o : Options) (asked : List Event) (s : State) : Prop where
  held : ∀ {w : Nat} {once : Bool}, s.Holds (w, once) →
    terminations asked w = once.toNat ∧ .outlasted w ∉ asked ∧ w < s.workers.length
  once : ∀ w, terminations asked w ≤ 1
  gracefully : ∀ {w : Nat} {mode : Child.Termination}, .terminate w mode ∈ asked →
    mode = .graceful o.stopTimeout ∧ w < s.workers.length
  outlasted : ∀ {w : Nat}, .outlasted w ∈ asked → 0 < terminations asked w
  placed : ∀ {w : Nat}, w < s.workers.length →
    s.hasEnded w = true ∨ (∃ once, s.Holds (w, once)) ∨ .outlasted w ∈ asked

namespace Accounted

theorem new : Accounted o [] {} where
  held := by
    rintro w once ⟨k, held⟩
    cases k <;> simp [State.held?] at held
  once := fun _ => Nat.zero_le 1
  gracefully := by simp
  outlasted := by simp
  placed := by simp

theorem unasked_of_beyond (h : Accounted o asked s) (beyond : s.workers.length ≤ w) :
    terminations asked w = 0 ∧ .outlasted w ∉ asked := by
  have unasked : terminations asked w = 0 := by
    refine terminations_eq_zero fun mode member => ?_
    have known := (h.gracefully member).2
    omega
  refine ⟨unasked, fun member => ?_⟩
  have times := h.outlasted member
  omega

theorem still (h : Accounted o asked s) (same : ∀ handle, s'.Holds handle ↔ s.Holds handle)
    (workers : s'.workers.length = s.workers.length) (quiet : ∀ e ∈ more, e.isFarewell = false)
    (lasts : ∀ w, s.hasEnded w = true → s'.hasEnded w = true) : Accounted o (asked ++ more) s' := by
  have old {e : Event} (farewell : e.isFarewell = true) (member : e ∈ asked ++ more) : e ∈ asked := by
    rcases List.mem_append.mp member with member | member
    · exact member
    · simp [quiet e member] at farewell
  have count (w : Nat) : terminations (asked ++ more) w = terminations asked w := by
    have silent : terminations more w = 0 :=
      terminations_eq_zero fun mode member => by simpa [Event.isFarewell] using quiet _ member
    rw [terminations_append, silent, Nat.add_zero]
  constructor
  · intro w once held
    rw [count, workers]
    obtain ⟨times, waited, bound⟩ := h.held ((same _).mp held)
    exact ⟨times, fun member => waited (old rfl member), bound⟩
  · intro w
    rw [count]
    exact h.once w
  · intro w mode member
    rw [workers]
    exact h.gracefully (old rfl member)
  · intro w member
    rw [count]
    exact h.outlasted (old rfl member)
  · intro w bound
    rw [workers] at bound
    rcases h.placed bound with ended | ⟨once, held⟩ | waited
    · exact .inl (lasts w ended)
    · exact .inr (.inl ⟨once, (same _).mpr held⟩)
    · exact .inr (.inr (List.mem_append_left _ waited))

theorem spawn (h : Accounted o asked s) (before : ∀ handle, ¬ s.Holds handle)
    (after : ∀ handle, s'.Holds handle ↔ handle = (s.workers.length, false))
    (workers : s'.workers.length = s.workers.length + 1)
    (lasts : ∀ w, s.hasEnded w = true → s'.hasEnded w = true) : Accounted o asked s' where
  held := by
    intro w once held
    cases (after _).mp held
    obtain ⟨times, waited⟩ := h.unasked_of_beyond (Nat.le_refl s.workers.length)
    exact ⟨times, waited, by omega⟩
  once := h.once
  gracefully := by
    intro w mode member
    obtain ⟨politely, bound⟩ := h.gracefully member
    exact ⟨politely, by omega⟩
  outlasted := h.outlasted
  placed := by
    intro w bound
    by_cases new : w = s.workers.length
    · exact .inr (.inl ⟨false, (after _).mpr (by rw [new])⟩)
    · rcases h.placed (w := w) (by omega) with ended | ⟨once, held⟩ | waited
      · exact .inl (lasts w ended)
      · exact absurd held (before _)
      · exact .inr (.inr waited)

theorem placed_of_held (h : Accounted o asked s) (coherent : Coherent s) {once : Bool} {v : Nat}
    (held : s.Holds (w, once)) (inside : v < s.workers.length) :
    s.hasEnded v = true ∨ v = w ∨ .outlasted v ∈ asked := by
  rcases h.placed inside with ended | ⟨_, other⟩ | waited
  · exact .inl ended
  · cases coherent.holds_unique held other
    exact .inr (.inl rfl)
  · exact .inr (.inr waited)

theorem ask (h : Accounted o asked s) (coherent : Coherent s) {e : Event}
    (before : s.Holds (w, false)) (after : ∀ handle, s'.Holds handle ↔ handle = (w, true))
    (workers : s'.workers.length = s.workers.length) (quiet : e.isFarewell = false)
    (lasts : ∀ w, s.hasEnded w = true → s'.hasEnded w = true) :
    Accounted o (asked ++ [.terminate w (.graceful o.stopTimeout), e]) s' := by
  obtain ⟨times, waited, bound⟩ := h.held before
  have count (v : Nat) : terminations (asked ++ [.terminate w (.graceful o.stopTimeout), e]) v =
      terminations asked v + if w = v then 1 else 0 := terminations_ask quiet v
  have old {v : Nat} (member : .outlasted v ∈ asked ++ [.terminate w (.graceful o.stopTimeout), e]) :
      .outlasted v ∈ asked := by
    rcases List.mem_append.mp member with member | member
    · exact member
    · simp only [List.mem_cons, reduceCtorEq, List.not_mem_nil, or_false, false_or] at member
      subst member
      cases quiet
  constructor
  · intro v once held
    cases (after _).mp held
    rw [count, times, workers]
    exact ⟨by simp, fun member => waited (old member), bound⟩
  · intro v
    have few := h.once v
    rw [count]
    split
    · rename_i same
      subst same
      rw [times]
      exact Nat.le_refl _
    · exact few
  · intro v mode member
    rw [workers]
    rcases List.mem_append.mp member with member | member
    · exact h.gracefully member
    · simp only [List.mem_cons, Event.terminate.injEq, List.not_mem_nil, or_false] at member
      rcases member with ⟨rfl, rfl⟩ | rfl
      · exact ⟨rfl, bound⟩
      · cases quiet
  · intro v member
    have often := h.outlasted (old member)
    rw [count]
    omega
  · intro v inside
    rw [workers] at inside
    rcases h.placed_of_held coherent before inside with ended | rfl | gone
    · exact .inl (lasts v ended)
    · exact .inr (.inl ⟨true, (after _).mpr rfl⟩)
    · exact .inr (.inr (List.mem_append_left _ gone))

theorem letGo (h : Accounted o asked s) (coherent : Coherent s) {once : Bool}
    (before : s.Holds (w, once)) (after : ∀ handle, ¬ s'.Holds handle)
    (ended : s.hasEnded w = true) (workers : s'.workers.length = s.workers.length)
    (lasts : ∀ w, s.hasEnded w = true → s'.hasEnded w = true) : Accounted o asked s' where
  held := fun held => absurd held (after _)
  once := h.once
  gracefully := by
    intro v mode member
    rw [workers]
    exact h.gracefully member
  outlasted := h.outlasted
  placed := by
    intro v inside
    rw [workers] at inside
    rcases h.placed_of_held coherent before inside with final | rfl | gone
    · exact .inl (lasts v final)
    · exact .inl (lasts v ended)
    · exact .inr (.inr gone)

theorem outlast (h : Accounted o asked s) (coherent : Coherent s) (before : s.Holds (w, true))
    (after : ∀ handle, ¬ s'.Holds handle) (workers : s'.workers.length = s.workers.length)
    (lasts : ∀ w, s.hasEnded w = true → s'.hasEnded w = true) :
    Accounted o (asked ++ [.outlasted w]) s' := by
  obtain ⟨times, waited, bound⟩ := h.held before
  have count (v : Nat) : terminations (asked ++ [.outlasted w]) v = terminations asked v := by
    simp [terminations, Event.isTerminate]
  constructor
  · exact fun held => absurd held (after _)
  · intro v
    rw [count]
    exact h.once v
  · intro v mode member
    rw [workers]
    rcases List.mem_append.mp member with member | member
    · exact h.gracefully member
    · simp at member
  · intro v member
    rw [count]
    rcases List.mem_append.mp member with member | member
    · exact h.outlasted member
    · cases List.mem_singleton.mp member
      rw [times]
      exact Nat.one_pos
  · intro v inside
    rw [workers] at inside
    rcases h.placed_of_held coherent before inside with final | rfl | gone
    · exact .inl (lasts v final)
    · exact .inr (.inr (List.mem_append_right _ (List.mem_singleton.mpr rfl)))
    · exact .inr (.inr (List.mem_append_left _ gone))

theorem step (h : Accounted o asked s) (reachable : Reachable o s)
    (taken : s.step o l = some (s', more)) : Accounted o (asked ++ more) s' := by
  have coherent := reachable.coherent
  have lasts (w : Nat) (ended : s.hasEnded w = true) : s'.hasEnded w = true :=
    State.step_hasEnded taken ended
  cases reachable.handover taken with
  | still same workers quiet => exact h.still same workers quiet lasts
  | spawn before after workers =>
    rw [List.append_nil]
    exact h.spawn before after workers lasts
  | ask before after workers quiet => exact h.ask coherent before after workers quiet lasts
  | letGo before after ended workers =>
    rw [List.append_nil]
    exact h.letGo coherent before after ended workers lasts
  | outlast before after workers => exact h.outlast coherent before after workers lasts

end Accounted

theorem History.accounted (history : History o asked s) : Accounted o asked s := by
  induction history using History.induction with
  | new => exact .new
  | kept history h taken => exact h.step (Reachable.iff_history.mpr ⟨_, history⟩) taken

/-- No channel holds a request that was not asked. -/
theorem History.requests (history : History o asked s) :
    ∀ {w : Nat} {c : Child.Channel}, s.workers[w]? = some c →
      c.requests.length ≤ terminations asked w := by
  induction history using History.induction with
  | new => simp
  | kept _ few taken =>
    intro w c there
    rw [terminations_append]
    rcases (State.step_workers taken).origin there with old | ⟨before, here, _, heard⟩ | ⟨_, _, rfl⟩
    · exact Nat.le_trans (few old) (Nat.le_add_right _ _)
    · have known := few here
      omega
    · exact Nat.zero_le _

end MissionWorker.Supervisor
