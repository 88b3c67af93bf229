import MissionWorker.Child.Shutdown
import MissionWorker.Proofs.Child.Escalation

namespace MissionWorker.Child
namespace Keeper

variable {k k₀ : Keeper} {c : Course} {trouble : Trouble} {limit : Nat} {failing : Bool}

def Reaches (k₀ k : Keeper) : Prop := ∃ acts, k₀.run acts = some k

theorem Reaches.refl (k : Keeper) : Reaches k k := ⟨[], rfl⟩

theorem Reaches.take (reaches : Reaches k₀ k) (a : Act) : Reaches k₀ (k.take a) := by
  unfold Keeper.take
  cases taken : k.step a with
  | none => exact reaches
  | some k' =>
    obtain ⟨acts, went⟩ := reaches
    exact ⟨acts ++ [a], run_concat_iff.mpr ⟨k, went, taken⟩⟩

theorem Reaches.catchUp (reaches : Reaches k₀ k) : Reaches k₀ (k.catchUp c) := by
  unfold Keeper.catchUp
  split
  · exact reaches.take _
  · exact reaches

theorem Reaches.await (reaches : Reaches k₀ k) : Reaches k₀ (k.await c failing limit) := by
  unfold Keeper.await
  split
  · exact reaches.take _
  · split
    · exact reaches.take _
    · split
      · exact ((reaches.take _).take _).take _
      · exact (reaches.take _).take _

theorem Reaches.killNow (reaches : Reaches k₀ k) : Reaches k₀ (k.killNow c trouble) := by
  simp only [Keeper.killNow]
  split
  · exact (reaches.take _).await
  · exact (reaches.take _).catchUp.take _

theorem Reaches.carryOut (reaches : Reaches k₀ k) : Reaches k₀ (k.carryOut c trouble) := by
  simp only [Keeper.carryOut]
  split
  · split
    · exact (reaches.take _).await.killNow
    · exact (reaches.take _).await
  · exact (reaches.take _).killNow

theorem settled_of_returned (waiting : k.point.isWaiting = true) (ended : k.ended.isSome = true) :
    ∃ result, (k.take .returned).point = .settled result := by
  obtain ⟨⟨t, exit⟩, ended⟩ := Option.isSome_iff_exists.mp ended
  exact ⟨.ok exit, by simp [take, step, waiting, ended, collect]⟩

theorem await_point (holds : Point → Prop) (waiting : k.point.isWaiting = true)
    (settles : ∀ result, holds (.settled result))
    (fails : k.collected = false → holds (k.take .failed).point)
    (lapses : ∀ now, limit ≤ now → k.ended = none → holds ({ k with now }.take .timeUp).point) :
    holds (k.await c failing limit).point := by
  have returns {k : Keeper} (waiting : k.point.isWaiting = true) (ended : k.ended.isSome = true) :
      holds (k.take .returned).point := by
    obtain ⟨result, settled⟩ := settled_of_returned waiting ended
    exact settled ▸ settles result
  unfold await
  split
  · rename_i failed
    exact fails (by simpa using (Bool.and_eq_true_iff.mp failed).2)
  · split
    · exact returns waiting ‹_›
    · rename_i ended
      have alive : k.ended = none := by simpa using ended
      split
      · rename_i time exit _
        have ends : (k.take (.pass (time - k.now))).take (.exits exit) =
            { k with now := k.now + (time - k.now), ended := some (k.now + (time - k.now), exit) } := by
          simp [take, step, alive]
        rw [ends]
        exact returns waiting rfl
      · exact lapses _ (by omega) alive

theorem await_of_lingering (at_ : k.point = .lingering limit) :
    (k.await c failing limit).point = .killing ∨
      ∃ result, (k.await c failing limit).point = .settled result := by
  refine await_point (fun p => p = .killing ∨ ∃ result, p = .settled result)
    (by rw [at_]; rfl) (fun result => .inr ⟨result, rfl⟩) ?_ ?_
  · intro open_
    simp [take, step, fail, open_, at_, goTo]
  · intro now due alive
    simp [take, step, alive, at_, due, goTo]

theorem await_of_reaping (at_ : k.point = .reaping limit) :
    ∃ result, (k.await c failing limit).point = .settled result := by
  refine await_point (fun p => ∃ result, p = .settled result) (by rw [at_]; rfl)
    (fun result => ⟨result, rfl⟩) ?_ ?_
  · intro open_
    exact ⟨.error .unattended, by simp [take, step, fail, open_, at_, goTo]⟩
  · intro now due alive
    exact ⟨.error .unresponsive, by simp [take, step, alive, at_, due, goTo]⟩

theorem killNow_settles (at_ : k.point = .killing) :
    ∃ result, (k.killNow c trouble).point = .settled result := by
  have looks {k : Keeper} (looking : k.point = .looking) :
      ∃ result, ((k.catchUp c).take .look).point = .settled result := by
    have still : (k.catchUp c).point = .looking := by
      unfold catchUp
      split
      · cases ended : k.ended <;> simpa [take, step, ended] using looking
      · exact looking
    cases ended : (k.catchUp c).ended with
    | none => exact ⟨.error .unkillable, by simp [take, step, still, ended, goTo]⟩
    | some end_ => exact ⟨.ok end_.2, by simp [take, step, still, ended, collect]⟩
  simp only [killNow]
  split
  · exact await_of_reaping ‹_›
  · rename_i other
    apply looks
    cases collected : k.collected
    · cases failing : trouble.kill
      · simp [take, step, at_, strike, collected, failing, goTo] at other
      · simp [take, step, at_, strike, collected, goTo]
    · simp [take, step, at_, strike, collected, goTo]

theorem carryOut_settles {mode : Termination} (at_ : k.point = .asked mode) :
    ∃ result, (k.carryOut c trouble).point = .settled result := by
  simp only [carryOut]
  split
  · rename_i lingering
    split
    · exact killNow_settles ‹_›
    · rename_i other
      exact (await_of_lingering lingering).resolve_left other
  · rename_i other
    apply killNow_settles
    cases mode with
    | force => simp [take, step, at_, start, goTo]
    | graceful patience => simp [take, step, at_, start, goTo] at other

end Keeper

open Keeper

theorem shutdown_reached (c : Course) (t : Trouble) (collected : Bool) (s : Signals) (now : Nat)
    (mode : Termination) :
    Reaches (handed (c.endedBy? s now) collected now mode) (shutdown c t collected s now mode) :=
  (Reaches.refl _).carryOut

theorem keep_reached (pid : Option Nat) (c : Course) (t : Trouble)
    (asked : Option (Nat × Termination)) : Reaches (launched pid) (keep pid c t asked) := by
  have begin := Reaches.refl (launched pid)
  simp only [keep]
  split
  · exact (((begin.take _).take _).take _).take _
  · exact (((begin.take _).take _).take _).carryOut.take _
  · exact begin

theorem shutdown_settles (c : Course) (t : Trouble) (collected : Bool) (s : Signals) (now : Nat)
    (mode : Termination) : ∃ result, (shutdown c t collected s now mode).point = .settled result :=
  carryOut_settles rfl

theorem done_of_settled {k : Keeper} (settled : ∃ result, k.point = .settled result) :
    ∃ result, (k.take .report).point = .done result := by
  obtain ⟨result, at_⟩ := settled
  exact ⟨result, by simp [Keeper.take, step, at_, goTo]⟩

theorem Course.ending?_unsignalled (c : Course) : c.ending? {} = c.alone := by
  unfold Course.ending?
  cases c.alone <;> rfl

theorem keep_done (pid : Option Nat) (c : Course) (t : Trouble) (asked : Option (Nat × Termination)) :
    (∃ result, (keep pid c t asked).point = .done result) ∨
      keep pid c t asked = launched pid ∧ asked = none ∧ c.alone = none := by
  simp only [keep]
  split
  · exact .inl (done_of_settled (settled_of_returned rfl rfl))
  · exact .inl (done_of_settled (carryOut_settles rfl))
  · rename_i ended
    exact .inr ⟨rfl, rfl, c.ending?_unsignalled ▸ ended⟩

theorem watch_eq_none_iff (pid : Option Nat) (c : Course) (t : Trouble)
    (asked : Option (Nat × Termination)) :
    watch pid c t asked = none ↔ asked = none ∧ c.alone = none := by
  obtain ⟨acts, went⟩ := keep_reached pid c t asked
  have sound := (Begins.launched pid).sound_of_run went
  constructor
  · intro silent
    rcases keep_done pid c t asked with ⟨result, at_⟩ | ⟨_, never⟩
    · have told := sound.reported
      rw [sound.reports, due, at_] at told
      simp [watch, told?, told] at silent
    · exact never
  · rintro ⟨rfl, alone⟩
    have ended : c.ending? {} = none := c.ending?_unsignalled.trans alone
    simp only [watch, keep, ended]
    rfl

/-- Whatever happens to a process and to its keeper, and in whatever order, the keeper does what it
may and gives a true account; and this is how `shutdown` and `keep` go. -/
theorem end_accounted :
    (∀ k₀, Begins k₀ → ∀ acts k, k₀.run acts = some k → Accounted k₀ acts k) ∧
    (∀ c t collected s now mode, Begins (handed (c.endedBy? s now) collected now mode) ∧
      Reaches (handed (c.endedBy? s now) collected now mode) (shutdown c t collected s now mode) ∧
      ∃ result, (shutdown c t collected s now mode).point = .settled result) ∧
    ∀ pid c t asked, Begins (launched pid) ∧ Reaches (launched pid) (keep pid c t asked) ∧
      (watch pid c t asked = none ↔ asked = none ∧ c.alone = none) := by
  refine ⟨fun k₀ begins acts k went => begins.accounted went, ?_, ?_⟩
  · intro c t collected s now mode
    have past : ∀ u exit, c.endedBy? s now = some (u, exit) → u ≤ now := by
      intro u exit ended
      simpa using (Option.filter_eq_some_iff.mp ended).2
    exact ⟨.handed collected mode past, shutdown_reached .., shutdown_settles ..⟩
  · intro pid c t asked
    exact ⟨.launched pid, keep_reached pid c t asked, watch_eq_none_iff pid c t asked⟩

/-- A process lets its patience run out and ends by itself just before it is killed. -/
theorem end_accounted_at_last_moment : ∃ acts k, (launched (some 7)).run acts = some k ∧
    k.order = some (10, .graceful 300) ∧
    k.deeds = [(10, .request true), (310, .kill false),
      (310, .report { pid := some 7, exit := .code 3 })] ∧
    k.requests ≤ 1 ∧ k.reports = [{ pid := some 7, exit := .code 3 }] ∧
    ∃ t ≤ 310, k.ended = some (t, .code 3) := by
  let acts : List Act := [.pass 10, .terminate (.graceful 300), .terminate .force, .receive,
    .begin true, .pass 300, .timeUp, .exits (.code 3), .kill false, .look, .report]
  have accounted := end_accounted.1 (launched (some 7)) (.launched _) acts _ rfl
  exact ⟨acts, _, rfl, rfl, rfl, accounted.requests, accounted.reports, accounted.found rfl⟩

end MissionWorker.Child
