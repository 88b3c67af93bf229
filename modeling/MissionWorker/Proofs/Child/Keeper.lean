import Mathlib.Data.List.Induction
import MissionWorker.Child.Keeper
import MissionWorker.Proofs.Child.Observers

namespace MissionWorker.Child

def Deed.isRequest : Deed → Bool
  | .request _ => true
  | _ => false

def Deed.report? : Deed → Option Report
  | .report told => some told
  | _ => none

namespace Keeper

variable {k k' k₀ : Keeper} {a : Act} {acts : List Act} {t : Nat} {d : Deed}

@[simp] theorem deeds_goTo (k : Keeper) (p : Point) : (k.goTo p).deeds = k.deeds := rfl

@[simp] theorem deeds_note (k : Keeper) (d : Deed) : (k.note d).deeds = k.deeds ++ [(k.now, d)] := rfl

@[simp] theorem deeds_collect (k : Keeper) (exit : Exit) : (k.collect exit).deeds = k.deeds := rfl

/-- All that an act can come to. -/
inductive Move (k : Keeper) : Act → Keeper → Prop where
  | pass (time : Nat) : Move k (.pass time) { k with now := k.now + time }
  | exits (exit : Exit) (alive : k.ended = none) :
    Move k (.exits exit) { k with ended := some (k.now, exit) }
  | terminate (mode : Termination) (held : k.channel.handleOpen = true) :
    Move k (.terminate mode) { k with channel := k.channel.terminate mode }
  | dropHandle (held : k.channel.handleOpen = true) :
    Move k .dropHandle { k with channel := k.channel.dropHandle }
  | collect {time : Nat} {exit : Exit} (a : Act) (own : a.isOwn = true)
    (at_ : k.point.isWaiting = true ∨ k.point = .looking) (ended : k.ended = some (time, exit)) :
    Move k a (k.collect exit)
  | stray (at_ : k.point = .watching) (open_ : k.collected = false) :
    Move k .failed ((k.note .waitFailed).goTo (.settled (.error .astray)))
  | hurry {limit : Nat} (at_ : k.point = .lingering limit) (open_ : k.collected = false) :
    Move k .failed ((k.note .waitFailed).goTo .killing)
  | lookAway (at_ : k.point = .looking) (open_ : k.collected = false) :
    Move k .failed ((k.note .lookFailed).goTo (.settled (.error .unkillable)))
  | abandon {limit : Nat} (at_ : k.point = .reaping limit) (open_ : k.collected = false) :
    Move k .failed ((k.note .waitFailed).goTo (.settled (.error .unattended)))
  | escalate {limit : Nat} (at_ : k.point = .lingering limit) (alive : k.ended = none)
    (due : limit ≤ k.now) : Move k .timeUp (k.goTo .killing)
  | outlast {limit : Nat} (at_ : k.point = .reaping limit) (alive : k.ended = none)
    (due : limit ≤ k.now) : Move k .timeUp (k.goTo (.settled (.error .unresponsive)))
  | receive {mode : Termination} {channel : Channel} (at_ : k.point = .watching)
    (next : k.channel.receive? = some (mode, channel)) :
    Move k .receive { k with channel, order := some (k.now, mode), point := .asked mode }
  | force (delivered : Bool) (at_ : k.point = .asked .force) :
    Move k (.begin delivered) (k.goTo .killing)
  | request {patience : Nat} (delivered : Bool) (at_ : k.point = .asked (.graceful patience))
    (open_ : k.collected = false) : Move k (.begin delivered)
      ((k.note (.request delivered)).goTo (.lingering (k.now + patience)))
  | spare {patience : Nat} (delivered : Bool) (at_ : k.point = .asked (.graceful patience))
    (collected : k.collected = true) :
    Move k (.begin delivered) (k.goTo (.lingering (k.now + patience)))
  | kill (at_ : k.point = .killing) (open_ : k.collected = false) :
    Move k (.kill true) ((k.note (.kill true)).goTo (.reaping (k.now + killPatience)))
  | miss (at_ : k.point = .killing) (open_ : k.collected = false) :
    Move k (.kill false) ((k.note (.kill false)).goTo .looking)
  | late (delivered : Bool) (at_ : k.point = .killing) (collected : k.collected = true) :
    Move k (.kill delivered) (k.goTo .looking)
  | despair (at_ : k.point = .looking) (alive : k.ended = none) :
    Move k .look (k.goTo (.settled (.error .unkillable)))
  | report {result : Except Loss Exit} (at_ : k.point = .settled result) :
    Move k .report (({ k with channel := k.channel.reportExit (k.account result) }.note
      (.report (k.account result))).goTo (.done result))

theorem fail_move (taken : k.fail = some k') : Move k .failed k' := by
  unfold fail at taken
  split at taken
  · cases taken
  · rename_i uncollected
    have open_ : k.collected = false := by simpa using uncollected
    split at taken <;> cases taken
    · exact .stray ‹_› open_
    · exact .hurry ‹_› open_
    · exact .lookAway ‹_› open_
    · exact .abandon ‹_› open_

theorem start_move {mode : Termination} (delivered : Bool) (at_ : k.point = .asked mode) :
    Move k (.begin delivered) (k.start delivered mode) := by
  cases mode with
  | force => exact .force delivered at_
  | graceful patience =>
    cases collected : k.collected with
    | true => simpa [start, collected] using Move.spare delivered at_ collected
    | false => simpa [start, collected] using Move.request delivered at_ collected

theorem strike_move (delivered : Bool) (at_ : k.point = .killing) :
    Move k (.kill delivered) (k.strike delivered) := by
  cases collected : k.collected with
  | true => simpa [strike, collected] using Move.late delivered at_ collected
  | false =>
    cases delivered with
    | true => simpa [strike, collected] using Move.kill at_ collected
    | false => simpa [strike, collected] using Move.miss at_ collected

theorem returned_move (taken : k.step .returned = some k') : Move k .returned k' := by
  simp only [step] at taken
  split at taken
  · rename_i waiting
    obtain ⟨⟨time, exit⟩, ended, rfl⟩ := Option.map_eq_some_iff.mp taken
    exact .collect _ rfl (.inl waiting) ended
  · cases taken

theorem timeUp_move (taken : k.step .timeUp = some k') : Move k .timeUp k' := by
  simp only [step] at taken
  split at taken
  · cases taken
  · rename_i ended
    have alive : k.ended = none := by simpa using ended
    split at taken
    · split at taken <;> cases taken
      exact .escalate ‹_› alive ‹_›
    · split at taken <;> cases taken
      exact .outlast ‹_› alive ‹_›
    · cases taken

theorem look_move (taken : k.step .look = some k') : Move k .look k' := by
  simp only [step] at taken
  split at taken
  · split at taken <;> cases taken
    · exact .collect _ rfl (.inr ‹_›) ‹_›
    · exact .despair ‹_› ‹_›
  · cases taken

theorem step_move (taken : k.step a = some k') : Move k a k' := by
  cases a with
  | pass time =>
    cases taken
    exact .pass time
  | exits exit =>
    simp only [step] at taken
    split at taken <;> cases taken
    exact .exits exit (by simpa using ‹¬ k.ended.isSome = true›)
  | terminate mode =>
    simp only [step] at taken
    split at taken <;> cases taken
    exact .terminate mode ‹_›
  | dropHandle =>
    simp only [step] at taken
    split at taken <;> cases taken
    exact .dropHandle ‹_›
  | returned => exact returned_move taken
  | failed => exact fail_move taken
  | timeUp => exact timeUp_move taken
  | receive =>
    simp only [step] at taken
    split at taken
    · obtain ⟨⟨mode, channel⟩, next, rfl⟩ := Option.map_eq_some_iff.mp taken
      exact .receive ‹_› next
    · cases taken
  | begin delivered =>
    simp only [step] at taken
    split at taken <;> cases taken
    exact start_move delivered ‹_›
  | kill delivered =>
    simp only [step] at taken
    split at taken <;> cases taken
    exact strike_move delivered ‹_›
  | look => exact look_move taken
  | report =>
    simp only [step] at taken
    split at taken <;> cases taken
    exact .report ‹_›

theorem run_append (k : Keeper) (before later : List Act) :
    k.run (before ++ later) = (k.run before).bind fun k => k.run later := by
  induction before generalizing k with
  | nil => rfl
  | cons a rest ih =>
    simp only [List.cons_append, run, Option.bind_assoc]
    exact congrArg _ (funext fun k => ih k)

theorem run_concat_iff : k.run (acts ++ [a]) = some k' ↔
    ∃ between, k.run acts = some between ∧ between.step a = some k' := by
  rw [run_append, Option.bind_eq_some_iff]
  simp [run]

theorem run_induction {motive : List Act → Keeper → Prop} (new : motive [] k₀)
    (kept : ∀ {acts k a k'}, k₀.run acts = some k → motive acts k → k.step a = some k' →
      motive (acts ++ [a]) k')
    (went : k₀.run acts = some k) : motive acts k := by
  induction acts using List.reverseRecOn generalizing k with
  | nil =>
    cases went
    exact new
  | append_singleton acts a ih =>
    obtain ⟨between, before, taken⟩ := run_concat_iff.mp went
    exact kept before (ih before) taken

structure Meanwhile (k k' : Keeper) : Prop where
  point : k'.point = k.point
  collected : k'.collected = k.collected
  order : k'.order = k.order
  deeds : k'.deeds = k.deeds
  now : k.now ≤ k'.now
  ended : k'.ended = k.ended ∨ k.ended = none ∧ ∃ exit, k'.ended = some (k'.now, exit)
  pid : k'.channel.pid = k.channel.pid
  report : k'.channel.report = k.channel.report

theorem Move.meanwhile (move : Move k a k') (other : a.isOwn = false) : Meanwhile k k' := by
  cases move with
  | pass time =>
    exact ⟨rfl, rfl, rfl, rfl, Nat.le_add_right _ _, .inl rfl, rfl, rfl⟩
  | exits exit alive =>
    exact ⟨rfl, rfl, rfl, rfl, Nat.le_refl _, .inr ⟨alive, exit, rfl⟩, rfl, rfl⟩
  | terminate mode held =>
    obtain ⟨requests, asked⟩ : ∃ requests, k.channel.terminate mode = { k.channel with requests } := by
      unfold Channel.terminate
      split <;> exact ⟨_, rfl⟩
    rw [asked]
    exact ⟨rfl, rfl, rfl, rfl, Nat.le_refl _, .inl rfl, rfl, rfl⟩
  | dropHandle held =>
    exact ⟨rfl, rfl, rfl, rfl, Nat.le_refl _, .inl rfl, rfl, rfl⟩
  | collect a own at_ ended => cases own.symm.trans other
  | _ => cases other

theorem Meanwhile.ended_eq (meanwhile : Meanwhile k k') {exit : Exit}
    (ended : k'.ended = some (t, exit)) :
    k.ended = some (t, exit) ∨ k.ended = none ∧ t = k'.now := by
  rcases meanwhile.ended with same | ⟨alive, exit', new⟩
  · exact .inl (same.symm.trans ended)
  · cases new.symm.trans ended
    exact .inr ⟨alive, rfl⟩

theorem Meanwhile.ended_of (meanwhile : Meanwhile k k') {exit : Exit}
    (ended : k.ended = some (t, exit)) : k'.ended = some (t, exit) := by
  rcases meanwhile.ended with same | ⟨alive, _⟩
  · exact same.trans ended
  · cases alive.symm.trans ended

/-- A polite request went out as it was ordered, and is patient up to a time. -/
def Requested (k : Keeper) (limit : Nat) : Prop :=
  ∃ t patience u delivered, k.order = some (t, .graceful patience) ∧
    (u, .request delivered) ∈ k.deeds ∧ t ≤ u ∧ u + patience = limit

inductive Ripe (k : Keeper) : Prop where
  | ordered {t : Nat} (order : k.order = some (t, .force))
  | patient {limit : Nat} (requested : k.Requested limit) (due : limit ≤ k.now)
    (alive : ∀ t exit, k.ended = some (t, exit) → limit ≤ t)
  | unwaited {t : Nat} (failed : (t, .waitFailed) ∈ k.deeds)

def Known (k : Keeper) : Point → Prop
  | .watching => k.order = none ∧ k.deeds = []
  | .asked mode => (∃ t ≤ k.now, k.order = some (t, mode)) ∧ k.deeds = []
  | .lingering limit => k.collected = true ∨ k.Requested limit
  | .killing => k.Ripe
  | .looking => k.collected = true ∨ ∃ t, (t, .kill false) ∈ k.deeds
  | .reaping limit => ∃ t, (t, .kill true) ∈ k.deeds ∧ t + killPatience ≤ limit
  | .settled result | .done result => ∀ exit, result = .ok exit → ∃ t, k.ended = some (t, exit)

theorem Meanwhile.requested {limit : Nat} (meanwhile : Meanwhile k k') (known : k.Requested limit) :
    k'.Requested limit := by
  rw [Requested, meanwhile.order, meanwhile.deeds]
  exact known

theorem Meanwhile.ripe (meanwhile : Meanwhile k k') (ripe : k.Ripe) : k'.Ripe := by
  cases ripe with
  | ordered order => exact .ordered (meanwhile.order.trans order)
  | patient requested due alive =>
    refine .patient (meanwhile.requested requested) (Nat.le_trans due meanwhile.now) ?_
    intro t exit ended
    rcases meanwhile.ended_eq ended with before | ⟨_, rfl⟩
    · exact alive t exit before
    · exact Nat.le_trans due meanwhile.now
  | unwaited failed => exact .unwaited (meanwhile.deeds ▸ failed)

theorem Meanwhile.known {p : Point} (meanwhile : Meanwhile k k') (known : k.Known p) :
    k'.Known p := by
  cases p with
  | watching => exact ⟨meanwhile.order.trans known.1, meanwhile.deeds.trans known.2⟩
  | asked mode =>
    obtain ⟨⟨t, le, order⟩, deeds⟩ := known
    exact ⟨⟨t, Nat.le_trans le meanwhile.now, meanwhile.order.trans order⟩,
      meanwhile.deeds.trans deeds⟩
  | lingering limit => exact known.imp meanwhile.collected.trans meanwhile.requested
  | killing => exact meanwhile.ripe known
  | looking =>
    rw [Known, meanwhile.collected, meanwhile.deeds]
    exact known
  | reaping limit =>
    rw [Known, meanwhile.deeds]
    exact known
  | settled result | done result =>
    intro exit ok
    obtain ⟨t, ended⟩ := known exit ok
    exact ⟨t, meanwhile.ended_of ended⟩

theorem known_lost (k : Keeper) (loss : Loss) : k.Known (.settled (.error loss)) := by
  intro exit ok
  cases ok

theorem mem_note (k : Keeper) (d : Deed) : (k.now, d) ∈ (k.note d).deeds := by
  simp [note]

def requests (k : Keeper) : Nat := k.deeds.countP (·.2.isRequest)

def reports (k : Keeper) : List Report := k.deeds.filterMap (·.2.report?)

def due (k : Keeper) : List Report :=
  match k.point with
  | .done result => [k.account result]
  | _ => []

/-- What always holds of a keeper. -/
structure Sound (k : Keeper) : Prop where
  past : ∀ t exit, k.ended = some (t, exit) → t ≤ k.now
  collected : k.collected = true → k.ended.isSome = true
  requests : k.requests ≤ 1
  reports : k.reports = k.due
  reported : k.channel.report = k.reports.head?
  known : k.Known k.point

theorem Sound.uncollected (sound : k.Sound) (alive : k.ended = none) : k.collected = false := by
  cases collected : k.collected with
  | false => rfl
  | true =>
    have ended := sound.collected collected
    rw [alive] at ended
    cases ended

theorem Meanwhile.sound (meanwhile : Meanwhile k k') (sound : k.Sound) : k'.Sound where
  past t exit ended := by
    rcases meanwhile.ended_eq ended with before | ⟨_, rfl⟩
    · exact Nat.le_trans (sound.past t exit before) meanwhile.now
    · exact Nat.le_refl _
  collected collected := by
    obtain ⟨⟨t, exit⟩, ended⟩ :=
      Option.isSome_iff_exists.mp (sound.collected (meanwhile.collected.symm.trans collected))
    rw [meanwhile.ended_of ended]
    rfl
  requests := by
    rw [Keeper.requests, meanwhile.deeds]
    exact sound.requests
  reports := by
    have same : k'.due = k.due := by simp only [due, account, meanwhile.point, meanwhile.pid]
    rw [same, Keeper.reports, meanwhile.deeds]
    exact sound.reports
  reported := by
    rw [meanwhile.report, Keeper.reports, meanwhile.deeds]
    exact sound.reported
  known := meanwhile.point ▸ meanwhile.known sound.known

@[simp] theorem requests_note (k : Keeper) (d : Deed) :
    (k.note d).requests = k.requests + if d.isRequest then 1 else 0 := by
  simp [requests, note, List.countP_singleton]

@[simp] theorem reports_note (k : Keeper) (d : Deed) :
    (k.note d).reports = k.reports ++ d.report?.toList := by
  cases d <;> simp [reports, note, Deed.report?]

theorem requests_of_idle (deeds : k.deeds = []) : k.requests = 0 := by
  simp [requests, deeds]

theorem Ripe.goTo (ripe : k.Ripe) (p : Point) : (k.goTo p).Ripe := by
  cases ripe with
  | ordered order => exact .ordered order
  | patient requested due alive => exact .patient requested due alive
  | unwaited failed => exact .unwaited failed

theorem Known.goTo {p : Point} (known : k.Known p) : (k.goTo p).Known p := by
  cases p with
  | killing => exact Ripe.goTo known _
  | _ => exact known

theorem Sound.goTo {p : Point} (sound : k.Sound) (before : k.due = []) (after : (k.goTo p).due = [])
    (known : k.Known p) : (k.goTo p).Sound where
  past := sound.past
  collected := sound.collected
  requests := sound.requests
  reports := (sound.reports.trans before).trans after.symm
  reported := sound.reported
  known := Known.goTo known

theorem Sound.does {p : Point} (sound : k.Sound) (before : k.due = [])
    (after : ((k.note d).goTo p).due = []) (quiet : d.report? = none)
    (first : d.isRequest = true → k.deeds = []) (known : (k.note d).Known p) :
    ((k.note d).goTo p).Sound where
  past := sound.past
  collected := sound.collected
  requests := by
    have few := sound.requests
    change (k.note d).requests ≤ 1
    rw [requests_note]
    split
    · exact (requests_of_idle (first ‹_›)).symm ▸ Nat.le_refl 1
    · exact few
  reports := by
    rw [after]
    change (k.note d).reports = []
    rw [reports_note, sound.reports, before, quiet]
    rfl
  reported := by
    change k.channel.report = (k.note d).reports.head?
    rw [reports_note, quiet, Option.toList_none, List.append_nil]
    exact sound.reported
  known := Known.goTo known

theorem Sound.collect {exit : Exit} (sound : k.Sound) (before : k.due = [])
    (ended : k.ended = some (t, exit)) : (k.collect exit).Sound where
  past := sound.past
  collected _ := by
    change k.ended.isSome = true
    rw [ended]
    rfl
  requests := sound.requests
  reports := sound.reports.trans before
  reported := sound.reported
  known := by
    intro exit' same
    cases same
    exact ⟨t, ended⟩

theorem Sound.receive {mode : Termination} {channel : Channel} (sound : k.Sound)
    (at_ : k.point = .watching) (next : k.channel.receive? = some (mode, channel)) :
    { k with channel, order := some (k.now, mode), point := .asked mode : Keeper }.Sound where
  past := sound.past
  collected := sound.collected
  requests := sound.requests
  reports := sound.reports.trans (by simp [due, at_])
  reported := by
    obtain ⟨requests, rfl⟩ := Channel.receive?_of_other next
    exact sound.reported
  known := by
    have known := sound.known
    rw [at_] at known
    exact ⟨⟨k.now, Nat.le_refl _, rfl⟩, known.2⟩

theorem Sound.report {result : Except Loss Exit} (sound : k.Sound)
    (at_ : k.point = .settled result) :
    (({ k with channel := k.channel.reportExit (k.account result) }.note
      (.report (k.account result))).goTo (.done result)).Sound := by
  have silent : k.reports = [] := sound.reports.trans (by simp [due, at_])
  have told : ({ k with channel := k.channel.reportExit (k.account result) }.note
      (.report (k.account result))).reports = [k.account result] := by
    rw [reports_note]
    change k.reports ++ [k.account result] = _
    rw [silent]
    rfl
  refine ⟨sound.past, sound.collected, ?_, told, ?_, ?_⟩
  · have few := sound.requests
    change Keeper.requests (note _ _) ≤ 1
    rw [requests_note]
    exact few
  · change some (k.account result) = (Keeper.reports (note _ _)).head?
    rw [told]
    rfl
  · have known := sound.known
    rw [at_] at known
    exact known

theorem Sound.move (sound : k.Sound) (move : Move k a k') : k'.Sound := by
  have known := sound.known
  cases move with
  | pass | exits | terminate | dropHandle =>
    exact Meanwhile.sound (Move.meanwhile (by constructor <;> assumption) rfl) sound
  | collect a own at_ ended =>
    refine sound.collect ?_ ended
    rcases at_ with waiting | looking
    · cases at_ : k.point <;> simp_all [due, Point.isWaiting]
    · simp [due, looking]
  | stray at_ => exact sound.does (by simp [due, at_]) rfl rfl nofun (known_lost _ _)
  | hurry at_ => exact sound.does (by simp [due, at_]) rfl rfl nofun (.unwaited (mem_note k _))
  | lookAway at_ => exact sound.does (by simp [due, at_]) rfl rfl nofun (known_lost _ _)
  | abandon at_ => exact sound.does (by simp [due, at_]) rfl rfl nofun (known_lost _ _)
  | @escalate limit at_ alive due_ =>
    rw [at_] at known
    refine sound.goTo (by simp [due, at_]) rfl ?_
    -- An end that is collected is the end of the wait, so the request did go out.
    have requested := known.resolve_left (by simp [sound.uncollected alive])
    refine .patient requested due_ ?_
    intro t exit ended
    cases alive.symm.trans ended
  | outlast at_ => exact sound.goTo (by simp [due, at_]) rfl (known_lost _ _)
  | receive at_ next => exact sound.receive at_ next
  | force delivered at_ =>
    rw [at_] at known
    obtain ⟨⟨t, _, order⟩, _⟩ := known
    exact sound.goTo (by simp [due, at_]) rfl (.ordered order)
  | request delivered at_ open_ =>
    rw [at_] at known
    obtain ⟨⟨t, le, order⟩, deeds⟩ := known
    exact sound.does (by simp [due, at_]) rfl rfl (fun _ => deeds)
      (.inr ⟨t, _, k.now, delivered, order, mem_note k _, le, rfl⟩)
  | spare delivered at_ collected =>
    exact sound.goTo (by simp [due, at_]) rfl (.inl collected)
  | kill at_ open_ =>
    exact sound.does (by simp [due, at_]) rfl rfl nofun ⟨k.now, mem_note k _, Nat.le_refl _⟩
  | miss at_ open_ =>
    exact sound.does (by simp [due, at_]) rfl rfl nofun (.inr ⟨k.now, mem_note k _⟩)
  | late delivered at_ collected => exact sound.goTo (by simp [due, at_]) rfl (.inl collected)
  | despair at_ => exact sound.goTo (by simp [due, at_]) rfl (known_lost _ _)
  | report at_ => exact sound.report at_

end Keeper
end MissionWorker.Child
