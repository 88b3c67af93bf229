import MissionWorker.Proofs.Child.Keeper

namespace MissionWorker.Child

def Channel.next? (c : Channel) : Option Termination := c.receive?.map (·.1)

theorem Channel.next?_eq (c : Channel) :
    c.next? = c.requests.head?.or (if c.handleOpen then none else some .force) := by
  unfold next? receive?
  split
  · rename_i requests
    rw [requests]
    rfl
  · rename_i requests
    rw [requests]
    cases c.handleOpen <;> rfl

theorem Channel.next?_terminate {c : Channel} (held : c.handleOpen = true)
    (open_ : c.signalsOpen = true) (mode : Termination) :
    (c.terminate mode).next? = c.next?.or (some mode) := by
  rw [next?_eq, next?_eq, terminate, if_pos open_]
  cases c.requests <;> simp [held]

theorem Channel.next?_dropHandle {c : Channel} (held : c.handleOpen = true) :
    c.dropHandle.next? = c.next?.or (some .force) := by
  rw [next?_eq, next?_eq, dropHandle]
  cases c.requests <;> simp [held]

def Point.level : Point → Nat
  | .watching => 6
  | .asked _ => 5
  | .lingering _ => 4
  | .killing => 3
  | .looking | .reaping _ => 2
  | .settled _ => 1
  | .done _ => 0

namespace Keeper

variable {k k' k₀ : Keeper} {a : Act} {acts : List Act} {t : Nat} {d : Deed}

inductive Begins : Keeper → Prop where
  | launched (pid : Option Nat) : Begins (launched pid)
  | handed {ended : Option (Nat × Exit)} (collected : Bool) {now : Nat} (mode : Termination)
    (past : ∀ t exit, ended = some (t, exit) → t ≤ now) : Begins (handed ended collected now mode)

theorem Begins.sound (begins : Begins k₀) : k₀.Sound := by
  cases begins with
  | launched pid =>
    exact ⟨nofun, nofun, Nat.zero_le 1, rfl, rfl, rfl, rfl⟩
  | handed collected mode past =>
    refine ⟨past, ?_, Nat.zero_le 1, rfl, rfl, ⟨_, Nat.le_refl _, rfl⟩, rfl⟩
    intro seen
    exact (Bool.and_eq_true_iff.mp seen).2

theorem Begins.sound_of_run (begins : Begins k₀) (went : k₀.run acts = some k) : k.Sound :=
  run_induction (motive := fun _ k => k.Sound) begins.sound
    (fun _ sound taken => sound.move (step_move taken)) went

def Does (k : Keeper) (a : Act) (d : Deed) : Prop :=
  ∃ k', k.step a = some k' ∧ k'.deeds = k.deeds ++ [(k.now, d)]

def Settles (k : Keeper) (a : Act) (result : Except Loss Exit) : Prop :=
  k.point.result? = none ∧ ∃ k', k.step a = some k' ∧ k'.point.result? = some result

theorem deeds_of_step (taken : k.step a = some k') :
    k'.deeds = k.deeds ∨ ∃ d, k.Does a d := by
  cases step_move taken with
  | stray | hurry | lookAway | abandon | request | kill | miss | report =>
    exact .inr ⟨_, _, taken, rfl⟩
  | _ => exact .inl rfl

theorem Sound.request_of_does {delivered : Bool} (sound : k.Sound)
    (does : k.Does a (.request delivered)) :
    k.collected = false ∧ ∃ t patience, k.order = some (t, .graceful patience) := by
  obtain ⟨k', taken, added⟩ := does
  have known := sound.known
  cases step_move taken with
  | request delivered at_ open_ =>
    rw [at_] at known
    obtain ⟨⟨t, _, order⟩, _⟩ := known
    exact ⟨open_, t, _, order⟩
  | _ => simp at added

theorem Sound.kill_of_does {delivered : Bool} (sound : k.Sound)
    (does : k.Does a (.kill delivered)) : k.collected = false ∧ k.Ripe := by
  obtain ⟨k', taken, added⟩ := does
  have known := sound.known
  cases step_move taken with
  | kill at_ open_ | miss at_ open_ =>
    rw [at_] at known
    exact ⟨open_, known⟩
  | _ => simp at added

theorem report_of_does {report : Report} (does : k.Does a (.report report)) :
    ∃ result, k.point = .settled result ∧ report = k.account result := by
  obtain ⟨k', taken, added⟩ := does
  cases step_move taken with
  | report at_ =>
    exact ⟨_, at_, by simpa using added.symm⟩
  | _ => simp at added

inductive Lost (k : Keeper) (a : Act) : Loss → Prop where
  | astray (unasked : k.order = none) (failed : a = .failed) : Lost k a .astray
  | unkillable {t : Nat} (missed : (t, .kill false) ∈ k.deeds)
    (unseen : k.ended = none ∨ a = .failed) : Lost k a .unkillable
  | unattended {t : Nat} (killed : (t, .kill true) ∈ k.deeds) (failed : a = .failed) :
    Lost k a .unattended
  | unresponsive {t : Nat} (killed : (t, .kill true) ∈ k.deeds) (due : t + killPatience ≤ k.now)
    (alive : k.ended = none) : Lost k a .unresponsive

theorem Sound.lost_of_settles {loss : Loss} (sound : k.Sound) (settles : k.Settles a (.error loss)) :
    k.Lost a loss := by
  obtain ⟨open_, k', taken, result⟩ := settles
  have known := sound.known
  cases step_move taken with
  | stray at_ =>
    cases result
    rw [at_] at known
    exact .astray known.1 rfl
  | lookAway at_ uncollected =>
    cases result
    rw [at_, Known, uncollected] at known
    obtain ⟨t, missed⟩ := known.resolve_left Bool.false_ne_true
    exact .unkillable missed (.inr rfl)
  | abandon at_ =>
    cases result
    rw [at_] at known
    obtain ⟨t, killed, _⟩ := known
    exact .unattended killed rfl
  | outlast at_ alive due =>
    cases result
    rw [at_] at known
    obtain ⟨t, killed, within⟩ := known
    exact .unresponsive killed (Nat.le_trans within due) alive
  | despair at_ alive =>
    cases result
    rw [at_, Known, sound.uncollected alive] at known
    obtain ⟨t, missed⟩ := known.resolve_left Bool.false_ne_true
    exact .unkillable missed (.inl alive)
  | pass | exits | terminate | dropHandle => cases open_.symm.trans result
  | report at_ =>
    rw [at_] at open_
    cases open_
  | _ => cases result

theorem Sound.found {exit : Exit} (sound : k.Sound) (result : k.point.result? = some (.ok exit)) :
    ∃ t ≤ k.now, k.ended = some (t, exit) := by
  have known := sound.known
  have really : ∃ t, k.ended = some (t, exit) := by
    cases at_ : k.point with
    | settled r | done r =>
      rw [at_] at known result
      cases result
      exact known exit rfl
    | _ =>
      rw [at_] at result
      cases result
  obtain ⟨t, ended⟩ := really
  exact ⟨t, sound.past t exit ended, ended⟩

theorem result?_of_step {result : Except Loss Exit} (taken : k.step a = some k')
    (settled : k.point.result? = some result) : k'.point.result? = some result := by
  cases step_move taken with
  | pass | exits | terminate | dropHandle => exact settled
  | report at_ =>
    rw [at_] at settled
    exact settled
  | collect _ _ at_ =>
    rcases at_ with waiting | looking
    · cases at_ : k.point <;> simp_all [Point.isWaiting, Point.result?]
    · simp [looking, Point.result?] at settled
  | stray at_ | hurry at_ | lookAway at_ | abandon at_ | escalate at_ | outlast at_ | receive at_
  | force _ at_ | request _ at_ | spare _ at_ | kill at_ | miss at_ | late _ at_ | despair at_ =>
    simp [at_, Point.result?] at settled

def Act.wish? : Act → Option Termination
  | .terminate mode => some mode
  | .dropHandle => some .force
  | _ => none

/-- What a keeper goes by: an order that it began with, else the first wish of the owner. -/
def firstWish? (k₀ : Keeper) (acts : List Act) : Option Termination :=
  (k₀.order.map (·.2)).or (acts.findSome? Act.wish?)

structure Heeds (k₀ : Keeper) (acts : List Act) (k : Keeper) : Prop where
  heard : k.point = .watching → k.channel.signalsOpen = true ∧ k.channel.next? = k₀.firstWish? acts
  heeded : ∀ t mode, k.order = some (t, mode) → k₀.firstWish? acts = some mode

theorem firstWish?_concat (k₀ : Keeper) (acts : List Act) (a : Act) :
    k₀.firstWish? (acts ++ [a]) = (k₀.firstWish? acts).or a.wish? := by
  rw [firstWish?, firstWish?, List.findSome?_append, Option.or_assoc]
  congr 2
  cases wish : a.wish? <;> simp [wish]

theorem Begins.heeds (begins : Begins k₀) : Heeds k₀ [] k₀ := by
  cases begins with
  | launched pid => exact ⟨fun _ => ⟨rfl, rfl⟩, nofun⟩
  | handed collected mode past =>
    refine ⟨nofun, ?_⟩
    rintro _ _ ⟨⟩
    rfl

theorem Heeds.move (heeds : Heeds k₀ acts k) (move : Move k a k') : Heeds k₀ (acts ++ [a]) k' where
  heard at_ := by
    rw [firstWish?_concat]
    cases move with
    | pass | exits =>
      obtain ⟨open_, heard⟩ := heeds.heard at_
      exact ⟨open_, heard.trans Option.or_none.symm⟩
    | terminate mode held =>
      obtain ⟨open_, heard⟩ := heeds.heard at_
      refine ⟨?_, (Channel.next?_terminate held open_ mode).trans (by rw [heard]; rfl)⟩
      simp [Channel.terminate, open_]
    | dropHandle held =>
      obtain ⟨open_, heard⟩ := heeds.heard at_
      exact ⟨open_, (Channel.next?_dropHandle held).trans (by rw [heard]; rfl)⟩
    | _ => cases at_
  heeded t mode order := by
    rw [firstWish?_concat]
    cases move with
    | receive at_ next =>
      obtain ⟨_, heard⟩ := heeds.heard at_
      cases order
      rw [← heard, Channel.next?, next]
      rfl
    | _ => rw [heeds.heeded t mode order, Option.some_or]

theorem Begins.heeds_of_run (begins : Begins k₀) (went : k₀.run acts = some k) : Heeds k₀ acts k :=
  run_induction (motive := Heeds k₀) begins.heeds (fun _ heeds taken => heeds.move (step_move taken))
    went

theorem Move.level (move : Move k a k') (own : a.isOwn = true) :
    k'.point.level < k.point.level := by
  cases move with
  | pass | exits | terminate | dropHandle => cases own
  | collect _ _ at_ =>
    change 1 < k.point.level
    rcases at_ with waiting | looking
    · cases at_ : k.point <;> simp_all [Point.isWaiting, Point.level]
    · simp [looking, Point.level]
  | stray at_ | hurry at_ | lookAway at_ | abandon at_ | escalate at_ | outlast at_ | receive at_
  | force _ at_ | request _ at_ | spare _ at_ | kill at_ | miss at_ | late _ at_ | despair at_
  | report at_ => simp [at_, goTo, Point.level]

/-- Every act of its own brings a keeper nearer to its end. -/
theorem own_acts_le (went : k₀.run acts = some k) :
    acts.countP Act.isOwn + k.point.level ≤ k₀.point.level := by
  refine run_induction (motive := fun acts k => acts.countP Act.isOwn + k.point.level ≤ k₀.point.level)
    (by simp) ?_ went
  intro acts k a k' _ bounded taken
  rw [List.countP_append, List.countP_singleton]
  split
  · have nearer := (step_move taken).level ‹_›
    omega
  · have same := ((step_move taken).meanwhile (by simpa using ‹¬ a.isOwn = true›)).point
    rw [same]
    omega

def Idle (k : Keeper) : Prop :=
  k.point = .watching ∧ k.ended = none ∧ k.channel.receive? = none

def Ready (k : Keeper) : Prop :=
  ∃ time a, a.isOwn = true ∧ a ≠ .failed ∧ ({ k with now := k.now + time }.step a).isSome = true

theorem ready_of_step (own : a.isOwn = true) (smooth : a ≠ .failed)
    (possible : (k.step a).isSome = true) : k.Ready := ⟨0, a, own, smooth, possible⟩

theorem ready_of_ended (waiting : k.point.isWaiting = true) (ended : k.ended.isSome = true) :
    k.Ready := ready_of_step (a := .returned) rfl (by simp) (by simp [step, waiting, ended])

theorem ready_of_limit {limit : Nat} (at_ : k.point = .lingering limit ∨ k.point = .reaping limit) :
    k.Ready := by
  cases ended : k.ended with
  | some => exact ready_of_ended (by rcases at_ with at_ | at_ <;> rw [at_] <;> rfl) (by rw [ended]; rfl)
  | none =>
    have due : limit ≤ k.now + (limit - k.now) := by omega
    refine ⟨limit - k.now, .timeUp, rfl, by simp, ?_⟩
    rcases at_ with at_ | at_ <;> simp [step, at_, ended, due]

theorem done_or_idle_or_ready (k : Keeper) :
    (∃ result, k.point = .done result) ∨ k.Idle ∨ k.Ready := by
  cases at_ : k.point with
  | done result => exact .inl ⟨result, rfl⟩
  | watching =>
    cases ended : k.ended with
    | some => exact .inr (.inr (ready_of_ended (by rw [at_]; rfl) (by rw [ended]; rfl)))
    | none =>
      cases next : k.channel.receive? with
      | none => exact .inr (.inl ⟨at_, ended, next⟩)
      | some =>
        exact .inr (.inr (ready_of_step (a := .receive) rfl (by simp) (by simp [step, at_, next])))
  | lingering limit => exact .inr (.inr (ready_of_limit (.inl at_)))
  | reaping limit => exact .inr (.inr (ready_of_limit (.inr at_)))
  | asked mode =>
    exact .inr (.inr (ready_of_step (a := .begin true) rfl (by simp) (by simp [step, at_])))
  | killing => exact .inr (.inr (ready_of_step (a := .kill true) rfl (by simp) (by simp [step, at_])))
  | looking =>
    refine .inr (.inr (ready_of_step (a := .look) rfl (by simp) ?_))
    cases ended : k.ended <;> simp [step, at_, ended]
  | settled result =>
    exact .inr (.inr (ready_of_step (a := .report) rfl (by simp) (by simp [step, at_])))

/-- What is certain of a keeper that acts have led to. -/
structure Accounted (k₀ : Keeper) (acts : List Act) (k : Keeper) : Prop where
  deeds : ∀ {a k'}, k.step a = some k' → k'.deeds = k.deeds ∨ ∃ d, k.Does a d
  requests : k.requests ≤ 1
  request : ∀ {a delivered}, k.Does a (.request delivered) →
    k.collected = false ∧ ∃ t patience, k.order = some (t, .graceful patience)
  kill : ∀ {a delivered}, k.Does a (.kill delivered) → k.collected = false ∧ k.Ripe
  settled : ∀ {a k' result}, k.step a = some k' → k.point.result? = some result →
    k'.point.result? = some result
  found : ∀ {exit}, k.point.result? = some (.ok exit) → ∃ t ≤ k.now, k.ended = some (t, exit)
  lost : ∀ {a loss}, k.Settles a (.error loss) → k.Lost a loss
  reports : k.reports = k.due
  reported : k.channel.report = k.reports.head?
  report : ∀ {a report}, k.Does a (.report report) →
    ∃ result, k.point = .settled result ∧ report = k.account result
  heeded : ∀ {t mode}, k.order = some (t, mode) → k₀.firstWish? acts = some mode
  own : acts.countP Act.isOwn + k.point.level ≤ k₀.point.level
  onward : (∃ result, k.point = .done result) ∨ k.Idle ∨ k.Ready

theorem Begins.accounted {k₀ k : Keeper} {acts : List Act} (begins : Begins k₀)
    (went : k₀.run acts = some k) : Accounted k₀ acts k :=
  have sound := begins.sound_of_run went
  { deeds := deeds_of_step
    requests := sound.requests
    request := sound.request_of_does
    kill := sound.kill_of_does
    settled := result?_of_step
    found := sound.found
    lost := sound.lost_of_settles
    reports := sound.reports
    reported := sound.reported
    report := report_of_does
    heeded := (begins.heeds_of_run went).heeded _ _
    own := own_acts_le went
    onward := k.done_or_idle_or_ready }

end Keeper
end MissionWorker.Child
