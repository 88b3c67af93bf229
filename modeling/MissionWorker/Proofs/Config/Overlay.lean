import Mathlib.Data.List.Forall2
import Mathlib.Data.List.Pairwise
import MissionWorker.Config.Load
import MissionWorker.Proofs.Config.Readings
import MissionWorker.Proofs.Text.Utf8

namespace MissionWorker

def Environment.ofTexts (values : String → Option String) : Environment :=
  fun name => (values name).map Text.Utf8.encode

@[simp]
theorem Environment.text?_ofTexts (values : String → Option String) :
    (ofTexts values).text? = values := by
  funext name
  cases found : values name <;> simp [ofTexts, text?, found]

namespace Config

structure Field (α : Type) where
  get : Config → α
  put : α → Config → Config
  get_put : ∀ a c, get (put a c) = a := by intros; rfl

structure Width (α : Type) where
  limit : Nat
  toNat : α → Nat
  ofNat : Nat → α
  toNat_lt : ∀ a, toNat a < limit
  toNat_ofNat : ∀ {n}, n < limit → toNat (ofNat n) = n
  ofNat_toNat : ∀ a, ofNat (toNat a) = a

def Width.word16 : Width UInt16 :=
  ⟨UInt16.size, UInt16.toNat, .ofNat, UInt16.toNat_lt, UInt16.toNat_ofNat_of_lt', fun _ => UInt16.ofNat_toNat⟩

def Width.word32 : Width UInt32 :=
  ⟨UInt32.size, UInt32.toNat, .ofNat, UInt32.toNat_lt, UInt32.toNat_ofNat_of_lt', fun _ => UInt32.ofNat_toNat⟩

def Width.word64 : Width UInt64 :=
  ⟨UInt64.size, UInt64.toNat, .ofNat, UInt64.toNat_lt, UInt64.toNat_ofNat_of_lt', fun _ => UInt64.ofNat_toNat⟩

/-- How texts stand for values: for at most one, or for none if they leave the value as it is. -/
structure Reading (α : Type) where
  Takes : String → Option α → Prop
  unique : ∀ {s a b}, Takes s a → Takes s b → a = b

namespace Reading

variable {α β : Type}

def path : Reading (Option String) where
  Takes s a := a = if Text.trimmed s = "" then none else some (some s)
  unique one other := one.trans other.symm

def asIs : Reading String where
  Takes s a := a = some s
  unique one other := one.trans other.symm

def number (width : Width α) : Reading α where
  Takes s a := ∃ n, Numeral (Text.trimmed s) (width.toNat n) ∧ a = some n
  unique := by
    rintro s _ _ ⟨m, one, rfl⟩ ⟨n, other, rfl⟩
    rw [← width.ofNat_toNat m, one.unique other, width.ofNat_toNat]

def word (form : String → String) (words : List (String × α)) (value : α → β)
    (distinct : ∀ p ∈ words, ∀ q ∈ words, p.1 = q.1 → p.2 = q.2) : Reading β where
  Takes s b := ∃ a, (form s, a) ∈ words ∧ b = some (value a)
  unique := by
    rintro s _ _ ⟨a, one, rfl⟩ ⟨b, other, rfl⟩
    have same : a = b := distinct _ one _ other rfl
    rw [same]

def Of (r : Reading α) (value : Option String) (a : Option α) : Prop :=
  match value with
  | none => a = none
  | some s => r.Takes s a

theorem Of.unique {r : Reading α} {value : Option String} {a b : Option α} (one : r.Of value a)
    (other : r.Of value b) : a = b := by
  cases value with
  | none => exact Eq.trans one (Eq.symm other)
  | some s => exact r.unique one other

end Reading

/-- A variable that may take the place of one value. -/
structure Variable where
  name : String
  Value : Type
  field : Field Value
  reading : Reading Value

namespace Variable

def ofWorker : List Variable := [
  ⟨"WORKER_BIN", _, { get := (·.worker.executable), put := fun v c => { c with worker.executable := v } },
    .path⟩,
  ⟨"PYTHON", _, { get := (·.worker.python), put := fun v c => { c with worker.python := v } }, .asIs⟩,
  ⟨"WORKER_SOURCE", _, { get := (·.worker.sourceRoot), put := fun v c => { c with worker.sourceRoot := v } },
    .path⟩,
  ⟨"PACKAGED", _, { get := (·.worker.packaged), put := fun v c => { c with worker.packaged := v } },
    .word (fun s => Text.lowered (Text.trimmed s)) flagWords some (by decide)⟩,
  ⟨"APP_DATA", _, { get := (·.worker.dataDir), put := fun v c => { c with worker.dataDir := v } }, .path⟩]

def port : Variable :=
  ⟨"WORKER_PORT", _, { get := (·.bridge.port), put := fun v c => { c with bridge.port := v } },
    .number .word16⟩

def ofBridge : List Variable := [
  ⟨"WORKER_HOST", _, { get := (·.bridge.host), put := fun v c => { c with bridge.host := v } }, .asIs⟩,
  port,
  ⟨"REQUEST_TIMEOUT", _,
    { get := (·.bridge.requestTimeout), put := fun v c => { c with bridge.requestTimeout := v } },
    .number .word64⟩]

def ofSupervisor : List Variable := [
  ⟨"PROBE_ATTEMPTS", _,
    { get := (·.supervisor.probeAttempts), put := fun v c => { c with supervisor.probeAttempts := v } },
    .number .word32⟩,
  ⟨"PROBE_INTERVAL_MS", _,
    { get := (·.supervisor.probeInterval), put := fun v c => { c with supervisor.probeInterval := v } },
    .number .word64⟩,
  ⟨"STOP_TIMEOUT_MS", _,
    { get := (·.supervisor.stopTimeout), put := fun v c => { c with supervisor.stopTimeout := v } },
    .number .word64⟩,
  ⟨"MAX_RESTARTS", _,
    { get := (·.supervisor.maxRestarts), put := fun v c => { c with supervisor.maxRestarts := v } },
    .number .word32⟩]

def ofLogging : List Variable := [
  ⟨"LOG_LEVEL", _, { get := (·.logging.level), put := fun v c => { c with logging.level := v } },
    .word Text.lowered levelWords id (by decide)⟩,
  ⟨"LOG_FORMAT", _, { get := (·.logging.format), put := fun v c => { c with logging.format := v } },
    .word Text.lowered formatWords id (by decide)⟩]

def all : List Variable := ofWorker ++ ofBridge ++ ofSupervisor ++ ofLogging

def place (x : Variable) (a : Option x.Value) (c : Config) : Config :=
  match a with
  | some a => x.field.put a c
  | none => c

def Fits (x : Variable) (value : Option String) : Prop := ∃ a, x.reading.Of value a

/-- The variable's value stands in one configuration, or else the value of the other one. -/
def Shows (x : Variable) (value : Option String) (f c : Config) : Prop :=
  ∃ a, x.reading.Of value a ∧ x.field.get c = a.getD (x.field.get f)

structure Apart (x y : Variable) : Prop where
  name : x.name ≠ y.name
  left : ∀ a c, x.field.get (y.field.put a c) = x.field.get c
  right : ∀ a c, y.field.get (x.field.put a c) = y.field.get c

theorem apart_all : all.Pairwise Apart := by
  simp only [all, ofWorker, ofBridge, ofSupervisor, ofLogging, List.cons_append, List.nil_append,
    List.pairwise_cons, List.forall_mem_cons, List.not_mem_nil, false_implies, implies_true, and_true,
    List.Pairwise.nil]
  repeat' apply And.intro
  all_goals exact ⟨by decide, fun _ _ => rfl, fun _ _ => rfl⟩

def rest (c : Config) :=
  (c.worker.module, c.worker.resourcesDir, c.worker.logLevel, c.bridge.healthTimeout,
    c.supervisor.reconcileOnStart, c.logging.includeLocation, c.logging.forwardWorkerOutput)

variable {x y : Variable} {xs before after : List Variable} {o : Override} {os : List Override}
  {lead : String} {env : Environment} {values : String → Option String} {f c d : Config}

theorem Apart.symm (apart : x.Apart y) : y.Apart x := ⟨apart.name.symm, apart.right, apart.left⟩

instance : Std.Symm Apart := ⟨fun _ _ => Apart.symm⟩

theorem apart_of_ne (one : x ∈ all) (other : y ∈ all) (differ : x ≠ y) : x.Apart y :=
  apart_all.forall one other differ

theorem rest_put (member : x ∈ all) (a : x.Value) (c : Config) : rest (x.field.put a c) = rest c := by
  simp only [all, ofWorker, ofBridge, ofSupervisor, ofLogging, List.cons_append, List.nil_append,
    List.mem_cons, List.not_mem_nil, or_false] at member
  rcases member with rfl | rfl | rfl | rfl | rfl | rfl | rfl | rfl | rfl | rfl | rfl | rfl | rfl | rfl
  all_goals rfl

theorem eq_of_all (same : ∀ x ∈ all, x.field.get c = x.field.get d) (remains : rest c = rest d) :
    c = d := by
  simp only [all, ofWorker, ofBridge, port, ofSupervisor, ofLogging, List.cons_append, List.nil_append,
    List.forall_mem_cons, List.not_mem_nil, false_implies, implies_true, and_true] at same
  obtain ⟨⟨⟩, ⟨⟩, ⟨⟩, ⟨⟩⟩ := c
  obtain ⟨⟨⟩, ⟨⟩, ⟨⟩, ⟨⟩⟩ := d
  simp only [rest, Prod.mk.injEq] at remains
  simp_all

structure Sets (o : Override) (x : Variable) : Prop where
  name : o.name = x.name
  takes : ∀ s a, x.reading.Takes s a → ∀ c, o.apply s c = .ok (x.place a c)
  fails : ∀ s, ¬x.Fits (some s) → ∃ message, ∀ c, o.apply s c = .error message

section Kinds

variable {name : String} {α β : Type}

theorem sets_path {field : Field (Option String)} {set : String → Config → Config}
    (same : ∀ v c, set v c = field.put (some v) c) :
    Sets (.path name set) ⟨name, Option String, field, .path⟩ where
  name := rfl
  takes := by
    rintro s a rfl c
    by_cases blank : Text.trimmed s = ""
    · simp [Override.path, place, blank, Text.isBlankText_iff.mpr blank]
    · have solid : ¬Text.isBlankText s := fun holds => blank (Text.isBlankText_iff.mp holds)
      simp [Override.path, place, blank, solid, same]
  fails s unfit := absurd ⟨_, rfl⟩ unfit

theorem sets_text {field : Field String} {set : String → Config → Config}
    (same : ∀ v c, set v c = field.put v c) : Sets (.text name set) ⟨name, String, field, .asIs⟩ where
  name := rfl
  takes := by
    rintro s a rfl c
    exact congrArg Except.ok (same s c)
  fails s unfit := absurd ⟨_, rfl⟩ unfit

theorem sets_number (width : Width α) {field : Field α} {set : Nat → Config → Config}
    (same : ∀ n c, set n c = field.put (width.ofNat n) c) :
    Sets (.number name width.limit set) ⟨name, α, field, .number width⟩ where
  name := rfl
  takes := by
    rintro s _ ⟨a, numeral, rfl⟩ c
    have small := width.toNat_lt a
    have read := (numberBelow_ok (Nat.zero_lt_of_lt small)).mpr ⟨numeral, small⟩
    simp [Override.number, read, Except.map, place, same, width.ofNat_toNat]
  fails s unfit := by
    cases read : numberBelow width.limit (Text.trimmed s) with
    | error message =>
      refine ⟨message, ?_⟩
      intro c
      simp [Override.number, read, Except.map]
    | ok n =>
      have positive := Nat.zero_lt_of_lt (width.toNat_lt (width.ofNat 0))
      obtain ⟨numeral, below⟩ := (numberBelow_ok positive).mp read
      rw [← width.toNat_ofNat below] at numeral
      exact absurd ⟨_, width.ofNat n, numeral, rfl⟩ unfit

theorem sets_choice {parse : String → Option α} {complaint : String → String} {field : Field β}
    {set : α → Config → Config} {form : String → String} {words : List (String × α)} {value : α → β}
    {distinct : ∀ p ∈ words, ∀ q ∈ words, p.1 = q.1 → p.2 = q.2}
    (parsed : ∀ {s a}, parse s = some a ↔ (form s, a) ∈ words)
    (same : ∀ a c, set a c = field.put (value a) c) :
    Sets (.choice name parse complaint set) ⟨name, β, field, .word form words value distinct⟩ where
  name := rfl
  takes := by
    rintro s _ ⟨a, listed, rfl⟩ c
    simp [Override.choice, parsed.mpr listed, place, same]
  fails s unfit := by
    cases read : parse s with
    | none =>
      refine ⟨complaint s, ?_⟩
      intro c
      simp [Override.choice, read]
    | some a => exact absurd ⟨_, a, parsed.mp read, rfl⟩ unfit

end Kinds

theorem sets_worker : List.Forall₂ Sets Override.ofWorker ofWorker :=
  .cons (sets_path fun _ _ => rfl) <| .cons (sets_text fun _ _ => rfl) <|
    .cons (sets_path fun _ _ => rfl) <| .cons (sets_choice truth?_eq_some fun _ _ => rfl) <|
    .cons (sets_path fun _ _ => rfl) .nil

theorem sets_bridge : List.Forall₂ Sets Override.ofBridge ofBridge :=
  .cons (sets_text fun _ _ => rfl) <|
    .cons (sets_number .word16 fun _ _ => rfl) <|
    .cons (sets_number .word64 fun _ _ => rfl) .nil

theorem sets_supervisor : List.Forall₂ Sets Override.ofSupervisor ofSupervisor :=
  .cons (sets_number .word32 fun _ _ => rfl) <|
    .cons (sets_number .word64 fun _ _ => rfl) <|
    .cons (sets_number .word64 fun _ _ => rfl) <|
    .cons (sets_number .word32 fun _ _ => rfl) .nil

theorem sets_logging : List.Forall₂ Sets Override.ofLogging ofLogging :=
  .cons (sets_choice Level.parse?_eq_some fun _ _ => rfl) <|
    .cons (sets_choice Format.parse?_eq_some fun _ _ => rfl) .nil

theorem sets_all : List.Forall₂ Sets Override.all all :=
  List.rel_append (List.rel_append (List.rel_append sets_worker sets_bridge) sets_supervisor) sets_logging

theorem Sets.overlay (sets : Sets o x) (lead : String) (env : Environment) :
    (∃ a, x.reading.Of (env.text? (lead ++ "_" ++ x.name)) a ∧
      ∀ c, o.overlay lead env c = .ok (x.place a c)) ∨
    (¬x.Fits (env.text? (lead ++ "_" ++ x.name)) ∧
      ∃ message, ∀ c, o.overlay lead env c = .error (.override (lead ++ "_" ++ x.name) message)) := by
  have named : o.variableName lead = lead ++ "_" ++ x.name := by rw [Override.variableName, sets.name]
  cases value : env.text? (lead ++ "_" ++ x.name) with
  | none =>
    left
    refine ⟨none, rfl, ?_⟩
    intro c
    simp only [Override.overlay, named, value]
    rfl
  | some s =>
    by_cases fits : x.Fits (some s)
    · left
      obtain ⟨a, takes⟩ := fits
      refine ⟨a, takes, ?_⟩
      intro c
      simp only [Override.overlay, named, value, sets.takes s a takes]
    · right
      obtain ⟨message, fails⟩ := sets.fails s fits
      refine ⟨fits, message, ?_⟩
      intro c
      simp only [Override.overlay, named, value, fails]

theorem get_place (apart : x.Apart y) (b : Option y.Value) (c : Config) :
    x.field.get (y.place b c) = x.field.get c := by
  cases b with
  | none => rfl
  | some b => exact apart.left b c

theorem get_place_self (a : Option x.Value) (c : Config) :
    x.field.get (x.place a c) = a.getD (x.field.get c) := by
  cases a with
  | none => rfl
  | some a => exact x.field.get_put a c

theorem overlay_fits (sets : List.Forall₂ Sets os xs) (apart : xs.Pairwise Apart)
    (members : ∀ x ∈ xs, x ∈ all)
    (fits : ∀ x ∈ xs, x.Fits (env.text? (lead ++ "_" ++ x.name))) (f : Config) :
    ∃ c, os.foldlM (fun c o => o.overlay lead env c) f = .ok c ∧ rest c = rest f ∧
      (∀ x ∈ xs, x.Shows (env.text? (lead ++ "_" ++ x.name)) f c) ∧
      ∀ x : Variable, (∀ y ∈ xs, x.Apart y) → x.field.get c = x.field.get f := by
  induction sets generalizing f with
  | nil => exact ⟨f, rfl, rfl, nofun, fun _ _ => rfl⟩
  | @cons o x os xs first later ih =>
    obtain ⟨ahead, apart⟩ := List.pairwise_cons.mp apart
    rcases first.overlay lead env with ⟨a, reads, placed⟩ | ⟨malformed, _⟩
    · obtain ⟨c, run, remains, shown, kept⟩ :=
        ih apart (fun y member => members y (List.mem_cons_of_mem _ member))
          (fun y member => fits y (List.mem_cons_of_mem _ member)) (x.place a f)
      refine ⟨c, ?_, ?_, ?_, ?_⟩
      · rw [List.foldlM_cons, placed]
        exact run
      · cases a with
        | none => exact remains
        | some a => exact remains.trans (rest_put (members x List.mem_cons_self) a f)
      · intro y member
        rcases List.mem_cons.mp member with rfl | member
        · exact ⟨a, reads, (kept y ahead).trans (get_place_self a f)⟩
        · obtain ⟨b, reads, same⟩ := shown y member
          rw [get_place (ahead y member).symm] at same
          exact ⟨b, reads, same⟩
      · intro y others
        have aside := others x List.mem_cons_self
        have same := kept y fun z member => others z (List.mem_cons_of_mem _ member)
        exact same.trans (get_place aside a f)
    · exact absurd (fits x List.mem_cons_self) malformed

theorem overlay_malformed (sets : List.Forall₂ Sets os xs) (split : xs = before ++ x :: after)
    (fits : ∀ y ∈ before, y.Fits (env.text? (lead ++ "_" ++ y.name)))
    (malformed : ¬x.Fits (env.text? (lead ++ "_" ++ x.name))) :
    ∃ message, ∀ f, os.foldlM (fun c o => o.overlay lead env c) f =
      .error (.override (lead ++ "_" ++ x.name) message) := by
  induction sets generalizing before with
  | nil => simp at split
  | @cons o y os xs first later ih =>
    cases before with
    | nil =>
      obtain ⟨rfl, rfl⟩ := List.cons.inj split
      rcases first.overlay lead env with ⟨a, reads, _⟩ | ⟨_, message, fails⟩
      · exact absurd ⟨a, reads⟩ malformed
      · refine ⟨message, ?_⟩
        intro f
        rw [List.foldlM_cons, fails]
        rfl
    | cons z before =>
      obtain ⟨rfl, tail⟩ := List.cons.inj split
      rcases first.overlay lead env with ⟨a, _, placed⟩ | ⟨unfit, _⟩
      · obtain ⟨message, fails⟩ := ih tail fun w member => fits w (List.mem_cons_of_mem _ member)
        refine ⟨message, ?_⟩
        intro f
        rw [List.foldlM_cons, placed]
        exact fails _
      · exact absurd (fits y List.mem_cons_self) unfit

end Variable

open Variable

/-- What comes of a configuration: the value of every variable that is set, and apart from that the
configuration itself. `value` gives the variables' texts by the ends of their names. -/
structure Overlaid (value : String → Option String) (f c : Config) : Prop where
  shown : ∀ x ∈ Variable.all, x.Shows (value x.name) f c
  rest : rest c = rest f

def assigned (lead : String) (values : String → Option String) (name : String) : Option String :=
  values (lead ++ "_" ++ name)

variable {x y : Variable} {before after : List Variable} {lead : String} {env : Environment}
  {value values : String → Option String} {f c d : Config} {origin : Origin}

theorem Variable.Shows.unique {v : Option String} (one : x.Shows v f c) (other : x.Shows v f d) :
    x.field.get c = x.field.get d := by
  obtain ⟨a, reads, shown⟩ := one
  obtain ⟨b, again, same⟩ := other
  rw [shown, same, reads.unique again]

theorem Overlaid.unique (one : Overlaid value f c) (other : Overlaid value f d) : c = d :=
  eq_of_all (fun x member => (one.shown x member).unique (other.shown x member))
    (one.rest.trans other.rest.symm)

theorem Overlaid.fits (merged : Overlaid value f c) (member : x ∈ Variable.all) :
    x.Fits (value x.name) := by
  obtain ⟨a, reads, _⟩ := merged.shown x member
  exact ⟨a, reads⟩

theorem overlaid_of_fits (fits : ∀ x ∈ Variable.all, x.Fits (assigned lead env.text? x.name))
    (f : Config) : ∃ c, overlaid lead env f = .ok c ∧ Overlaid (assigned lead env.text?) f c := by
  obtain ⟨c, run, remains, shown, _⟩ :=
    overlay_fits sets_all apart_all (fun _ member => member) fits f
  exact ⟨c, run, shown, remains⟩

theorem overlaid_of_malformed (split : Variable.all = before ++ x :: after)
    (fits : ∀ y ∈ before, y.Fits (assigned lead env.text? y.name))
    (malformed : ¬x.Fits (assigned lead env.text? x.name)) :
    ∃ message, ∀ f, overlaid lead env f = .error (.override (lead ++ "_" ++ x.name) message) :=
  overlay_malformed sets_all split fits malformed

theorem first_or_all {α : Type _} (p : α → Prop) (xs : List α) :
    (∀ x ∈ xs, p x) ∨ ∃ before x after, xs = before ++ x :: after ∧ (∀ y ∈ before, p y) ∧ ¬p x := by
  induction xs with
  | nil => exact .inl nofun
  | cons x xs ih =>
    by_cases holds : p x
    · rcases ih with every | ⟨before, y, after, rfl, ahead, fails⟩
      · exact .inl (List.forall_mem_cons.mpr ⟨holds, every⟩)
      · exact .inr ⟨x :: before, y, after, rfl, List.forall_mem_cons.mpr ⟨holds, ahead⟩, fails⟩
    · exact .inr ⟨[], x, xs, rfl, nofun, holds⟩

theorem fits_or_malformed (lead : String) (env : Environment) :
    (∀ x ∈ Variable.all, x.Fits (assigned lead env.text? x.name)) ∨
      ∃ e, ∀ f, overlaid lead env f = .error e := by
  rcases first_or_all (fun x => x.Fits (assigned lead env.text? x.name)) Variable.all with
    fits | ⟨before, x, after, split, ahead, unfit⟩
  · exact .inl fits
  · obtain ⟨message, fails⟩ := overlaid_of_malformed split ahead unfit
    exact .inr ⟨_, fails⟩

theorem overlaid_ok : overlaid lead env f = .ok c ↔ Overlaid (assigned lead env.text?) f c := by
  constructor
  · intro run
    rcases fits_or_malformed lead env with fits | ⟨e, fails⟩
    · obtain ⟨d, again, merged⟩ := overlaid_of_fits fits f
      rw [Except.ok.inj (run.symm.trans again)]
      exact merged
    · cases run.symm.trans (fails f)
  · intro merged
    obtain ⟨d, run, again⟩ := overlaid_of_fits (fun x member => merged.fits member) f
    rw [run, merged.unique again]

theorem overlaid_put (member : x ∈ Variable.all) {b : x.Value}
    (taken : x.reading.Of (assigned lead env.text? x.name) (some b)) (a : x.Value) (f : Config) :
    overlaid lead env (x.field.put a f) = overlaid lead env f := by
  rcases fits_or_malformed lead env with fits | ⟨e, fails⟩
  · obtain ⟨c, run, merged⟩ := overlaid_of_fits fits f
    rw [run, overlaid_ok]
    refine ⟨?_, merged.rest.trans (rest_put member a f).symm⟩
    intro y other
    obtain ⟨v, reads, shown⟩ := merged.shown y other
    refine ⟨v, reads, shown.trans ?_⟩
    by_cases same : y = x
    · subst same
      rw [reads.unique taken]
      rfl
    · rw [(apart_of_ne other member same).left]
  · rw [fails, fails]

theorem Overlaid.confined {value' : String → Option String} (member : x ∈ Variable.all)
    (one : Overlaid value f c) (other : Overlaid value' f d)
    (same : ∀ y ∈ Variable.all, y.name ≠ x.name → value' y.name = value y.name) :
    d = x.field.put (x.field.get d) c := by
  apply eq_of_all
  · intro y among
    by_cases self : y = x
    · subst self
      exact (y.field.get_put _ _).symm
    · have apart := apart_of_ne among member self
      have shown := other.shown y among
      rw [same y among apart.name] at shown
      exact (shown.unique (one.shown y among)).trans (apart.left _ c).symm
  · rw [rest_put member, other.rest, one.rest]

def only (name s : String) : String → Option String := fun n => if n = name then some s else none

theorem overlaid_only (member : x ∈ Variable.all) {s : String} {a : x.Value}
    (takes : x.reading.Takes s (some a)) (f : Config) :
    Overlaid (assigned lead (only (lead ++ "_" ++ x.name) s)) f (x.field.put a f) := by
  refine ⟨?_, rest_put member a f⟩
  intro y among
  by_cases same : y = x
  · subst same
    refine ⟨some a, ?_, y.field.get_put a f⟩
    simpa [assigned, only, Reading.Of] using takes
  · have apart := apart_of_ne among member same
    refine ⟨none, ?_, apart.left a f⟩
    have unset : assigned lead (only (lead ++ "_" ++ x.name) s) y.name = none := by
      simp [assigned, only, String.append_right_inj, apart.name]
    rw [unset]
    rfl

theorem load_eq (read : origin.config = .ok f) : load lead env origin = settle lead env f := by
  rw [load, read]
  rfl

theorem settle_of_error {e : Error} (fails : overlaid lead env f = .error e) :
    settle lead env f = .error e := by
  rw [settle, fails]
  rfl

theorem settle_of_ok (run : overlaid lead env f = .ok c) :
    settle lead env f = c.check.map fun _ => c := by
  rw [settle, run]
  cases checked : c.check with
  | error e => simp [Bind.bind, Except.bind, checked, Except.map]
  | ok => simp [Bind.bind, Except.bind, checked, Except.map, Pure.pure, Except.pure]

theorem settle_ok : settle lead env f = .ok c ↔
    Overlaid (assigned lead env.text?) f c ∧ c.check = .ok () := by
  rw [← overlaid_ok]
  cases run : overlaid lead env f with
  | error e => simp [settle_of_error run]
  | ok d =>
    rw [settle_of_ok run, Except.ok.injEq]
    cases checked : d.check with
    | error e =>
      constructor
      · intro none
        cases none
      · rintro ⟨rfl, fine⟩
        cases checked.symm.trans fine
    | ok =>
      constructor
      · intro same
        cases same
        exact ⟨rfl, checked⟩
      · rintro ⟨rfl, _⟩
        rfl

theorem ok_of_bind {α β : Type} {x : Except Error α} {next : α → Except Error β} {b : β}
    (run : (x >>= next) = .ok b) : ∃ a, x = .ok a ∧ next a = .ok b := by
  cases x with
  | error e => cases run
  | ok a => exact ⟨a, rfl, run⟩

theorem check_of_port_zero (valid : f.check = .ok ()) :
    ∃ message, Config.check { f with bridge.port := 0 } = .error (.invalid "bridge" message) := by
  obtain ⟨⟨⟩, worker, rest⟩ := ok_of_bind valid
  obtain ⟨⟨⟩, bridge, _⟩ := ok_of_bind rest
  obtain ⟨⟨⟩, host, _⟩ := ok_of_bind bridge
  refine ⟨"port must be greater than 0, got 0", ?_⟩
  simp only [Config.check, Bridge.check, worker, host, Bind.bind, Except.bind]
  rfl

/-- How a configuration comes of a file's, the environment and the check. -/
structure Exact (lead : String) (values : String → Option String) (origin : Origin) (f : Config) :
    Prop where
  loaded : ∀ c, load lead (.ofTexts values) origin = .ok c ↔
    Overlaid (assigned lead values) f c ∧ c.check = .ok ()
  unique : ∀ c d, Overlaid (assigned lead values) f c → Overlaid (assigned lead values) f d → c = d
  possible : (∃ c, Overlaid (assigned lead values) f c) ↔
    ∀ x ∈ Variable.all, x.Fits (assigned lead values x.name)
  invalid : ∀ c e, Overlaid (assigned lead values) f c → c.check = .error e →
    load lead (.ofTexts values) origin = .error e
  malformed : ∀ before x after, Variable.all = before ++ x :: after →
    (∀ y ∈ before, y.Fits (assigned lead values y.name)) → ¬x.Fits (assigned lead values x.name) →
    ∃ message, load lead (.ofTexts values) origin = .error (.override (lead ++ "_" ++ x.name) message)
  confined : ∀ x ∈ Variable.all, ∀ values' : String → Option String,
    (∀ name, name ≠ lead ++ "_" ++ x.name → values' name = values name) →
    ∀ c d, load lead (.ofTexts values) origin = .ok c → load lead (.ofTexts values') origin = .ok d →
      ∃ a, d = x.field.put a c
  overridden : ∀ x ∈ Variable.all, ∀ b, x.reading.Of (assigned lead values x.name) (some b) →
    ∀ a origin', origin'.config = .ok (x.field.put a f) →
      load lead (.ofTexts values) origin' = load lead (.ofTexts values) origin
  broken : f.check = .ok () → ∃ values' message,
    load lead (.ofTexts values') origin = .error (.invalid "bridge" message)
  alone : f = {} → load lead (.ofTexts values) origin = load lead (.ofTexts values) .nowhere

theorem load_port_zero (lead : String) (read : origin.config = .ok f) (valid : f.check = .ok ()) :
    ∃ values' message, load lead (.ofTexts values') origin = .error (.invalid "bridge" message) := by
  obtain ⟨message, fails⟩ := check_of_port_zero valid
  have member : port ∈ Variable.all := by simp [Variable.all, ofBridge]
  have zero : port.reading.Takes "0" (some (0 : UInt16)) :=
    ⟨0, ⟨['0'], .inl rfl, by simp, by simp, rfl⟩, rfl⟩
  let values' := only (lead ++ "_" ++ port.name) "0"
  have merged : Overlaid (assigned lead values') f { f with bridge.port := 0 } :=
    overlaid_only member zero f
  rw [← Environment.text?_ofTexts values'] at merged
  refine ⟨values', message, ?_⟩
  rw [load_eq read, settle_of_ok (overlaid_ok.mpr merged), fails]
  rfl

theorem overlay_exact (lead : String) (values : String → Option String)
    (read : origin.config = .ok f) : Exact lead values origin f where
  loaded c := by rw [load_eq read, settle_ok, Environment.text?_ofTexts]
  unique _ _ one other := one.unique other
  possible := by
    constructor
    · rintro ⟨c, merged⟩ x member
      exact merged.fits member
    · intro fits
      rw [← Environment.text?_ofTexts values] at fits ⊢
      obtain ⟨c, _, merged⟩ := overlaid_of_fits fits f
      exact ⟨c, merged⟩
  invalid c e merged fails := by
    rw [← Environment.text?_ofTexts values] at merged
    rw [load_eq read, settle_of_ok (overlaid_ok.mpr merged), fails]
    rfl
  malformed before x after split fits unfit := by
    rw [← Environment.text?_ofTexts values] at fits unfit
    obtain ⟨message, fails⟩ := overlaid_of_malformed split fits unfit
    exact ⟨message, (load_eq read).trans (settle_of_error (fails f))⟩
  confined x member values' same c d one other := by
    rw [load_eq read, settle_ok, Environment.text?_ofTexts] at one other
    refine ⟨_, one.1.confined member other.1 ?_⟩
    intro y _ differ
    apply same
    intro alike
    exact differ (String.append_right_inj _ |>.mp alike)
  overridden x member b taken a origin' read' := by
    rw [← Environment.text?_ofTexts values] at taken
    rw [load_eq read, load_eq read', settle, settle, overlaid_put member taken]
  broken valid := load_port_zero lead read valid
  alone same := by
    subst same
    rw [load_eq read]
    rfl

/-- The file's port is not allowed, but a variable that is set takes its place. -/
theorem overlay_exact_of_invalid_port : ∃ values origin f,
    origin.config = .ok f ∧ f.check ≠ .ok () ∧
      load "FL_MISSION" (.ofTexts values) origin = .ok { bridge := { port := 9000 } } ∧
      Exact "FL_MISSION" values origin f := by
  let values := only "FL_MISSION_WORKER_PORT" " +9000 "
  let origin : Origin := .file "planner.yaml" (.ok (Text.Utf8.encode "bridge:\n  port: 0\n"))
  have read : origin.config = .ok { bridge := { port := 0 } } := by decide +kernel
  refine ⟨values, origin, _, read, by decide +kernel, by decide +kernel, ?_⟩
  exact overlay_exact "FL_MISSION" values read

end Config
end MissionWorker
