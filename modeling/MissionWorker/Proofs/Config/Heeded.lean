import MissionWorker.Proofs.Config.Overlay

namespace MissionWorker.Config

def Reading.Solid {α : Type} (r : Reading α) : Prop := ∀ s, r.Takes s none → Text.trimmed s = ""

namespace Reading

variable {α β : Type}

theorem solid_path : path.Solid := by
  intro s takes
  by_cases blank : Text.trimmed s = ""
  · exact blank
  · simp [path, blank] at takes

theorem solid_asIs : asIs.Solid := by
  intro s takes
  cases takes

theorem solid_number {width : Width α} : (number width).Solid := by
  rintro s ⟨n, _, none⟩
  cases none

theorem solid_word {form : String → String} {words : List (String × α)} {value : α → β}
    {distinct : ∀ p ∈ words, ∀ q ∈ words, p.1 = q.1 → p.2 = q.2} :
    (word form words value distinct).Solid := by
  rintro s ⟨a, _, none⟩
  cases none

end Reading

namespace Variable

theorem solid_all : ∀ x ∈ all, x.reading.Solid := by
  simp only [all, ofWorker, ofBridge, port, ofSupervisor, ofLogging, List.cons_append, List.nil_append,
    List.forall_mem_cons, List.not_mem_nil, false_implies, implies_true, and_true]
  open Reading in
  exact ⟨solid_path, solid_asIs, solid_path, solid_word, solid_path, solid_asIs, solid_number,
    solid_number, solid_number, solid_number, solid_number, solid_number, solid_word, solid_word⟩

end Variable

variable {lead : String} {env env' : Environment} {origin : Origin} {x : Variable} {c : Config}
  {bytes : List UInt8}

theorem overlaid_congr (same : env.text? = env'.text?) : overlaid lead env = overlaid lead env' := by
  have each (o : Override) : o.overlay lead env = o.overlay lead env' := by
    funext c
    rw [Override.overlay, Override.overlay, same]
  funext c
  simp only [overlaid, each]

theorem load_congr (same : env.text? = env'.text?) : load lead env origin = load lead env' origin := by
  simp only [load, settle, overlaid_congr same]

theorem text?_unassigned {name : String} (unset : env.text? name = none) :
    (env.assign name none).text? = env.text? := by
  funext n
  by_cases same : n = name
  · subst same
    rw [unset]
    simp [Environment.text?, Environment.assign]
  · simp [Environment.text?, Environment.assign, same]

theorem text?_of_set {name : String} (set : env name = some bytes) :
    env.text? name = Text.Utf8.decode? bytes := by
  rw [Environment.text?, set, Option.bind_some]

theorem load_ok : load lead env origin = .ok c ↔
    ∃ f, origin.config = .ok f ∧ Overlaid (assigned lead env.text?) f c ∧ c.check = .ok () := by
  constructor
  · intro loaded
    obtain ⟨f, read, settled⟩ := ok_of_bind loaded
    exact ⟨f, read, settle_ok.mp settled⟩
  · rintro ⟨f, read, settled⟩
    rw [load_eq read]
    exact settle_ok.mpr settled

def Felt (lead : String) (env : Environment) (origin : Origin) (x : Variable) : Prop :=
  ∀ c, load lead env origin = .ok c →
    ∃ s, env.text? (lead ++ "_" ++ x.name) = some s ∧ x.reading.Takes s (some (x.field.get c))

/-- What comes of a variable that is set to these bytes. -/
structure Heeded (lead : String) (env : Environment) (origin : Origin) (x : Variable)
    (bytes : List UInt8) : Prop where
  used : ∀ s, Text.Utf8.decode? bytes = some s → Text.trimmed s ≠ "" → Felt lead env origin x
  reported : ∀ s, Text.Utf8.decode? bytes = some s → ¬x.Fits (some s) →
    ∃ e, load lead env origin = .error e
  unread : Text.Utf8.decode? bytes = none →
    load lead env origin = load lead (env.assign (lead ++ "_" ++ x.name) none) origin

theorem override_heeded (member : x ∈ Variable.all) (set : env (lead ++ "_" ++ x.name) = some bytes) :
    Heeded lead env origin x bytes where
  used s text filled c loaded := by
    obtain ⟨f, _, merged, _⟩ := load_ok.mp loaded
    obtain ⟨a, reads, shown⟩ := merged.shown x member
    have told : env.text? (lead ++ "_" ++ x.name) = some s := (text?_of_set set).trans text
    have takes : x.reading.Takes s a := by simpa only [assigned, told, Reading.Of] using reads
    cases a with
    | none => exact absurd (Variable.solid_all x member s takes) filled
    | some a =>
      have value : x.field.get c = a := shown
      exact ⟨s, told, value ▸ takes⟩
  reported s text unfit := by
    cases loaded : load lead env origin with
    | error e => exact ⟨e, rfl⟩
    | ok c =>
      obtain ⟨f, _, merged, _⟩ := load_ok.mp loaded
      have fits := merged.fits member
      rw [assigned, text?_of_set set, text] at fits
      exact absurd fits unfit
  unread garbled := load_congr (text?_unassigned ((text?_of_set set).trans garbled)).symm

theorem override_heeded_with_blanks : ∃ env, env "FL_MISSION_WORKER_PORT" = some [0x20, 0x38, 0x30] ∧
    Variable.port ∈ Variable.all ∧ load "FL_MISSION" env .nowhere = .ok { bridge := { port := 80 } } ∧
    Heeded "FL_MISSION" env .nowhere .port [0x20, 0x38, 0x30] := by
  let env := Environment.empty.assign "FL_MISSION_WORKER_PORT" (some [0x20, 0x38, 0x30])
  have member : Variable.port ∈ Variable.all := by simp [Variable.all, Variable.ofBridge]
  exact ⟨env, rfl, member, by decide +kernel, override_heeded member rfl⟩

/-- A program is named by bytes that are no text, and another one is started. -/
theorem unread_override_passed_over : ∃ env x bytes, x ∈ Variable.all ∧
    env ("FL_MISSION" ++ "_" ++ x.name) = some bytes ∧ Text.Utf8.decode? bytes = none ∧
    load "FL_MISSION" env .nowhere = .ok {} ∧ ¬Felt "FL_MISSION" env .nowhere x := by
  let bytes : List UInt8 := [0x2F, 0x6F, 0x70, 0x74, 0x2F, 0xFF]
  let env := Environment.empty.assign "FL_MISSION_WORKER_BIN" (some bytes)
  have loaded : load "FL_MISSION" env .nowhere = .ok {} := by decide +kernel
  have garbled : Text.Utf8.decode? bytes = none := by decide +kernel
  refine ⟨env, Variable.ofWorker.head (by simp [Variable.ofWorker]), bytes,
    by simp [Variable.all, Variable.ofWorker], rfl, garbled, loaded, ?_⟩
  intro felt
  obtain ⟨s, told, _⟩ := felt {} loaded
  have unset : env.text? "FL_MISSION_WORKER_BIN" = none := garbled
  cases unset.symm.trans told

end MissionWorker.Config
