import MissionWorker.Proofs.Service.Issues

namespace MissionWorker.Service

variable {α : Type} {item body : Json} {items : List Json} {members : Json.Members} {issue : Issue}
  {status : Nat}

inductive Selected (stands : Json → α → Prop) : List Json → List α → Prop where
  | nil : Selected stands [] []
  | take {item : Json} {items : List Json} {x : α} {xs : List α} (means : stands item x)
    (rest : Selected stands items xs) : Selected stands (item :: items) (x :: xs)
  | skip {item : Json} {items : List Json} {xs : List α} (useless : ∀ x, ¬ stands item x)
    (rest : Selected stands items xs) : Selected stands (item :: items) xs

theorem selected_iff {stands : Json → α → Prop} {f : Json → Option α}
    (exact : ∀ item x, f item = some x ↔ stands item x) {xs : List α} :
    Selected stands items xs ↔ items.filterMap f = xs := by
  constructor
  · intro selected
    induction selected with
    | nil => rfl
    | take means _ ih =>
      rw [List.filterMap_cons_some ((exact _ _).mpr means), ih]
    | skip useless _ ih =>
      have none : f _ = none := Option.eq_none_iff_forall_ne_some.mpr fun x told =>
        useless x ((exact _ x).mp told)
      rw [List.filterMap_cons_none none, ih]
  · rintro rfl
    induction items with
    | nil => exact .nil
    | cons item items ih =>
      cases means : f item with
      | none =>
        rw [List.filterMap_cons_none means]
        refine .skip (fun x stands => ?_) ih
        rw [(exact item x).mpr stands] at means
        cases means
      | some x =>
        rw [List.filterMap_cons_some means]
        exact .take ((exact item x).mp means) ih

inductive Placed (members : Json.Members) : Option UInt32 → Prop where
  | line (line : UInt32) (told : Json.Members.find? "line" members = some (.nat line.toNat)) :
    Placed members (some line)
  | nowhere (untold : ∀ line : UInt32,
      Json.Members.find? "line" members ≠ some (.nat line.toNat)) : Placed members none

/-- Which problem an item stands for: a text, or an object with a message of one name or, if it has
none of that name, of the other. -/
inductive Stands : Json → Issue → Prop where
  | text (message : String) : Stands (.text message) { message }
  | message {members : Json.Members} {message : String} {line : Option UInt32}
    (told : Json.Members.find? "message" members = some (.text message))
    (placed : Placed members line) : Stands (.object members) { message, line }
  | msg {members : Json.Members} {message : String} {line : Option UInt32}
    (missing : Json.Members.find? "message" members = none)
    (told : Json.Members.find? "msg" members = some (.text message))
    (placed : Placed members line) : Stands (.object members) { message, line }

inductive Names : Json → String → Prop where
  | name (s : String) : Names (.text s) s
  | number (n : Json.Number) : Names (.number n) (Json.Writer.number n)

inductive Located (item : Json) : String → Prop where
  | listed {places : List Json} {steps : List String}
    (told : item.get? "loc" = some (.array places)) (named : Selected Names places steps) :
    Located item (".".intercalate steps)
  | nowhere (untold : ∀ places, item.get? "loc" ≠ some (.array places)) : Located item ""

/-- Which problem an item stands for as a complaint about the form of a request. -/
inductive Complains (item : Json) : Issue → Prop where
  | placed {message location : String} (told : item.get? "msg" = some (.text message))
    (located : Located item location) (somewhere : location ≠ "") :
    Complains item { message := location ++ ": " ++ message }
  | bare {message : String} (told : item.get? "msg" = some (.text message))
    (located : Located item "") : Complains item { message }

theorem text?_eq_some_iff {s : String} : item.text? = some s ↔ item = .text s := by
  cases item <;> simp [Json.text?]

theorem items?_eq_some_iff : body.items? = some items ↔ body = .array items := by
  cases body <;> simp [Json.items?]

namespace Issue

theorem line?_eq_some_iff {line : UInt32} : line? item = some line ↔ item = .nat line.toNat := by
  constructor
  · intro told
    unfold line? at told
    split at told
    · rename_i n
      split at told
      · rename_i within
        obtain rfl := Option.some.inj told
        have small : n.toNat < 2 ^ 32 := by
          have := within.2
          simp only [UInt32.size] at this
          omega
        rw [UInt32.toNat_ofNat', Nat.mod_eq_of_lt small, Json.nat, Int.toNat_of_nonneg within.1]
      · cases told
    · cases told
  · rintro rfl
    exact line?_nat line

theorem placed_iff {line : Option UInt32} :
    Placed members line ↔ (Json.Members.find? "line" members).bind line? = line := by
  have exact (n : UInt32) : (Json.Members.find? "line" members).bind line? = some n ↔
      Json.Members.find? "line" members = some (.nat n.toNat) := by
    simp only [Option.bind_eq_some_iff, line?_eq_some_iff, exists_eq_right]
  constructor
  · rintro (⟨n, told⟩ | ⟨untold⟩)
    · exact (exact n).mpr told
    · exact Option.eq_none_iff_forall_ne_some.mpr fun n told => untold n ((exact n).mp told)
  · rintro rfl
    cases told : (Json.Members.find? "line" members).bind line? with
    | some n => exact .line n ((exact n).mp told)
    | none =>
      refine .nowhere fun n there => ?_
      rw [(exact n).mpr there] at told
      cases told

theorem ofJson?_iff : ofJson? item = some issue ↔ Stands item issue := by
  constructor
  · intro told
    unfold ofJson? at told
    split at told
    · cases told
      exact .text _
    · rename_i members
      simp only [bind, pure, Option.bind_eq_some_iff, text?_eq_some_iff] at told
      obtain ⟨v, found, message, rfl, read⟩ := told
      cases read
      cases named : Json.Members.find? "message" members with
      | some w =>
        rw [named] at found
        cases found
        exact .message named (placed_iff.mpr rfl)
      | none =>
        rw [named] at found
        exact .msg named found (placed_iff.mpr rfl)
    · cases told
  · intro stands
    cases stands with
    | text => rfl
    | message told placed => simp [ofJson?, told, Json.text?, placed_iff.mp placed]
    | msg missing told placed => simp [ofJson?, missing, told, Json.text?, placed_iff.mp placed]

theorem step?_iff {s : String} : step? item = some s ↔ Names item s := by
  constructor
  · intro told
    unfold step? at told
    split at told <;> cases told
    · exact .name _
    · exact .number _
  · rintro (_ | _) <;> rfl

theorem listed_iff {name : String} :
    (item.get? name).bind Json.items? = some items ↔ item.get? name = some (.array items) := by
  simp only [Option.bind_eq_some_iff, items?_eq_some_iff, exists_eq_right]

theorem located_iff {location : String} :
    Located item location ↔ (location? item).getD "" = location := by
  have known : (location? item).getD "" =
      (((item.get? "loc").bind Json.items?).map fun places =>
        ".".intercalate (places.filterMap step?)).getD "" := by
    unfold location?
    cases listed : (item.get? "loc").bind Json.items? with
    | none => simp [Option.bind_eq_bind, ← Option.bind_assoc, listed]
    | some places =>
      simp only [bind, ← Option.bind_assoc, listed, Option.bind_some, Option.map_some,
        Option.getD_some]
      split
      · rename_i empty
        exact (String.isEmpty_iff.mp empty).symm
      · rfl
  rw [known]
  constructor
  · rintro (⟨told, named⟩ | ⟨untold⟩)
    · rw [listed_iff.mpr told, Option.map_some, Option.getD_some,
        (selected_iff fun _ _ => step?_iff).mp named]
    · have none : (item.get? "loc").bind Json.items? = none :=
        Option.eq_none_iff_forall_ne_some.mpr fun places listed =>
          untold places (listed_iff.mp listed)
      rw [none, Option.map_none, Option.getD_none]
  · rintro rfl
    cases listed : (item.get? "loc").bind Json.items? with
    | none =>
      refine .nowhere fun places told => ?_
      rw [listed_iff.mpr told] at listed
      cases listed
    | some places =>
      exact .listed (listed_iff.mp listed) ((selected_iff fun _ _ => step?_iff).mpr rfl)

theorem location?_ne_empty {location : String} (told : location? item = some location) :
    location ≠ "" := by
  simp only [location?, bind, Option.bind_eq_some_iff] at told
  obtain ⟨_, _, places, _, kept⟩ := told
  split at kept <;> cases kept
  rename_i nonempty
  exact fun empty => nonempty (String.isEmpty_iff.mpr empty)

theorem location?_eq_some_iff {location : String} :
    location? item = some location ↔ Located item location ∧ location ≠ "" := by
  constructor
  · intro told
    exact ⟨located_iff.mpr (by rw [told, Option.getD_some]), location?_ne_empty told⟩
  · rintro ⟨located, somewhere⟩
    have found := located_iff.mp located
    cases known : location? item with
    | some place => rwa [known, Option.getD_some, ← Option.some_inj] at found
    | none => exact absurd (by rw [← found, known, Option.getD_none]) somewhere

theorem location?_eq_none_iff : location? item = none ↔ Located item "" := by
  rw [located_iff]
  cases known : location? item with
  | some place => simp [location?_ne_empty known]
  | none => simp

theorem ofComplaint?_iff : ofComplaint? item = some issue ↔ Complains item issue := by
  constructor
  · intro complained
    simp only [ofComplaint?, bind, Option.bind_eq_some_iff, text?_eq_some_iff] at complained
    obtain ⟨_, told, message, rfl, kept⟩ := complained
    cases place : location? item with
    | some location =>
      rw [place] at kept
      cases kept
      obtain ⟨located, somewhere⟩ := location?_eq_some_iff.mp place
      exact .placed told located somewhere
    | none =>
      rw [place] at kept
      cases kept
      exact .bare told (location?_eq_none_iff.mp place)
  · intro complains
    cases complains with
    | placed told located somewhere =>
      simp [ofComplaint?, told, Json.text?, location?_eq_some_iff.mpr ⟨located, somewhere⟩]
    | bare told located =>
      simp [ofComplaint?, told, Json.text?, location?_eq_none_iff.mpr located]

end Issue

/-- What a detail tells: a text, one problem, or a list with complaints about the request. -/
inductive Detailed : Json → String → List Issue → Prop where
  | text (message : String) : Detailed (.text message) message []
  | problem {members : Json.Members} {issue : Issue} (stands : Stands (.object members) issue) :
    Detailed (.object members) issue.message [issue]
  | complaints {items : List Json} {issues : List Issue}
    (selected : Selected Complains items issues) (some : issues ≠ []) :
    Detailed (.array items) ("; ".intercalate (issues.map (·.message))) issues

def Listed (body : Json) (issues : List Issue) : Prop :=
  ∃ items, body.get? "errors" = some (.array items) ∧ Selected Stands items issues

/-- The summary and the problems that an answer tells of: those of its errors; without them its
message alone; without that too what its detail tells. -/
inductive Account (body : Json) : String → List Issue → Prop where
  | errors {issues : List Issue} (listed : Listed body issues) (some : issues ≠ []) :
    Account body (Failure.summary issues) issues
  | message {message : String} (none : ∀ issues, Listed body issues → issues = [])
    (told : body.get? "message" = some (.text message)) : Account body message []
  | detail {detail : Json} {message : String} {issues : List Issue}
    (none : ∀ issues, Listed body issues → issues = [])
    (untold : ∀ message, body.get? "message" ≠ some (.text message))
    (found : body.get? "detail" = some detail) (told : Detailed detail message issues) :
    Account body message issues

namespace Failure

variable {message : String} {issues : List Issue}

theorem ofDetail?_iff {detail : Json} :
    ofDetail? detail = some (message, issues) ↔ Detailed detail message issues := by
  constructor
  · intro told
    cases detail with
    | text =>
      cases told
      exact .text _
    | object members =>
      simp only [ofDetail?, bind, pure, Option.bind_eq_some_iff, Issue.ofJson?_iff,
        Option.some_inj, Prod.mk.injEq] at told
      obtain ⟨issue, stands, rfl, rfl⟩ := told
      exact .problem stands
    | array items =>
      simp only [ofDetail?] at told
      split at told
      · cases told
      · rename_i some
        cases told
        exact .complaints ((selected_iff fun _ _ => Issue.ofComplaint?_iff).mpr rfl) some
    | null => cases told
    | bool => cases told
    | number => cases told
  · intro told
    cases told with
    | text => rfl
    | problem stands => simp [ofDetail?, Issue.ofJson?_iff.mpr stands]
    | complaints selected some =>
      obtain rfl := (selected_iff fun _ _ => Issue.ofComplaint?_iff).mp selected
      simp only [ofDetail?]

theorem ofErrors?_iff : ofErrors? items = some (message, issues) ↔
    Selected Stands items issues ∧ issues ≠ [] ∧ summary issues = message := by
  rw [selected_iff fun _ _ => Issue.ofJson?_iff, ofErrors?]
  split
  · rename_i none
    rw [none]
    constructor
    · intro told
      cases told
    · rintro ⟨rfl, some, -⟩
      exact absurd rfl some
  · rename_i some
    constructor
    · rintro ⟨⟩
      exact ⟨rfl, some, rfl⟩
    · rintro ⟨rfl, -, rfl⟩
      rfl

theorem errors?_iff : ((body.get? "errors").bind Json.items?).bind ofErrors? =
    some (message, issues) ↔ Listed body issues ∧ issues ≠ [] ∧ summary issues = message := by
  simp only [Option.bind_eq_some_iff, items?_eq_some_iff, exists_eq_right, ofErrors?_iff, Listed]
  constructor
  · rintro ⟨items, told, selected, some⟩
    exact ⟨⟨items, told, selected⟩, some⟩
  · rintro ⟨⟨items, told, selected⟩, some⟩
    exact ⟨items, told, selected, some⟩

theorem errors?_eq_none_iff : ((body.get? "errors").bind Json.items?).bind ofErrors? = none ↔
    ∀ issues, Listed body issues → issues = [] := by
  simp only [Option.eq_none_iff_forall_ne_some, Prod.forall, ne_eq, errors?_iff]
  constructor
  · intro none issues listed
    exact Classical.byContradiction fun some => none _ issues ⟨listed, some, rfl⟩
  · rintro none message issues ⟨listed, some, -⟩
    exact some (none issues listed)

theorem message?_iff : ((body.get? "message").bind Json.text?).map (fun message => (message, [])) =
    some (message, issues) ↔ body.get? "message" = some (.text message) ∧ issues = [] := by
  simp only [Option.map_eq_some_iff, Option.bind_eq_some_iff, text?_eq_some_iff, exists_eq_right,
    Prod.mk.injEq]
  constructor
  · rintro ⟨_, told, rfl, rfl⟩
    exact ⟨told, rfl⟩
  · rintro ⟨told, rfl⟩
    exact ⟨message, told, rfl, rfl⟩

theorem message?_eq_none_iff :
    ((body.get? "message").bind Json.text?).map (fun message => (message, ([] : List Issue))) = none ↔
      ∀ message, body.get? "message" ≠ some (.text message) := by
  simp only [Option.eq_none_iff_forall_ne_some, Prod.forall, ne_eq, message?_iff]
  exact ⟨fun none message told => none message [] ⟨told, rfl⟩,
    fun none message _ told => none message told.1⟩

theorem account?_iff : account? body = some (message, issues) ↔ Account body message issues := by
  simp only [account?, Option.orElse_eq_orElse, Option.orElse_eq_or, Option.or_eq_some_iff]
  rw [errors?_iff, errors?_eq_none_iff, message?_iff, message?_eq_none_iff]
  simp only [Option.bind_eq_some_iff, ofDetail?_iff]
  constructor
  · rintro (⟨listed, some, rfl⟩ | ⟨none, ⟨told, rfl⟩ | ⟨untold, detail, found, told⟩⟩)
    · exact .errors listed some
    · exact .message none told
    · exact .detail none untold found told
  · intro account
    cases account with
    | errors listed some => exact .inl ⟨listed, some, rfl⟩
    | message none told => exact .inr ⟨none, .inl ⟨told, rfl⟩⟩
    | detail none untold found told => exact .inr ⟨none, .inr ⟨untold, _, found, told⟩⟩

end Failure

/-- The form that a failed answer is brought to. -/
structure Normalized (status : Nat) (body : Json) (failure : Failure) : Prop where
  code : failure.status = status
  kept : failure.body = some body
  told : Account body failure.message failure.errors ∨
    (∀ message issues, ¬ Account body message issues) ∧
      failure.message = statusMessage status ∧ failure.errors = []

theorem normalized_iff {failure : Failure} :
    Normalized status body failure ↔ failure = Failure.ofJson status body := by
  have none_iff : Failure.account? body = none ↔ ∀ message issues, ¬ Account body message issues := by
    simp only [Option.eq_none_iff_forall_ne_some, Prod.forall, ne_eq, Failure.account?_iff]
  constructor
  · obtain ⟨code, message, errors, kept⟩ := failure
    rintro ⟨rfl, rfl, told | ⟨untold, named, empty⟩⟩
    · simp [Failure.ofJson, Failure.account?_iff.mpr told]
    · simp only at named empty
      simp [Failure.ofJson, none_iff.mpr untold, ← named, empty]
  · rintro rfl
    refine ⟨rfl, rfl, ?_⟩
    cases account : Failure.account? body with
    | some told => exact .inl (Failure.account?_iff.mp (by simp [Failure.ofJson, account]))
    | none => exact .inr ⟨none_iff.mp account, by simp [Failure.ofJson, account]⟩

structure Answered (status : Nat) (body : Json) : Prop where
  normalized : ∀ failure, Normalized status body failure ↔ failure = Failure.ofJson status body
  errors : ∀ {issues}, Listed body issues → issues ≠ [] →
    (Failure.ofJson status body).errors = issues ∧
      ∀ other : Json, other.get? "errors" = body.get? "errors" →
        Failure.ofJson status other = { Failure.ofJson status body with body := some other }
  message : ∀ {message}, (∀ issues, Listed body issues → issues = []) →
    body.get? "message" = some (.text message) →
      (Failure.ofJson status body).message = message ∧ (Failure.ofJson status body).errors = [] ∧
        ∀ other : Json, other.get? "errors" = body.get? "errors" →
          other.get? "message" = body.get? "message" →
            Failure.ofJson status other = { Failure.ofJson status body with body := some other }
  render : (Failure.ofJson status body).render =
    if (Failure.ofJson status body).errors = [] then (Failure.ofJson status body).message
    else "\n".intercalate ((Failure.ofJson status body).errors.map Issue.display)

theorem answer_normalized (status : Nat) (body : Json) : Answered status body where
  normalized _ := normalized_iff
  errors := by
    intro issues listed some
    have whole (other : Json) (same : other.get? "errors" = body.get? "errors") :
        { status, message := Failure.summary issues, errors := issues, body := other } =
          Failure.ofJson status other := by
      have told : Listed other issues := by rwa [Listed, same]
      exact normalized_iff.mp ⟨rfl, rfl, .inl (.errors told some)⟩
    rw [← whole body rfl]
    exact ⟨rfl, fun other same => (whole other same).symm⟩
  message := by
    intro message none told
    have whole (other : Json) (errors : other.get? "errors" = body.get? "errors")
        (same : other.get? "message" = body.get? "message") :
        { status, message, errors := [], body := other } = Failure.ofJson status other := by
      have unlisted : ∀ issues, Listed other issues → issues = [] := by
        simpa only [Listed, errors] using none
      exact normalized_iff.mp ⟨rfl, rfl, .inl (.message unlisted (same.trans told))⟩
    rw [← whole body rfl rfl]
    exact ⟨rfl, rfl, fun other errors same => (whole other errors same).symm⟩
  render := by
    split
    · rename_i none
      rw [Failure.render, none]
    · exact Failure.render_of_errors ‹_›

end MissionWorker.Service
