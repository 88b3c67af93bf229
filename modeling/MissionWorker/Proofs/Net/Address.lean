import MissionWorker.Net.Address

namespace MissionWorker.Net.Address

variable {base room : Nat} {cs rest : List Char} {c : Char} {n : UInt8} {four : Bool}
  {gs : List UInt16}

theorem isDigit_iff : c.isDigit ↔ '0' ≤ c ∧ c ≤ '9' := by
  simp [Char.isDigit, Char.le_def]

theorem isAlpha_iff : c.isAlpha ↔ ('A' ≤ c ∧ c ≤ 'Z') ∨ ('a' ≤ c ∧ c ≤ 'z') := by
  have upper : c.isUpper ↔ 'A' ≤ c ∧ c ≤ 'Z' := decide_eq_true_iff
  have lower : c.isLower ↔ 'a' ≤ c ∧ c ≤ 'z' := by
    show (decide ('a' ≤ c) && decide (c ≤ 'z')) = true ↔ _
    rw [Bool.and_eq_true, decide_eq_true_iff, decide_eq_true_iff]
  show (c.isUpper || c.isLower) = true ↔ _
  rw [Bool.or_eq_true, upper, lower]

theorem digit?_of_isDigit (decimal : c.isDigit) (ten : 10 ≤ base) :
    digit? base c = some (c.toNat - '0'.toNat) := by
  have digit := isDigit_iff.mp decimal
  have most : c.toNat ≤ 57 := digit.2
  have zero : '0'.toNat = 48 := rfl
  have small : c.toNat - '0'.toNat < base := by omega
  simp only [digit?, digit, and_self, if_true, small]

theorem isAlpha_of_digit? {d : Nat} (known : digit? base c = some d) (few : base ≤ 16)
    (other : ¬c.isDigit) : c.isAlpha ∧ 10 ≤ d := by
  have no : ¬('0' ≤ c ∧ c ≤ '9') := fun digit => other (isDigit_iff.mpr digit)
  have letter {low high : Char} (within : low ≤ c ∧ c ≤ high)
      (among : 'a' ≤ low ∧ high ≤ 'z' ∨ 'A' ≤ low ∧ high ≤ 'Z') : c.isAlpha := by
    apply isAlpha_iff.mpr
    rcases among with ⟨least, most⟩ | ⟨least, most⟩
    · exact .inr ⟨Char.le_trans least within.1, Char.le_trans within.2 most⟩
    · exact .inl ⟨Char.le_trans least within.1, Char.le_trans within.2 most⟩
  simp only [digit?, no, if_false, Option.ite_none_right_eq_some, Option.some.injEq] at known
  obtain ⟨small, rfl⟩ := known
  split at small
  · rename_i lower
    rw [if_pos lower]
    exact ⟨letter lower (.inl (by decide)), by omega⟩
  · rename_i nonLower
    split at small
    · rename_i upper
      rw [if_neg nonLower, if_pos upper]
      exact ⟨letter upper (.inr (by decide)), by omega⟩
    · omega

theorem isDigit_of_digit? {d : Nat} (known : digit? 10 c = some d) :
    c.isDigit ∧ d = c.toNat - '0'.toNat := by
  by_cases decimal : c.isDigit
  · rw [digit?_of_isDigit decimal (Nat.le_refl 10)] at known
    exact ⟨decimal, (Option.some.inj known).symm⟩
  · have great := (isAlpha_of_digit? known (by omega) decimal).2
    have small : d < 10 := by
      simp only [digit?, Option.ite_none_right_eq_some, Option.some.injEq] at known
      omega
    omega

theorem isAlphanum_of_digit? {d : Nat} (known : digit? base c = some d) (few : base ≤ 16) :
    c.isAlphanum := by
  rw [Char.isAlphanum, Bool.or_eq_true]
  by_cases decimal : c.isDigit
  · exact .inr decimal
  · exact .inl (isAlpha_of_digit? known few decimal).1

structure Split (base : Nat) (used rest : List Char) : Prop where
  inside : ∀ c ∈ used, (digit? base c).isSome
  outside : ∀ c, rest.head? = some c → digit? base c = none

theorem exists_split (base : Nat) (cs : List Char) : ∃ used rest, cs = used ++ rest ∧ Split base used rest := by
  induction cs with
  | nil => exact ⟨[], [], rfl, nofun, nofun⟩
  | cons c cs ih =>
    cases known : digit? base c with
    | none =>
      refine ⟨[], c :: cs, rfl, nofun, ?_⟩
      rintro _ ⟨⟩
      exact known
    | some d =>
      obtain ⟨used, rest, rfl, split⟩ := ih
      refine ⟨c :: used, rest, rfl, ?_, split.outside⟩
      exact List.forall_mem_cons.mpr ⟨by simp [known], split.inside⟩

theorem Split.digits {used : List Char} (split : Split base used rest) :
    digits base (used ++ rest) = (used.filterMap (digit? base), rest) := by
  induction used with
  | nil =>
    cases rest with
    | nil => rfl
    | cons c rest => simp [Address.digits, split.outside c rfl]
  | cons c used ih =>
    obtain ⟨d, known⟩ := Option.isSome_iff_exists.mp (split.inside c List.mem_cons_self)
    have later := ih ⟨fun c member => split.inside c (List.mem_cons_of_mem _ member), split.outside⟩
    rw [List.cons_append, Address.digits, known, later, List.filterMap_cons_some known]

theorem Split.length {used : List Char} (split : Split base used rest) :
    (used.filterMap (digit? base)).length = used.length := by
  induction used with
  | nil => rfl
  | cons c used ih =>
    obtain ⟨d, known⟩ := Option.isSome_iff_exists.mp (split.inside c List.mem_cons_self)
    have later := ih ⟨fun c member => split.inside c (List.mem_cons_of_mem _ member), split.outside⟩
    rw [List.filterMap_cons_some known, List.length_cons, List.length_cons, later]

/-- How a number of version four is written: in up to three decimal digits, and without a zero before
the others. -/
structure Octet (cs : List Char) (n : UInt8) : Prop where
  decimal : ∀ c ∈ cs, c.isDigit
  nonempty : cs ≠ []
  short : cs.length ≤ 3
  plain : cs.head? = some '0' → cs = ['0']
  value : ofDigits 10 (cs.filterMap (digit? 10)) = n.toNat

theorem Octet.split (octet : Octet cs n) (ten : 10 ≤ base)
    (outside : ∀ c, rest.head? = some c → digit? base c = none) : Split base cs rest where
  inside c member := by
    rw [digit?_of_isDigit (octet.decimal c member) ten]
    rfl
  outside := outside

theorem octet?_eq_some (known : octet? cs = some (n, rest)) :
    ∃ used, cs = used ++ rest ∧ Octet used n := by
  obtain ⟨used, after, rfl, split⟩ := exists_split 10 cs
  have decimal : ∀ c ∈ used, c.isDigit := by
    intro c member
    obtain ⟨d, digit⟩ := Option.isSome_iff_exists.mp (split.inside c member)
    exact (isDigit_of_digit? digit).1
  have count := split.length
  simp only [octet?, split.digits, Option.ite_none_left_eq_some, Bool.or_eq_true, Bool.and_eq_true,
    decide_eq_true_eq, not_or, Option.some.injEq, Prod.mk.injEq] at known
  obtain ⟨⟨⟨⟨filled, short⟩, plain⟩, byte⟩, rfl, rfl⟩ := known
  refine ⟨used, rfl, decimal, ?_, by omega, ?_, ?_⟩
  · rintro rfl
    exact filled rfl
  · intro zero
    cases used with
    | nil => cases zero
    | cons c used =>
      cases zero
      have first : ('0' :: used).filterMap (digit? 10) = 0 :: used.filterMap (digit? 10) := rfl
      rw [first] at plain count
      have alone : ¬(0 :: used.filterMap (digit? 10)).length > 1 := fun more => plain ⟨rfl, more⟩
      rw [count, List.length_cons] at alone
      rw [List.length_eq_zero_iff.mp (by omega : used.length = 0)]
  · rw [Nat.toUInt8_eq, UInt8.toNat_ofNat_of_lt']
    have size : UInt8.size = 256 := rfl
    omega

theorem after?_eq_some (known : after? c cs = some rest) : cs = c :: rest := by
  cases cs with
  | nil => cases known
  | cons d cs =>
    simp only [after?, Option.ite_none_right_eq_some, Option.some.injEq] at known
    rw [known.1, known.2]

inductive Dotted : List Char → (UInt8 × UInt8 × UInt8 × UInt8) → Prop where
  | mk {w x y z : List Char} {a b c d : UInt8} (first : Octet w a) (second : Octet x b)
    (third : Octet y c) (fourth : Octet z d) :
    Dotted (w ++ '.' :: (x ++ '.' :: (y ++ '.' :: z))) (a, b, c, d)

theorem Dotted.begins {q : UInt8 × UInt8 × UInt8 × UInt8} (dotted : Dotted cs q) :
    ∃ used rest, cs = used ++ '.' :: rest ∧ Octet used q.1 := by
  obtain ⟨first, _, _, _⟩ := dotted
  exact ⟨_, _, rfl, first⟩

theorem v4?_eq_some {q : UInt8 × UInt8 × UInt8 × UInt8} (known : v4? cs = some (q, rest)) :
    ∃ used, cs = used ++ rest ∧ Dotted used q := by
  simp only [v4?, Bind.bind, Option.bind_eq_some_iff, Prod.exists] at known
  obtain ⟨a, r, first, r1, dot1, b, r2, second, r3, dot2, c, r4, third, r5, dot3, d, r6, fourth, same⟩ :=
    known
  cases same
  obtain ⟨w, rfl, first⟩ := octet?_eq_some first
  cases after?_eq_some dot1
  obtain ⟨x, rfl, second⟩ := octet?_eq_some second
  cases after?_eq_some dot2
  obtain ⟨y, rfl, third⟩ := octet?_eq_some third
  cases after?_eq_some dot3
  obtain ⟨z, rfl, fourth⟩ := octet?_eq_some fourth
  refine ⟨w ++ '.' :: (x ++ '.' :: (y ++ '.' :: z)), by simp, ?_⟩
  constructor <;> assumption

def isOwn (c : Char) : Bool := c.isAlphanum || c = '.' || c = ':'

theorem toNat_lt_of_own (own : isOwn c) : c.toNat < 0x80 := by
  have below {last : Char} (within : c ≤ last) (ascii : last.toNat < 0x80) : c.toNat < 0x80 :=
    Nat.lt_of_le_of_lt within ascii
  simp only [isOwn, Char.isAlphanum, Bool.or_eq_true, decide_eq_true_eq, isAlpha_iff, isDigit_iff] at own
  rcases own with (((⟨_, upper⟩ | ⟨_, lower⟩) | ⟨_, digit⟩) | rfl) | rfl
  · exact below upper (by decide)
  · exact below lower (by decide)
  · exact below digit (by decide)
  · decide
  · decide

theorem forall_own {p : Char → Prop} (all : ∀ n < 0x80, isOwn (Char.ofNat n) → p (Char.ofNat n))
    (own : isOwn c) : p c := by
  have found := all c.toNat (toNat_lt_of_own own)
  rw [Char.ofNat_toNat] at found
  exact found own

theorem Dotted.decimal {q : UInt8 × UInt8 × UInt8 × UInt8} (dotted : Dotted cs q) :
    ∀ c ∈ cs, c.isDigit ∨ c = '.' := by
  obtain ⟨first, second, third, fourth⟩ := dotted
  have numbers {cs : List Char} {n : UInt8} (octet : Octet cs n) : ∀ c ∈ cs, c.isDigit ∨ c = '.' :=
    fun c member => .inl (octet.decimal c member)
  simp only [List.forall_mem_append, List.forall_mem_cons, or_true, true_and]
  exact ⟨numbers first, numbers second, numbers third, numbers fourth⟩

theorem Dotted.own {q : UInt8 × UInt8 × UInt8 × UInt8} (dotted : Dotted cs q) :
    ∀ c ∈ cs, isOwn c ∧ c ≠ ':' := by
  intro c member
  rcases dotted.decimal c member with digit | rfl
  · refine ⟨by simp [isOwn, Char.isAlphanum, digit], ?_⟩
    rintro rfl
    cases digit
  · exact ⟨rfl, by decide⟩

theorem group?_eq_some {g : UInt16} (known : group? cs = some (g, rest)) :
    ∃ used, cs = used ++ rest ∧ Split 16 used rest ∧ used ≠ [] ∧ used.length ≤ 4 ∧
      g = (ofDigits 16 (used.filterMap (digit? 16))).toUInt16 := by
  obtain ⟨used, after, rfl, split⟩ := exists_split 16 cs
  have count := split.length
  simp only [group?, split.digits, Option.ite_none_left_eq_some, Bool.or_eq_true, decide_eq_true_eq,
    not_or, Option.some.injEq, Prod.mk.injEq] at known
  obtain ⟨⟨filled, short⟩, rfl, rfl⟩ := known
  refine ⟨used, rfl, split, ?_, by omega, rfl⟩
  rintro rfl
  exact filled rfl

theorem own_of_split {used : List Char} (split : Split 16 used rest) : ∀ c ∈ used, isOwn c := by
  intro c member
  obtain ⟨d, digit⟩ := Option.isSome_iff_exists.mp (split.inside c member)
  simp [isOwn, isAlphanum_of_digit? digit]

inductive Row : (room : Nat) → List Char → List UInt16 → Bool → List Char → Prop where
  | four {room : Nat} {cs rest : List Char} {a b c d : UInt8}
    (read : v4? cs = some ((a, b, c, d), rest)) : Row (room + 2) cs [pair a b, pair c d] true rest
  | one {room : Nat} {cs rest : List Char} {g : UInt16} (read : group? cs = some (g, rest)) :
    Row (room + 1) cs [g] false rest
  | more {room : Nat} {cs inner rest : List Char} {g : UInt16} {gs : List UInt16} {four : Bool}
    (read : group? cs = some (g, ':' :: inner)) (later : Row room inner gs four rest) :
    Row (room + 1) cs (g :: gs) four rest

theorem groups_after (room : Nat) (cs : List Char) : groups false room cs = ([], false, cs) ∨
    ∃ inner, cs = ':' :: inner ∧ groups false room cs = groups true room inner ∧
      (groups true room inner).1 ≠ [] := by
  cases room with
  | zero => exact .inl rfl
  | succ room =>
    cases cs with
    | nil => exact .inl rfl
    | cons c inner =>
      by_cases colon : c = ':'
      · subst colon
        cases four : (if room = 0 then none else v4? inner) with
        | some read =>
          have begins : groups true (room + 1) inner = groups false (room + 1) (':' :: inner) := by
            simp [groups, after?, four]
          exact .inr ⟨inner, rfl, begins.symm, by simp [groups, four]⟩
        | none =>
          cases one : group? inner with
          | some read =>
            have begins : groups true (room + 1) inner = groups false (room + 1) (':' :: inner) := by
              simp [groups, after?, four, one]
            exact .inr ⟨inner, rfl, begins.symm, by simp [groups, four, one]⟩
          | none => exact .inl (by simp [groups, after?, four, one])
      · have none : after? ':' (c :: inner) = none := by simp [after?, colon]
        exact .inl (by simp [groups, none])

theorem row_of_groups (known : groups true room cs = (gs, four, rest)) :
    gs = [] ∧ four = false ∧ rest = cs ∨ Row room cs gs four rest := by
  induction room generalizing cs gs four rest with
  | zero =>
    cases known
    exact .inl ⟨rfl, rfl, rfl⟩
  | succ room ih =>
    simp only [groups, if_true] at known
    split at known
    · rename_i a b c d after read
      cases known
      obtain ⟨some, read⟩ := Option.ite_none_left_eq_some.mp read
      obtain ⟨room, rfl⟩ := Nat.exists_eq_succ_of_ne_zero some
      exact .inr (.four read)
    · split at known
      · rename_i g after read
        cases known
        rcases groups_after room after with none | ⟨inner, rfl, same, some⟩
        · rw [none]
          exact .inr (.one read)
        · rw [same]
          rcases ih rfl with ⟨empty, _⟩ | row
          · exact absurd empty some
          · exact .inr (.more read row)
      · cases known
        exact .inl ⟨rfl, rfl, rfl⟩

theorem Row.own (row : Row room cs gs four rest) :
    ∃ used, cs = used ++ rest ∧ ∀ c ∈ used, isOwn c := by
  induction row with
  | four read =>
    obtain ⟨used, rfl, dotted⟩ := v4?_eq_some read
    exact ⟨used, rfl, fun c member => (dotted.own c member).1⟩
  | one read =>
    obtain ⟨used, rfl, split, _⟩ := group?_eq_some read
    exact ⟨used, rfl, own_of_split split⟩
  | @more room cs inner rest g gs four read later ih =>
    obtain ⟨used, rfl, split, _⟩ := group?_eq_some read
    obtain ⟨tail, rfl, own⟩ := ih
    refine ⟨used ++ ':' :: tail, by simp, ?_⟩
    simp only [List.forall_mem_append, List.forall_mem_cons]
    exact ⟨own_of_split split, rfl, own⟩

theorem Row.length (row : Row room cs gs four rest) : 0 < gs.length ∧ gs.length ≤ room := by
  induction row with
  | four => simp
  | one => simp
  | more read later ih => simp only [List.length_cons]; omega

theorem Row.begins (row : Row room cs gs four rest) : ∃ c later, cs = c :: later ∧ c ≠ ':' := by
  have grouped {cs rest : List Char} {g : UInt16} (read : group? cs = some (g, rest)) :
      ∃ c later, cs = c :: later ∧ c ≠ ':' := by
    obtain ⟨used, rfl, split, filled, _⟩ := group?_eq_some read
    obtain ⟨c, used, rfl⟩ := List.exists_cons_of_ne_nil filled
    refine ⟨c, _, rfl, ?_⟩
    rintro rfl
    cases split.inside ':' List.mem_cons_self
  cases row with
  | four read =>
    obtain ⟨used, rfl, dotted⟩ := v4?_eq_some read
    obtain ⟨begun, behind, rfl, octet⟩ := dotted.begins
    obtain ⟨c, begun, rfl⟩ := List.exists_cons_of_ne_nil octet.nonempty
    refine ⟨c, _, rfl, ?_⟩
    rintro rfl
    cases octet.decimal ':' List.mem_cons_self
  | one read => exact grouped read
  | more read => exact grouped read

theorem Row.filled (row : Row room cs gs four rest) : cs ≠ [] := by
  obtain ⟨c, later, rfl, _⟩ := row.begins
  exact List.cons_ne_nil c later

theorem Row.colon (row : Row room cs gs four rest) (many : 2 < gs.length) : ':' ∈ cs := by
  cases row with
  | four => simp at many
  | one => simp at many
  | more read later =>
    obtain ⟨used, rfl, _⟩ := group?_eq_some read
    simp

def Ending (room : Nat) (cs : List Char) (gs : List UInt16) : Prop :=
  cs = [] ∧ gs = [] ∨ ∃ four, Row room cs gs four []

/-- How an address of version six is written: eight groups, or two rows of them around two colons
that stand for the groups that are missing. -/
inductive Spelled : List Char → Address → Prop where
  | whole {cs : List Char} {gs : List UInt16} {four : Bool} (row : Row 8 cs gs four [])
    (eight : gs.length = 8) : Spelled cs (ofGroups gs [])
  | leading {after : List Char} {tail : List UInt16} (behind : Ending 7 after tail) :
    Spelled (':' :: ':' :: after) (ofGroups [] tail)
  | parted {cs after : List Char} {head tail : List UInt16}
    (ahead : Row 8 cs head false (':' :: ':' :: after)) (few : head.length < 8)
    (behind : Ending (7 - head.length) after tail) : Spelled cs (ofGroups head tail)

theorem spelled_of_v6? {a : Address} (known : v6? cs = some (a, [])) : Spelled cs a := by
  obtain ⟨head, four, rest, run⟩ : ∃ head four rest, groups true 8 cs = (head, four, rest) :=
    ⟨_, _, _, rfl⟩
  simp only [v6?, run] at known
  have row := row_of_groups run
  split at known
  · rename_i eight
    cases known
    rcases row with ⟨rfl, _⟩ | row
    · simp at eight
    · exact .whole row eight
  · rename_i few
    cases four with
    | true => cases known
    | false =>
      simp only [Bool.false_eq_true, if_false, Bind.bind, Option.bind_eq_some_iff] at known
      obtain ⟨next, one, after, other, same⟩ := known
      cases after?_eq_some one
      cases after?_eq_some other
      obtain ⟨tail, last, left, more⟩ : ∃ tail last left,
          groups true (7 - head.length) after = (tail, last, left) := ⟨_, _, _, rfl⟩
      rw [more] at same
      cases same
      have behind : Ending (7 - head.length) after tail := by
        rcases row_of_groups more with ⟨rfl, _, rfl⟩ | row
        · exact .inl ⟨rfl, rfl⟩
        · exact .inr ⟨last, row⟩
      rcases row with ⟨rfl, _, rfl⟩ | row
      · exact .leading behind
      · have most := row.length.2
        exact .parted row (by omega) behind

theorem Ending.own (ending : Ending room cs gs) : ∀ c ∈ cs, isOwn c := by
  rcases ending with ⟨rfl, _⟩ | ⟨four, row⟩
  · exact nofun
  · obtain ⟨used, rfl, own⟩ := row.own
    simpa using own

theorem Spelled.own {a : Address} (spelled : Spelled cs a) : ∀ c ∈ cs, isOwn c := by
  have colon : isOwn ':' := rfl
  cases spelled with
  | whole row eight => exact Ending.own (.inr ⟨_, row⟩)
  | leading behind =>
    simp only [List.forall_mem_cons]
    exact ⟨colon, colon, behind.own⟩
  | parted ahead few behind =>
    obtain ⟨used, rfl, own⟩ := ahead.own
    simp only [List.forall_mem_append, List.forall_mem_cons]
    exact ⟨own, colon, colon, behind.own⟩

theorem Spelled.colon {a : Address} (spelled : Spelled cs a) : ':' ∈ cs := by
  cases spelled with
  | whole row eight => exact row.colon (by omega)
  | leading behind => exact List.mem_cons_self
  | parted ahead few behind =>
    obtain ⟨used, rfl, _⟩ := ahead.own
    simp

theorem parse?_eq_some {s : String} {a : Address} (known : parse? s = some a) :
    (∃ a1 a2 a3 a4, a = .v4 a1 a2 a3 a4 ∧ Dotted s.toList (a1, a2, a3, a4)) ∨
      Spelled s.toList a := by
  unfold parse? at known
  split at known
  · rename_i a1 a2 a3 a4 rest read
    simp only [Option.ite_none_right_eq_some, Option.some.injEq] at known
    obtain ⟨rfl, rfl⟩ := known
    obtain ⟨used, same, dotted⟩ := v4?_eq_some read
    rw [List.append_nil] at same
    rw [same]
    exact .inl ⟨a1, a2, a3, a4, rfl, dotted⟩
  · split at known
    · rename_i a rest read
      simp only [Option.ite_none_right_eq_some, Option.some.injEq] at known
      obtain ⟨rfl, rfl⟩ := known
      exact .inr (spelled_of_v6? read)
    · cases known

end MissionWorker.Net.Address
