import MissionWorker.Url.Host
import MissionWorker.Proofs.Net.Address
import MissionWorker.Proofs.Text.Utf8

namespace MissionWorker.Url.Host

open Net Net.Address

variable {room : Nat} {whole four : Bool} {cs rest after next : List Char} {gs : List UInt16}

theorem pieces_nil : pieces room whole [] = some ([], none) := by
  cases room <;> rfl

theorem pieces_colon : pieces (room + 1) true (':' :: after) =
    (pieces room false after).map fun (later, _) => ([], some later) := by
  simp [pieces]

theorem exists_piece {used : List Char} (split : Split 16 used rest) (filled : used ≠ [])
    (short : used.length ≤ 4) : ∃ c cs ds, used ++ rest = c :: cs ∧ c ≠ ':' ∧
      used.filterMap (digit? 16) = ds ∧ digits 16 (c :: cs) = (ds, rest) ∧ ds ≠ [] ∧ ¬4 < ds.length := by
  obtain ⟨c, used, rfl⟩ := List.exists_cons_of_ne_nil filled
  have digit := split.inside c List.mem_cons_self
  have count := split.length
  refine ⟨c, used ++ rest, _, rfl, ?_, rfl, split.digits, ?_, by omega⟩
  · rintro rfl
    cases digit
  · intro empty
    rw [empty] at count
    cases count

theorem exists_piece_of_group {g : UInt16} (read : group? cs = some (g, rest)) :
    ∃ c later ds, cs = c :: later ∧ c ≠ ':' ∧ g = (ofDigits 16 ds).toUInt16 ∧
      digits 16 (c :: later) = (ds, rest) ∧ ds ≠ [] ∧ ¬4 < ds.length := by
  obtain ⟨used, rfl, split, filled, short, rfl⟩ := group?_eq_some read
  obtain ⟨c, later, ds, starts, other, rfl, piece⟩ := exists_piece split filled short
  exact ⟨c, later, _, starts, other, rfl, piece⟩

theorem pieces_last {g : UInt16} (read : group? cs = some (g, [])) :
    pieces (room + 1) whole cs = some ([g], none) := by
  obtain ⟨c, later, ds, rfl, other, rfl, digits, some, few⟩ := exists_piece_of_group read
  rw [pieces]
  simp [other, digits, some, few]

theorem pieces_more {g : UInt16} (read : group? cs = some (g, ':' :: next)) (follows : next ≠ []) :
    pieces (room + 1) whole cs =
      (pieces room whole next).map fun (before, after) => (g :: before, after) := by
  obtain ⟨c, later, ds, rfl, other, rfl, digits, some, few⟩ := exists_piece_of_group read
  rw [pieces]
  simp [other, digits, some, few]

theorem pieces_four {a b c d : UInt8} (read : v4? cs = some ((a, b, c, d), [])) :
    pieces (room + 2) whole cs = some ([pair a b, pair c d], none) := by
  obtain ⟨used, same, dotted⟩ := v4?_eq_some read
  rw [List.append_nil] at same
  subst same
  obtain ⟨begun, behind, same, octet⟩ := dotted.begins
  have split : Split 16 begun ('.' :: behind) := by
    apply octet.split (by omega)
    rintro c ⟨⟩
    rfl
  have short := octet.short
  obtain ⟨c, later, ds, starts, other, _, digits, some, few⟩ :=
    exists_piece split octet.nonempty (by omega)
  rw [same, starts] at read ⊢
  rw [pieces]
  simp [other, digits, some, few, read]

theorem pieces_row (whole : Bool) (row : Row room cs gs four []) :
    pieces room whole cs = some (gs, none) := by
  generalize ends : ([] : List Char) = rest at row
  induction row with
  | four read =>
    subst ends
    exact pieces_four read
  | one read =>
    subst ends
    exact pieces_last read
  | more read later ih =>
    have follows := later.filled
    rw [pieces_more read follows, ih ends]
    rfl

theorem pieces_parted (row : Row room cs gs false (':' :: ':' :: after)) (few : gs.length < room) :
    pieces room true cs =
      (pieces (room - gs.length - 1) false after).map fun (later, _) => (gs, some later) := by
  generalize unset : false = four at row
  generalize ends : ':' :: ':' :: after = rest at row
  induction row with
  | four read => cases unset
  | @one room cs rest g read =>
    subst ends
    obtain ⟨room, rfl⟩ : ∃ n, room = n + 1 := Nat.exists_eq_add_one.mpr (by simpa using few)
    rw [pieces_more read (List.cons_ne_nil _ _), pieces_colon, Option.map_map]
    rfl
  | @more room cs inner rest g gs four read later ih =>
    rw [List.length_cons] at few
    have left : room + 1 - (g :: gs).length - 1 = room - gs.length - 1 := by
      rw [List.length_cons]
      omega
    rw [pieces_more read later.filled, ih (by omega) unset ends, Option.map_map, left]
    rfl

theorem pieces_ending (ending : Ending room cs gs) : pieces room whole cs = some (gs, none) := by
  rcases ending with ⟨rfl, rfl⟩ | ⟨four, row⟩
  · exact pieces_nil
  · exact pieces_row whole row

theorem six?_of_spelled {a : Address} (spelled : Spelled cs a) : six? cs = some a := by
  cases spelled with
  | whole row eight =>
    have known := pieces_row true row
    obtain ⟨c, cs, rfl, other⟩ := row.begins
    simp [six?, known, other, eight]
  | leading behind => simp [six?, pieces_ending behind]
  | parted ahead few behind =>
    have known := pieces_parted ahead few
    have room {n : Nat} : 8 - n - 1 = 7 - n := by omega
    rw [room, pieces_ending behind] at known
    obtain ⟨c, cs, rfl, other⟩ := ahead.begins
    simp [six?, known, other]

theorem decode_of_plain (plain : ∀ c ∈ cs, c ≠ '%') :
    Percent.decode cs = Text.Utf8.encode (String.ofList cs) := by
  induction cs with
  | nil => simp [Percent.decode, Text.Utf8.encode_eq_flatMap]
  | cons c cs ih =>
    obtain ⟨other, plain⟩ := List.forall_mem_cons.mp plain
    rw [Percent.decode, ih plain]
    · simp [Text.Utf8.encode_eq_flatMap]
    · intro a b rest same
      exact absurd same other

theorem labels_eq_splitOn (cs : List Char) : Domain.labels cs = cs.splitOn '.' := by
  induction cs with
  | nil => rfl
  | cons c cs ih =>
    rw [List.splitOn_cons_eq_if_modifyHead, ← ih]
    by_cases dot : c = '.'
    · subst dot
      simp [Domain.labels]
    · rw [Domain.labels]
      · simp only [beq_iff_eq, dot, if_false]
        cases labels : Domain.labels cs with
        | nil =>
          rw [labels] at ih
          exact absurd ih.symm (List.splitOn_ne_nil '.' cs)
        | cons label more => rfl
      · exact dot

/-- Characters of ASCII that a domain name may have and that have no other form. -/
structure Usual (c : Char) : Prop where
  ascii : c.toNat < 0x80
  unescaped : c ≠ '%'
  allowed : Domain.isForbidden c.toLower = false

theorem usual_of_own {c : Char} (own : isOwn c) (colon : c ≠ ':') : Usual c := by
  have known := forall_own (p := fun c => c ≠ ':' → c ≠ '%' ∧ Domain.isForbidden c.toLower = false)
    (by decide) own colon
  exact ⟨toNat_lt_of_own own, known.1, known.2⟩

theorem ascii?_of_usual (usual : ∀ c ∈ cs, Usual c)
    (labels : ∀ label ∈ Domain.labels (cs.map Char.toLower), Domain.asciiLabel? label = some label) :
    Domain.ascii? (Percent.decode cs) = some (cs.map Char.toLower) := by
  have given : Text.Utf8.decode? (Percent.decode cs) = some (String.ofList cs) := by
    rw [decode_of_plain fun c member => (usual c member).unescaped, Text.Utf8.decode?_encode]
  have name : cs.mapM Domain.usual? = some (cs.map fun c => [c.toLower]) := by
    apply mapM_of_forall
    intro c member
    simp [Domain.usual?, (usual c member).ascii]
  have whole : (Domain.labels (cs.map Char.toLower)).mapM Domain.asciiLabel? =
      some (Domain.labels (cs.map Char.toLower)) := by
    rw [mapM_of_forall labels, List.map_id']
  have flat : (cs.map fun c => [c.toLower]).flatten = cs.map Char.toLower := by
    rw [← List.flatMap_def, List.map_eq_flatMap]
  have allowed : (cs.map Char.toLower).any Domain.isForbidden = false := by
    rw [List.any_map, List.any_eq_false]
    intro c member
    simp [(usual c member).allowed]
  have joined : ['.'].intercalate (Domain.labels (cs.map Char.toLower)) = cs.map Char.toLower := by
    rw [labels_eq_splitOn, List.intercalate_splitOn]
  simp only [Domain.ascii?, given, name, flat, allowed, whole, joined, Bind.bind, Option.bind_some,
    String.toList_ofList, Bool.false_eq_true, if_false]
  rfl

theorem number?_of_octet {n : UInt8} (octet : Octet cs n) : number? cs = some n.toNat := by
  have value := octet.value
  by_cases zero : cs.head? = some '0'
  · have alone := octet.plain zero
    subst alone
    rw [← value]
    rfl
  · have split : Split 10 cs [] := octet.split (by omega) nofun
    have digits := split.digits
    rw [List.append_nil] at digits
    obtain ⟨c, cs, rfl⟩ := List.exists_cons_of_ne_nil octet.nonempty
    have other : c ≠ '0' := fun same => zero (by rw [same]; rfl)
    rw [number?]
    · simp [number?.read, digits, value]
    all_goals simp [other]

theorem labels_of_dotted {w x y z : List Char} {a b c d : UInt8} (first : Octet w a)
    (second : Octet x b) (third : Octet y c) (fourth : Octet z d) :
    Domain.labels (w ++ '.' :: (x ++ '.' :: (y ++ '.' :: z))) = [w, x, y, z] := by
  have dotless {cs : List Char} {n : UInt8} (octet : Octet cs n) : '.' ∉ cs := by
    intro member
    cases octet.decimal '.' member
  rw [labels_eq_splitOn, List.splitOn_append_cons_self_of_not_mem (dotless first),
    List.splitOn_append_cons_self_of_not_mem (dotless second),
    List.splitOn_append_cons_self_of_not_mem (dotless third), List.splitOn_eq_singleton (dotless fourth)]

/-- Four numbers make up one, of which they can be told again. -/
theorem ofNumber_weights (a b c d : UInt8) :
    ofNumber (d.toNat + a.toNat * weight 3 + b.toNat * weight 2 + c.toNat * weight 1) = .v4 a b c d := by
  have first : weight 1 = 256 := rfl
  have second : weight 2 = 65536 := rfl
  have third : weight 3 = 16777216 := rfl
  have small (n : UInt8) : n.toNat < 256 := n.toNat_lt
  have byte {n : Nat} {m : UInt8} (same : n % 256 = m.toNat) : n.toUInt8 = m := by
    apply UInt8.toNat_inj.mp
    rw [Nat.toUInt8_eq, UInt8.toNat_ofNat', same]
  have bounds := And.intro (small a) (And.intro (small b) (And.intro (small c) (small d)))
  rw [ofNumber, first, second, third]
  congr 1
  all_goals
    apply byte
    omega

theorem four?_of_dotted {a b c d : UInt8} (dotted : Dotted cs (a, b, c, d)) :
    endsInNumber cs ∧ four? cs = some (.v4 a b c d) := by
  obtain ⟨first, second, third, fourth⟩ := dotted
  have labels := labels_of_dotted first second third fourth
  have byte (n : UInt8) : n.toNat ≤ 255 := Nat.le_of_lt_succ n.toNat_lt
  have least : weight 1 = 256 := rfl
  constructor
  · have digits := List.all_eq_true.mpr fourth.decimal
    simp [endsInNumber, parts, labels, fourth.nonempty, digits]
  · simp [four?, parts, labels, fourth.nonempty, number?_of_octet first, number?_of_octet second,
      number?_of_octet third, number?_of_octet fourth, byte, ofNumber_weights]
    have last := d.toNat_lt
    omega

theorem asciiLabel?_of_decimal (decimal : ∀ c ∈ cs, c.isDigit) :
    Domain.asciiLabel? cs = some cs := by
  have ascii : cs.any (fun c => decide (0x80 ≤ c.toNat)) = false := by
    apply List.any_eq_false.mpr
    intro c member
    have small : c.toNat ≤ '9'.toNat := (isDigit_iff.mp (decimal c member)).2
    have nine : '9'.toNat = 57 := rfl
    simp only [decide_eq_true_eq]
    omega
  have spelled : Domain.lead.isPrefixOf cs = false := by
    cases cs with
    | nil => rfl
    | cons c cs =>
      have other : c ≠ 'x' := by
        rintro rfl
        cases decimal 'x' List.mem_cons_self
      simp [Domain.lead, List.isPrefixOf, other.symm]
  simp [Domain.asciiLabel?, spelled, ascii]

theorem ascii?_of_dotted {a b c d : UInt8} (dotted : Dotted cs (a, b, c, d)) :
    Domain.ascii? (Percent.decode cs) = some cs := by
  have small : cs.map Char.toLower = cs := by
    have same : ∀ c ∈ cs, c.toLower = c := fun c member =>
      forall_own (p := fun c => c.isDigit ∨ c = '.' → c.toLower = c) (by decide)
        (dotted.own c member).1 (dotted.decimal c member)
    rw [List.map_congr_left same, List.map_id']
  have labels : ∀ label ∈ Domain.labels cs, Domain.asciiLabel? label = some label := by
    obtain ⟨first, second, third, fourth⟩ := dotted
    rw [labels_of_dotted first second third fourth]
    simp only [List.forall_mem_cons, List.not_mem_nil, false_implies, implies_true, and_true]
    exact ⟨asciiLabel?_of_decimal first.decimal, asciiLabel?_of_decimal second.decimal,
      asciiLabel?_of_decimal third.decimal, asciiLabel?_of_decimal fourth.decimal⟩
  have usual : ∀ c ∈ cs, Usual c := fun c member =>
    usual_of_own (dotted.own c member).1 (dotted.own c member).2
  have read := ascii?_of_usual usual
  rw [small] at read
  exact read labels

theorem readSpecial_of_dotted {a b c d : UInt8} (dotted : Dotted cs (a, b, c, d)) :
    readSpecial cs = .ok (.address (.v4 a b c d)) := by
  obtain ⟨number, four⟩ := four?_of_dotted dotted
  have ascii := ascii?_of_dotted dotted
  unfold readSpecial
  split
  · cases (dotted.own '[' List.mem_cons_self).1
  · rw [ascii]
    cases cs with
    | nil => cases number
    | cons c cs => simp [number, four]

theorem readSpecial_of_localhost (own : ∀ c ∈ cs, isOwn c ∧ c ≠ ':')
    (named : cs.map Char.toLower = "localhost".toList) :
    readSpecial cs = .ok (.name "localhost".toList) := by
  have ascii : Domain.ascii? (Percent.decode cs) = some "localhost".toList := by
    rw [← named]
    apply ascii?_of_usual
    · exact fun c member => usual_of_own (own c member).1 (own c member).2
    · rw [named]
      decide
  unfold readSpecial
  split
  · cases (own '[' List.mem_cons_self).1
  · rw [ascii]
    rfl

theorem readSpecial_of_spelled {a : Address} (spelled : Spelled cs a) :
    readSpecial ('[' :: (cs ++ [']'])) = .ok (.address a) := by
  have last : (cs ++ [']']).getLast? = some ']' := List.getLast?_concat
  simp [readSpecial, readBracketed, last, six?_of_spelled spelled]

end MissionWorker.Url.Host
