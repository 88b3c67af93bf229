import Mathlib.Data.List.TakeWhile
import MissionWorker.Launch.Resolver
import MissionWorker.Proofs.Bridge.Origin
import MissionWorker.Proofs.Url.Host

namespace MissionWorker

open Net.Address (isOwn forall_own toNat_lt_of_own)

namespace Url

variable {k : Kind} {s : String} {cs host rest : List Char}

theorem cleaned_of_shown (shown : ∀ c ∈ s.toList, 0x20 < c.toNat) : cleaned s = s.toList := by
  cases text : s.toList with
  | nil =>
    simp [cleaned, text]
  | cons c cs =>
    rw [text] at shown
    have ends : s.toList = c :: cs ++ [] := by rw [text, List.append_nil]
    obtain ⟨kept, begins, clean⟩ := cleaned_append c cs ends
      (List.all_eq_true.mpr fun d member => decide_eq_true (shown d member))
    rw [clean, List.prefix_nil.mp begins]
    simp

theorem readCredentials_none (none : '@' ∉ cs) : readCredentials k cs = .ok ({}, cs) := by
  have absent : '@' ∉ cs.takeWhile (!endsAuthority k ·) :=
    fun member => none ((List.takeWhile_sublist _).subset member)
  simp only [readCredentials, List.contains_iff_mem, absent, if_false]

theorem splitHost_plain (inside : ∀ c ∈ host, endsAuthority k c = false ∧ c ≠ '[' ∧ c ≠ ':') :
    splitHost k false (host ++ ':' :: rest) = (host, ':' :: rest) := by
  induction host with
  | nil => simp [splitHost]
  | cons c host ih =>
    obtain ⟨first, later⟩ := List.forall_mem_cons.mp inside
    simp [splitHost, first, ih later]

theorem splitHost_bracketed (inside : ∀ c ∈ host, endsAuthority k c = false ∧ c ≠ ']') :
    splitHost k true (host ++ ']' :: ':' :: rest) = (host ++ [']'], ':' :: rest) := by
  induction host with
  | nil =>
    have bracket : endsAuthority k ']' = false := rfl
    simp [splitHost, bracket]
  | cons c host ih =>
    obtain ⟨first, later⟩ := List.forall_mem_cons.mp inside
    have still : (decide (c = '[') || c != ']') = true := by simp [first.2]
    simp [splitHost, first, still, ih later]

theorem toString_digits {n : Nat} : ∀ c ∈ (toString n).toList, c.isDigit := by
  intro c member
  have text : (toString n).toList = Nat.toDigits 10 n := by simp
  rw [text] at member
  exact Nat.isDigit_of_mem_toDigits (by omega) (by omega) member

theorem readPort_toString {n : Nat} (small : n < 65536) :
    readPort k (':' :: (toString n).toList) = .ok (if k = .special n then none else some n, []) := by
  have text : (toString n).toList = Nat.toDigits 10 n := by simp
  have digits : ∀ c ∈ Nat.toDigits 10 n, c.isDigit := by
    rw [← text]
    exact toString_digits
  have taken : (Nat.toDigits 10 n).takeWhile Char.isDigit = Nat.toDigits 10 n :=
    List.takeWhile_eq_self_iff.mpr digits
  have left : (Nat.toDigits 10 n).dropWhile Char.isDigit = [] := List.dropWhile_eq_nil_iff.mpr digits
  have value : (Nat.toDigits 10 n).foldl (fun n c => n * 10 + (c.toNat - '0'.toNat)) 0 = n := by
    have whole := Nat.ofDigitChars_ten_toDigits (n := n)
    rw [Nat.ofDigitChars_eq_foldl] at whole
    simpa only [Nat.mul_comm 10] using whole
  have within : ¬65535 < n := by omega
  simp only [readPort, text, taken, left, value, within, Nat.toDigits_ne_nil, decide_false,
    List.head?_nil, Option.any_none, Bool.or_false, Bool.false_or, Bool.false_eq_true, if_false,
    decide_eq_true_eq]

/-- What stands for a host between the slashes and the colon before the port. -/
structure Readable (written : List Char) (host : Host) : Prop where
  each : ∀ c ∈ written, 0x20 < c.toNat ∧ c ≠ '@' ∧ isSlash c = false
  filled : written ≠ []
  split : ∀ rest, splitHost (.special 80) false (written ++ ':' :: rest) = (written, ':' :: rest)
  named : Host.readSpecial written = .ok host
  worth : host ≠ .name []

theorem readAfterSlashes_address {written : List Char} {host : Host} {n : Nat}
    (readable : Readable written host) (small : n < 65536) :
    readAfterSlashes "http".toList (written ++ ':' :: (toString n).toList) = .ok {
      scheme := "http".toList
      authority := some { host, port := if 80 = n then none else some n }
      path := .steps [[]] } := by
  have kind : Kind.ofScheme "http".toList = .special 80 := rfl
  have single : '@' ∉ written ++ ':' :: (toString n).toList := by
    have digits : '@' ∉ (toString n).toList := by
      intro member
      cases toString_digits '@' member
    have plain : '@' ∉ written := fun member => (readable.each '@' member).2.1 rfl
    simp only [List.mem_append, List.mem_cons, plain, digits, or_false, false_or]
    decide
  have named : readHost (.special 80) (written ++ ':' :: (toString n).toList) =
      .ok (host, ':' :: (toString n).toList) := by
    simp [readHost, readable.split, readable.filled, readable.named, Except.map]
  have authority : readAuthority (.special 80) (written ++ ':' :: (toString n).toList) =
      .ok ({ host, port := if 80 = n then none else some n }, []) := by
    simp only [readAuthority, readCredentials_none single, named, readPort_toString small, Bind.bind,
      Except.bind]
    simp [readable.worth]
    rfl
  simp only [readAfterSlashes, kind, authority, Bind.bind, Except.bind]
  rfl

end Url

namespace Config

inductive Means (s : String) : Url.Host → Prop where
  | name (same : Rule.isLocalhost s) : Means s (.name "localhost".toList)
  | address {a : Net.Address} (read : Net.Address.parse? s = some a) (own : a.isLoopback) :
    Means s (.address a)

theorem means_of_loopback {part field s : String} (checked : Rule.loopback part field s = .ok ()) :
    ∃ host, Means s host := by
  simp only [Rule.loopback, Bind.bind, Except.bind] at checked
  split at checked
  · cases checked
  split at checked
  · rename_i same
    exact ⟨_, .name same⟩
  split at checked
  · rename_i a read
    split at checked
    · rename_i own
      exact ⟨_, .address read own⟩
    · cases checked
  · cases checked

def written (cs : List Char) : List Char := if ':' ∈ cs then '[' :: (cs ++ [']']) else cs

theorem address_eq (c : Bridge) :
    c.address.toList = written c.host.toList ++ ':' :: (toString c.port.toNat).toList := by
  by_cases colon : ':' ∈ c.host.toList
  · simp [Bridge.address, written, colon]
  · simp [Bridge.address, written, colon]

section Readable

variable {cs : List Char} {host : Url.Host} {s : String}

theorem own_each {c : Char} (own : isOwn c) : 0x20 < c.toNat ∧ c ≠ '@' ∧ Url.isSlash c = false :=
  forall_own (p := fun c => 0x20 < c.toNat ∧ c ≠ '@' ∧ Url.isSlash c = false) (by decide) own

theorem own_inside {c : Char} (own : isOwn c) :
    Url.endsAuthority (.special 80) c = false ∧ c ≠ '[' ∧ c ≠ ']' :=
  forall_own (p := fun c => Url.endsAuthority (.special 80) c = false ∧ c ≠ '[' ∧ c ≠ ']') (by decide) own

theorem readable_plain (own : ∀ c ∈ cs, isOwn c ∧ c ≠ ':') (named : Url.Host.readSpecial cs = .ok host)
    (filled : cs ≠ []) (worth : host ≠ .name []) : Url.Readable (written cs) host := by
  have single : ':' ∉ cs := fun member => (own ':' member).2 rfl
  rw [written, if_neg single]
  refine ⟨fun c member => own_each (own c member).1, filled, ?_, named, worth⟩
  intro rest
  apply Url.splitHost_plain
  intro c member
  obtain ⟨inside, bracket, _⟩ := own_inside (own c member).1
  exact ⟨inside, bracket, (own c member).2⟩

theorem readable_bracketed {a : Net.Address} (spelled : Net.Address.Spelled cs a) :
    Url.Readable (written cs) (.address a) := by
  have own := spelled.own
  rw [written, if_pos spelled.colon]
  refine ⟨?_, List.cons_ne_nil _ _, ?_, Url.Host.readSpecial_of_spelled spelled, nofun⟩
  · intro c member
    simp only [List.mem_cons, List.mem_append, List.not_mem_nil, or_false] at member
    rcases member with rfl | member | rfl
    · decide
    · exact own_each (own c member)
    · decide
  · intro rest
    have inside : Url.splitHost (.special 80) true (cs ++ ']' :: ':' :: rest) =
        (cs ++ [']'], ':' :: rest) := by
      apply Url.splitHost_bracketed
      intro c member
      obtain ⟨inside, _, bracket⟩ := own_inside (own c member)
      exact ⟨inside, bracket⟩
    have bracket : Url.endsAuthority (.special 80) '[' = false := rfl
    simp [Url.splitHost, bracket, inside]

theorem own_of_localhost (named : cs.map Char.toLower = "localhost".toList) :
    ∀ c ∈ cs, isOwn c ∧ c ≠ ':' := by
  intro c member
  have lowered : c.toLower ∈ "localhost".toList := by
    rw [← named]
    exact List.mem_map_of_mem member
  by_cases upper : 'A' ≤ c ∧ c ≤ 'Z'
  · refine ⟨by simp [isOwn, Char.isAlphanum, Net.Address.isAlpha_iff, upper], ?_⟩
    rintro rfl
    exact absurd upper.1 (by decide)
  · have same : c.toLower = c := dif_neg upper
    rw [same] at lowered
    have letters : "localhost".toList.all (fun c => isOwn c ∧ c ≠ ':') = true := rfl
    exact of_decide_eq_true (List.all_eq_true.mp letters c lowered)

theorem Means.forms (means : Means s host) :
    (∀ c ∈ s.toList, isOwn c ∧ c ≠ ':') ∧ s.toList ≠ [] ∧ host ≠ .name [] ∧
        Url.Host.readSpecial s.toList = .ok host ∨
      ∃ a, host = .address a ∧ Net.Address.Spelled s.toList a := by
  cases means with
  | name same =>
    have named : s.toList.map Char.toLower = "localhost".toList := by
      simpa [Rule.isLocalhost, Text.lowered, ← String.toList_inj] using same
    have own := own_of_localhost named
    refine .inl ⟨own, ?_, by decide, Url.Host.readSpecial_of_localhost own named⟩
    intro empty
    simp [empty] at named
  | address read own =>
    rcases Net.Address.parse?_eq_some read with ⟨a1, a2, a3, a4, rfl, dotted⟩ | spelled
    · refine .inl ⟨dotted.own, ?_, nofun, Url.Host.readSpecial_of_dotted dotted⟩
      obtain ⟨_, _, same, _⟩ := dotted.begins
      simp [same]
    · exact .inr ⟨_, rfl, spelled⟩

theorem Means.readable (means : Means s host) : Url.Readable (written s.toList) host := by
  rcases means.forms with ⟨own, filled, worth, named⟩ | ⟨a, rfl, spelled⟩
  · exact readable_plain own named filled worth
  · exact readable_bracketed spelled

theorem Means.own (means : Means s host) : ∀ c ∈ s.toList, isOwn c := by
  rcases means.forms with ⟨own, _⟩ | ⟨_, _, spelled⟩
  · exact fun c member => (own c member).1
  · exact spelled.own

end Readable

/-- The host and the port of an address: they stand before and after its last colon, the host
perhaps in brackets. -/
def addressParts (address : String) : List Char × List Char :=
  let port := (address.toList.reverse.takeWhile (· ≠ ':')).reverse
  let host := address.toList.take (address.toList.length - port.length - 1)
  (if host.head? = some '[' ∧ host.getLast? = some ']' then host.tail.dropLast else host, port)

theorem addressParts_address {c : Bridge} {host : Url.Host} (means : Means c.host host) :
    addressParts c.address = (c.host.toList, (toString c.port.toNat).toList) := by
  generalize digits : (toString c.port.toNat).toList = port
  have each : ∀ d ∈ port.reverse, d ≠ ':' := by
    rintro _ member rfl
    rw [← digits, List.mem_reverse] at member
    cases Url.toString_digits ':' member
  have text : c.address.toList = written c.host.toList ++ ':' :: port := by
    rw [← digits, address_eq]
  have last : (c.address.toList.reverse.takeWhile (· ≠ ':')).reverse = port := by
    have all : ∀ d ∈ port.reverse, decide (d ≠ ':') := fun d member => decide_eq_true (each d member)
    rw [text, List.reverse_append, List.reverse_cons, List.append_assoc, List.takeWhile_append_of_pos all]
    simp
  have first : c.address.toList.take (c.address.toList.length - port.length - 1) =
      written c.host.toList := by
    have length : c.address.toList.length - port.length - 1 = (written c.host.toList).length := by
      rw [text, List.length_append, List.length_cons]
      omega
    rw [length, text, List.take_left]
  simp only [addressParts, last, first]
  by_cases colon : ':' ∈ c.host.toList
  · have ends : ('[' :: (c.host.toList ++ [']'])).getLast? = some ']' := by
      rw [← List.cons_append, List.getLast?_concat]
    simp [written, colon, ends]
  · have plain : c.host.toList.head? ≠ some '[' := by
      intro bracket
      cases means.own '[' (List.mem_of_mem_head? bracket)
    simp [written, colon, plain]

theorem means_of_check {c : Bridge} (valid : c.check = .ok ()) : ∃ host, Means c.host host := by
  cases host : Rule.loopback Bridge.part "host" c.host with
  | error e =>
    rw [Bridge.check, host] at valid
    cases valid
  | ok => exact means_of_loopback host

end Config

namespace Launch

variable {r : Resolver} {spec : Spec}

theorem resolve_ok (resolved : r.resolve = .ok spec) : ∃ started, spec = r.complete started := by
  have completed {x : Except Error Spec} (run : (x >>= fun s => pure (r.complete s)) = .ok spec) :
      ∃ started, spec = r.complete started := by
    cases x with
    | error e => cases run
    | ok started => exact ⟨started, (Except.ok.inj run).symm⟩
  cases mode : r.mode with
  | override =>
    rw [Resolver.resolve, mode] at resolved
    exact ⟨_, (Except.ok.inj resolved).symm⟩
  | packaged =>
    rw [Resolver.resolve, mode] at resolved
    exact completed resolved
  | source =>
    rw [Resolver.resolve, mode] at resolved
    exact completed resolved

end Launch

namespace Bridge

inductive OwnHost : Url.Host → Prop where
  | name : OwnHost (.name "localhost".toList)
  | four (b c d : UInt8) : OwnHost (.address (.v4 127 b c d))
  | six : OwnHost (.address (.v6 #v[0, 0, 0, 0, 0, 0, 0, 1]))

theorem ownHost_of_means {s : String} {host : Url.Host} (means : Config.Means s host) :
    OwnHost host := by
  cases means with
  | name same => exact .name
  | @address a read own =>
    cases a with
    | v4 a b c d =>
      have first : a = 127 := eq_of_beq own
      subst first
      exact .four b c d
    | v6 groups =>
      have only : groups = #v[0, 0, 0, 0, 0, 0, 0, 1] := eq_of_beq own
      subst only
      exact .six

theorem ofConfig_of_means {c : Config.Bridge} {host : Url.Host} (means : Config.Means c.host host) :
    ofSettings (.ofConfig c) = .ok {
      base := {
        scheme := "http".toList
        authority := some { host, port := if 80 = c.port.toNat then none else some c.port.toNat }
        path := .steps [[]] }
      settings := .ofConfig c } := by
  have readable := means.readable
  obtain ⟨d, later, begins⟩ := List.exists_cons_of_ne_nil readable.filled
  have text : (Settings.ofConfig c).baseUrl.toList = "http://".toList ++ c.address.toList :=
    String.toList_append
  have shown : ∀ d ∈ (Settings.ofConfig c).baseUrl.toList, 0x20 < d.toNat := by
    have digits : ∀ d ∈ (toString c.port.toNat).toList, 0x20 < d.toNat := by
      intro d member
      have least : '0'.toNat ≤ d.toNat := (Net.Address.isDigit_iff.mp (Url.toString_digits d member)).1
      exact Nat.lt_of_lt_of_le (by decide) least
    rw [text, Config.address_eq]
    have scheme : "http://".toList.all (0x20 < ·.toNat) = true := rfl
    simp only [List.forall_mem_append, List.forall_mem_cons]
    exact ⟨fun d member => of_decide_eq_true (List.all_eq_true.mp scheme d member),
      fun d member => (readable.each d member).1, by decide, digits⟩
  have slashes : ('/' :: '/' :: c.address.toList).dropWhile Url.isSlash = c.address.toList := by
    have solid : Url.isSlash d = false := (readable.each d (by simp [begins])).2.2
    rw [Config.address_eq, begins, List.cons_append, List.dropWhile_cons_of_pos rfl,
      List.dropWhile_cons_of_pos rfl, List.dropWhile_cons_of_neg (by simp [solid])]
  have small : c.port.toNat < 65536 := c.port.toNat_lt
  have read : Url.read (Settings.ofConfig c).baseUrl = Url.readAfterSlashes "http".toList
      (('/' :: '/' :: c.address.toList).dropWhile Url.isSlash) := by
    rw [Url.read, Url.cleaned_of_shown shown, text]
    rfl
  have sayable : isSayable (Settings.ofConfig c).userAgent = true := by
    show isSayable ("fl-mission-planner/" ++ version) = true
    decide +kernel
  rw [slashes, Config.address_eq, Url.readAfterSlashes_address readable small] at read
  simp only [ofSettings, read, sayable, if_true]

/-- What the bridge and the worker are told of the place where the worker listens. -/
structure Shared (r : Launch.Resolver) (spec : Launch.Spec) : Prop where
  bridge : ∃ b a, ofSettings (.ofConfig r.bridge) = .ok b ∧ b.base.scheme = "http".toList ∧
    b.base.authority = some a ∧ OwnHost a.host ∧ Config.Means r.bridge.host a.host ∧
    a.port.getD 80 = r.bridge.port.toNat
  arguments : ∃ before, spec.args = before ++ ["--host", r.bridge.host,
    "--port", toString r.bridge.port.toNat, "--log-level", r.worker.logLevel]
  told : spec.env.lookup "FL_MISSION_WORKER_ADDR" = some (Text.Utf8.encode r.bridge.address)
  url : r.bridge.baseUrl = "http://" ++ r.bridge.address
  decoded : Config.addressParts r.bridge.address =
    (r.bridge.host.toList, (toString r.bridge.port.toNat).toList)

theorem loopback_shared {r : Launch.Resolver} {spec : Launch.Spec} (valid : r.bridge.check = .ok ())
    (resolved : r.resolve = .ok spec) : Shared r spec := by
  obtain ⟨host, means⟩ := Config.means_of_check valid
  obtain ⟨started, rfl⟩ := Launch.resolve_ok resolved
  exact {
    bridge := by
      refine ⟨_, _, ofConfig_of_means means, rfl, rfl, ownHost_of_means means, means, ?_⟩
      split
      · assumption
      · rfl
    arguments := ⟨started.args, rfl⟩
    told := Launch.lookup_setVariable _ _ _
    url := rfl
    decoded := Config.addressParts_address means }

/-- A long form of the address, with a part of version four. -/
theorem loopback_shared_of_long_form : ∃ r spec,
    r.bridge.host = "0:0::0:0.0.0.1" ∧ r.bridge.check = .ok () ∧ r.resolve = .ok spec ∧ Shared r spec := by
  let r : Launch.Resolver := {
    worker := { executable := some "/opt/worker/run" }
    bridge := { host := "0:0::0:0.0.0.1" }
    host := {} }
  have valid : r.bridge.check = .ok () := by decide +kernel
  exact ⟨r, _, rfl, valid, rfl, loopback_shared valid rfl⟩

end Bridge
end MissionWorker
