import MissionWorker.Bridge.Basic

namespace MissionWorker

namespace Url

def origin (u : Url) : List Char × Option (Host × Option Nat) :=
  (u.scheme, u.authority.map fun a => (a.host, a.port))

/-- Whether characters announce a host, without a scheme before it. -/
def namesHost : List Char → Bool
  | c :: d :: _ => isSlash c && isSlash d
  | _ => false

def hostText : List Char → List Char
  | '/' :: '/' :: rest => rest
  | cs => cs.dropWhile isSlash

variable {u base : Url} {s : String} {cs rest : List Char} {steps : List (List Char)}

theorem dropWhile_of_none {p : Char → Bool} (outside : ∀ c ∈ cs, p c = false) : cs.dropWhile p = cs := by
  cases cs with
  | nil => rfl
  | cons c cs =>
    have first := outside c List.mem_cons_self
    exact List.dropWhile_cons_of_neg (by simp [first])

theorem dropEnd_append {p : Char → Bool} {solid : List Char} (outside : ∀ c ∈ solid, p c = false) :
    ((solid ++ cs).reverse.dropWhile p).reverse = solid ++ (cs.reverse.dropWhile p).reverse := by
  rw [List.reverse_append, List.dropWhile_append]
  split
  · rename_i empty
    have back (c : Char) (member : c ∈ solid.reverse) : p c = false :=
      outside c (List.mem_reverse.mp member)
    rw [List.isEmpty_iff.mp empty, dropWhile_of_none back, List.reverse_reverse, List.reverse_nil,
      List.append_nil]
  · rw [List.reverse_append, List.reverse_reverse]

theorem cleaned_append (first : Char) (solid : List Char) (text : s.toList = first :: solid ++ cs)
    (written : (first :: solid).all (0x20 < ·.toNat) = true) :
    ∃ kept, kept <+: cs ∧
      cleaned s = first :: solid ++ kept.filter (· ∉ ['\t', '\n', '\r']) := by
  let isEdge (c : Char) : Bool := c.toNat ≤ 0x20
  have shown (c : Char) (member : c ∈ first :: solid) : 0x20 < c.toNat :=
    of_decide_eq_true (List.all_eq_true.mp written c member)
  have inside (c : Char) (member : c ∈ first :: solid) : isEdge c = false := by
    have after := shown c member
    simp only [isEdge, decide_eq_false_iff_not]
    omega
  have counts : (first :: solid).filter (· ∉ ['\t', '\n', '\r']) = first :: solid := by
    apply List.filter_eq_self.mpr
    intro c member
    have after := shown c member
    simp only [List.mem_cons, List.not_mem_nil, or_false, not_or, decide_eq_true_eq]
    refine ⟨?_, ?_, ?_⟩
    all_goals
      rintro rfl
      contradiction
  have ahead : s.toList.dropWhile isEdge = first :: solid ++ cs := by
    rw [text]
    exact List.dropWhile_cons_of_neg (by simp [inside first])
  refine ⟨(cs.reverse.dropWhile isEdge).reverse, ?_, ?_⟩
  · have suffix := List.reverse_prefix.mpr (List.dropWhile_suffix isEdge (l := cs.reverse))
    simpa using suffix
  · show ((s.toList.dropWhile isEdge).reverse.dropWhile isEdge).reverse.filter _ = _
    rw [ahead, dropEnd_append inside, List.filter_append, counts]

theorem finish_keeps (u : Url) (rest : List Char) :
    (u.finish rest).scheme = u.scheme ∧ (u.finish rest).authority = u.authority ∧
      (u.finish rest).path = u.path := by
  simp only [finish]
  split
  · exact ⟨rfl, rfl, rfl⟩
  · exact ⟨rfl, rfl, rfl⟩
  · exact ⟨rfl, rfl, rfl⟩

theorem readAfterSlashes_ok {scheme : List Char} (read : readAfterSlashes scheme cs = .ok u) :
    u.scheme = scheme ∧ ∃ a rest steps, readAuthority (.ofScheme scheme) cs = .ok (a, rest) ∧
      u.authority = some a ∧ u.path = .steps steps := by
  simp only [readAfterSlashes, Bind.bind, Except.bind] at read
  split at read
  · cases read
  · rename_i found authority
    obtain ⟨a, rest⟩ := found
    have named {steps : List (List Char)} {rest' : List Char}
        (same : ({ scheme, authority := some a, path := .steps steps } : Url).finish rest' = u) :
        u.scheme = scheme ∧ ∃ a rest steps, readAuthority (.ofScheme scheme) cs = .ok (a, rest) ∧
          u.authority = some a ∧ u.path = .steps steps := by
      obtain ⟨kept, hosted, led⟩ :=
        finish_keeps { scheme, authority := some a, path := .steps steps } rest'
      rw [same] at kept hosted led
      exact ⟨kept, a, rest, steps, authority, hosted, led⟩
    split at read
    · exact named (Except.ok.inj read)
    · exact named (Except.ok.inj read)

theorem kind_of_http (http : u.scheme = "http".toList) : u.kind = .special 80 := by
  rw [kind, http]
  rfl

theorem read_http (text : s.toList = "http://".toList ++ cs) (read : Url.read s = .ok u) :
    u.scheme = "http".toList ∧ ∃ steps, u.path = .steps steps := by
  obtain ⟨kept, _, clean⟩ := cleaned_append 'h' "ttp://".toList text rfl
  have found : Url.read s = readAfterSlashes "http".toList
      (('/' :: '/' :: kept.filter (· ∉ ['\t', '\n', '\r'])).dropWhile isSlash) := by
    rw [Url.read, clean]
    rfl
  rw [found] at read
  obtain ⟨scheme, _, _, steps, _, _, path⟩ := readAfterSlashes_ok read
  exact ⟨scheme, steps, path⟩

theorem join_slash (http : base.scheme = "http".toList) (path : base.path = .steps steps)
    (text : cleaned s = '/' :: rest) : base.join s = readBeside base ('/' :: rest) := by
  have schemeless : scheme? ('/' :: rest) = none := rfl
  have web : base.kind ≠ .file := by
    rw [kind_of_http http]
    exact Kind.noConfusion
  rw [join, text]
  simp [readCleaned, schemeless, path, web]

theorem readBeside_home (base : Url) (alone : namesHost ('/' :: rest) = false) :
    ∃ u, readBeside base ('/' :: rest) = .ok u ∧ u.scheme = base.scheme ∧
      u.authority = base.authority := by
  have one : rest.head?.any isSlash = false := by
    cases rest with
    | nil => rfl
    | cons d more => exact alone
  have built : readBeside base ('/' :: rest) = .ok (({ base with
      path := .steps (readSteps base.kind [] rest).1, query := none, fragment := none } : Url).finish
      (readSteps base.kind [] rest).2) := by
    simp [readBeside, announces, isSlash, one]
  obtain ⟨scheme, authority, _⟩ := finish_keeps { base with
    path := .steps (readSteps base.kind [] rest).1, query := none, fragment := none }
    (readSteps base.kind [] rest).2
  exact ⟨_, built, scheme, authority⟩

theorem readBeside_away (both : namesHost ('/' :: rest) = true) :
    readBeside base ('/' :: rest) = readAfterSlashes base.scheme (hostText ('/' :: rest)) := by
  cases rest with
  | nil => cases both
  | cons d more =>
    have slash : isSlash d = true := both
    by_cases plain : d = '/'
    · subst plain
      simp [readBeside, announces, isSlash, hostText]
    · have text : hostText ('/' :: d :: more) = ('/' :: d :: more).dropWhile isSlash := by
        simp [hostText, plain]
      rw [text]
      simp [readBeside, announces, slash, plain, show isSlash '/' = true from rfl]

end Url

namespace Bridge

variable {b : Bridge} {endpoint : String} {u : Url}

theorem looksAbsolute_ok (absolute : looksAbsolute endpoint = true) :
    ∃ rest, endpoint.toList = '/' :: rest ∧ rest.head? ≠ some '/' := by
  unfold looksAbsolute at absolute
  split at absolute
  · cases absolute
  · rename_i rest single text
    refine ⟨rest, text, ?_⟩
    intro double
    obtain ⟨more, rfl⟩ := List.head?_eq_some_iff.mp double
    exact single more rfl
  · cases absolute

/-- A slash that is not seen at first comes with a character that has no place in a path. -/
theorem disguised (absolute : looksAbsolute endpoint = true)
    (both : Url.namesHost (Url.cleaned endpoint) = true) :
    ∃ c ∈ endpoint.toList, c ∈ ['\\', '\t', '\n', '\r'] := by
  obtain ⟨rest, text, single⟩ := looksAbsolute_ok absolute
  obtain ⟨kept, ⟨later, before⟩, clean⟩ := Url.cleaned_append '/' [] text rfl
  rw [clean] at both
  cases kept with
  | nil => cases both
  | cons d more =>
    have inside : d ∈ endpoint.toList := by simp [text, ← before]
    by_cases dropped : d ∈ ['\t', '\n', '\r']
    · exact ⟨d, inside, List.mem_cons_of_mem _ dropped⟩
    · rw [List.filter_cons_of_pos (by simpa using dropped)] at both
      have slash : Url.isSlash d = true := both
      have other : d ≠ '/' := by
        rintro rfl
        apply single
        rw [← before]
        rfl
      have back : d = '\\' := by simpa [Url.isSlash, other] using slash
      rw [back] at inside
      exact ⟨'\\', inside, List.mem_cons_self⟩

theorem ofConfig_web {c : Config.Bridge} (made : ofSettings (.ofConfig c) = .ok b) :
    b.base.scheme = "http".toList ∧ ∃ steps, b.base.path = .steps steps := by
  have text : (Settings.ofConfig c).baseUrl.toList = "http://".toList ++ c.address.toList :=
    String.toList_append
  unfold ofSettings at made
  split at made
  · cases made
  · rename_i base read
    split at made
    · cases made
      exact Url.read_http text read
    · cases made

/-- Where an endpoint of a bridge leads. -/
structure EndpointOrigin (b : Bridge) (endpoint : String) (u : Url) : Prop where
  scheme : u.scheme = b.base.scheme
  home : Url.namesHost (Url.cleaned endpoint) = false → u.origin = b.base.origin
  away : Url.namesHost (Url.cleaned endpoint) = true → ∃ a rest,
    Url.readAuthority b.base.kind (Url.hostText (Url.cleaned endpoint)) = .ok (a, rest) ∧
      u.authority = some a
  /-- So every endpoint without these characters leads to the bridge's own host. -/
  disguised : Url.namesHost (Url.cleaned endpoint) = true →
    ∃ c ∈ endpoint.toList, c ∈ ['\\', '\t', '\n', '\r']

theorem endpoint_origin {c : Config.Bridge} (made : ofSettings (.ofConfig c) = .ok b)
    (joined : b.endpointUrl endpoint = .ok u) : EndpointOrigin b endpoint u := by
  obtain ⟨http, steps, path⟩ := ofConfig_web made
  unfold endpointUrl at joined
  split at joined
  · rename_i absolute
    obtain ⟨rest, text, _⟩ := looksAbsolute_ok absolute
    obtain ⟨kept, _, clean⟩ := Url.cleaned_append '/' [] text rfl
    -- The guard has looked at the endpoint's own second character; this is the one that counts.
    have slash : Url.cleaned endpoint = '/' :: kept.filter (· ∉ ['\t', '\n', '\r']) := clean
    generalize kept.filter (· ∉ ['\t', '\n', '\r']) = counting at slash
    have beside := Url.join_slash http path slash
    rw [beside] at joined
    split at joined
    · rename_i u read
      cases joined
      cases own : Url.namesHost ('/' :: counting) with
      | false =>
        obtain ⟨v, home, scheme, authority⟩ := Url.readBeside_home b.base own
        cases home.symm.trans read
        exact {
          scheme := scheme
          home := fun _ => by rw [Url.origin, Url.origin, scheme, authority]
          away := by
            rw [slash, own]
            exact nofun
          disguised := disguised absolute }
      | true =>
        rw [Url.readBeside_away own] at read
        obtain ⟨scheme, a, rest, steps, found, authority, _⟩ := Url.readAfterSlashes_ok read
        exact {
          scheme := scheme
          home := by
            rw [slash, own]
            exact nofun
          away := by
            rw [slash]
            exact fun _ => ⟨a, rest, found, authority⟩
          disguised := disguised absolute }
    · cases joined
  · cases joined

def usual : Bridge where
  base := {
    scheme := "http".toList
    authority := some { host := .address (.v4 127 0 0 1), port := some 8765 }
    path := .steps [[]] }
  settings := .ofConfig {}

theorem eq_ok_of_toOption {ε α : Type} {r : Except ε α} {a : α} (known : r.toOption = some a) :
    r = .ok a := by
  cases r with
  | error => cases known
  | ok =>
    cases known
    rfl

theorem ofConfig_usual : ofSettings (.ofConfig {}) = .ok usual := by
  have read : Url.read (Settings.ofConfig {}).baseUrl = .ok usual.base :=
    eq_ok_of_toOption (by decide +kernel)
  have sayable : isSayable (Settings.ofConfig {}).userAgent = true := by decide +kernel
  simp only [ofSettings, read, sayable, if_true]
  rfl

theorem endpoint_origin_of_path : ∃ u, ofSettings (.ofConfig {}) = .ok usual ∧
    usual.endpointUrl "/grid/build" = .ok u ∧ EndpointOrigin usual "/grid/build" u := by
  have joined : usual.endpointUrl "/grid/build" = .ok { usual.base with
      path := .steps ["grid".toList, "build".toList] } := eq_ok_of_toOption (by decide +kernel)
  exact ⟨_, ofConfig_usual, joined, endpoint_origin ofConfig_usual joined⟩

/-- A backslash leads elsewhere. -/
theorem endpoint_leaves_origin : ∃ u, Config.Bridge.check {} = .ok () ∧
    ofSettings (.ofConfig {}) = .ok usual ∧ usual.endpointUrl "/\\evil.example/x" = .ok u ∧
    u.origin ≠ usual.base.origin := by
  have joined : usual.endpointUrl "/\\evil.example/x" = .ok {
      scheme := "http".toList
      authority := some { host := .name "evil.example".toList }
      path := .steps ["x".toList] } := eq_ok_of_toOption (by decide +kernel)
  exact ⟨_, rfl, ofConfig_usual, joined, by decide⟩

end Bridge
end MissionWorker
