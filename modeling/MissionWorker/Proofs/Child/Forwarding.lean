import Mathlib.Data.List.DropRight
import MissionWorker.Child.Output
import MissionWorker.Proofs.Text.Lines

namespace MissionWorker.Child

open Text.Utf8 (characters)

namespace Output

variable {line : List UInt8}

def trimmed (cs : List Char) : String := String.ofList (cs.rdropWhile (· == '\r'))

def told (line : List UInt8) : String := trimmed (characters line)

theorem rdropWhile_congr {α : Type} {p q : α → Bool} {xs : List α}
    (same : ∀ x ∈ xs, p x = q x) : xs.rdropWhile p = xs.rdropWhile q := by
  induction xs using List.reverseRecOn with
  | nil => simp
  | append_singleton xs x ih =>
    have last := same x (by simp)
    simp only [List.rdropWhile_concat, last]
    split
    · exact ih fun y member => same y (by simp [member])
    · rfl

theorem text_of_unbroken (unbroken : newline ∉ line) : text line = told line := by
  have same : ∀ c ∈ characters line, (c == '\r' || c == '\n') = (c == '\r') := by
    intro c read
    have other : c ≠ '\n' := by
      rintro rfl
      exact unbroken (Text.Utf8.mem_of_mem_characters (by decide) (by decide) read)
    simp [other]
  exact congrArg String.ofList (rdropWhile_congr same)

theorem text_append_newline (unbroken : newline ∉ line) : text (line ++ [newline]) = told line := by
  -- The break is the last character that is read, and the first that is trimmed.
  rw [← text_of_unbroken unbroken]
  have read := Text.Utf8.characters_append_ascii (a := newline) (by decide) line []
  change String.ofList ((characters (line ++ [newline])).rdropWhile _) =
    String.ofList ((characters line).rdropWhile _)
  rw [read]
  exact congrArg String.ofList (List.rdropWhile_concat_pos _ _ _ (by decide))

/-- The lines that are to be told of bytes and of what reads bring after them. Once a read has failed
those are told that are complete. -/
def due (bytes : List UInt8) : List Read → List (List UInt8)
  | [] => Text.lines newline bytes
  | .piece more :: later => due (bytes ++ more) later
  | .failed :: _ => (bytes.splitOn newline).dropLast

theorem due_append_newline (unbroken : newline ∉ line) (rest : List UInt8) (coming : List Read) :
    due (line ++ newline :: rest) coming = line :: due rest coming := by
  induction coming generalizing rest with
  | nil => exact Text.lines_append_stop unbroken rest
  | cons next later ih =>
    cases next with
    | piece more => simp only [due, List.append_assoc, List.cons_append, ih]
    | failed =>
      rw [due, due, List.splitOn_append_cons_self_of_not_mem unbroken,
        List.dropLast_cons_of_ne_nil (List.splitOn_ne_nil newline rest)]

theorem due_pieces (bytes : List UInt8) (pieces : List (List UInt8)) :
    due bytes (pieces.map .piece) = Text.lines newline (bytes ++ pieces.flatten) := by
  induction pieces generalizing bytes with
  | nil => simp [due]
  | cons piece pieces ih => simp only [List.map_cons, due, ih, List.flatten_cons, List.append_assoc]

variable {coming later : List Read} {next : Read}

theorem nextRead_eq (came : nextRead coming = (next, later)) :
    coming = next :: later ∨ coming = [] ∧ next = .piece [] ∧ later = [] := by
  cases coming <;> cases came <;> simp

theorem mem_of_mem_later {r : Read} (came : nextRead coming = (next, later)) (member : r ∈ later) :
    r ∈ coming := by
  rcases nextRead_eq came with rfl | ⟨rfl, _, rfl⟩
  · exact List.mem_cons_of_mem next member
  · exact member

theorem eq_nil_of_end (filled : .piece [] ∉ coming) (came : nextRead coming = (.piece [], later)) :
    coming = [] ∧ later = [] := by
  rcases nextRead_eq came with rfl | ⟨rfl, _, rfl⟩
  · exact absurd List.mem_cons_self filled
  · exact ⟨rfl, rfl⟩

end Output

open Output

namespace Forwarder

variable {f : Forwarder} {result : Forwarder × Option String} {pieces : List (List UInt8)}

structure Sound (f : Forwarder) : Prop where
  unbroken : newline ∉ f.begun
  filled : .piece [] ∉ f.coming

def due (f : Forwarder) : List (List UInt8) :=
  if f.closed then [] else Output.due (f.begun ++ f.ahead) f.coming

theorem Turn.sound (goes : Turn f result) (sound : f.Sound) : result.1.Sound := by
  obtain ⟨unbroken, filled⟩ := sound
  cases goes with
  | idle => exact ⟨unbroken, filled⟩
  | line => exact ⟨by simp, filled⟩
  | part _ _ clean => exact ⟨by simp [unbroken, clean], filled⟩
  | piece _ _ next | ended _ _ next | failed _ _ next =>
    exact ⟨unbroken, fun member => filled (mem_of_mem_later next member)⟩
  | tail _ _ next => exact ⟨by simp, fun member => filled (mem_of_mem_later next member)⟩

theorem Turn.due_eq (goes : Turn f result) (sound : f.Sound) :
    f.due.map told = result.2.toList ++ result.1.due.map told := by
  obtain ⟨unbroken, filled⟩ := sound
  cases goes with
  | idle => simp
  | @line part rest running read clean =>
    -- The only turn that tells a line while more of the stream is in hand.
    have whole : newline ∉ f.begun ++ part := by simp [unbroken, clean]
    simp [due, running, read, ← List.append_assoc, due_append_newline whole,
      text_append_newline whole]
  | part running => simp [due, running]
  | piece running looked next some_byte =>
    rcases nextRead_eq next with came | ⟨_, nothing, _⟩
    · simp [due, running, looked, came, Output.due]
    · cases nothing
      exact absurd rfl some_byte
  | tail running looked next something =>
    obtain ⟨last, rfl⟩ := eq_nil_of_end filled next
    simp [due, running, looked, last, Output.due, Text.lines_of_unbroken, unbroken, something,
      text_of_unbroken unbroken]
  | ended running looked next nothing =>
    obtain ⟨last, rfl⟩ := eq_nil_of_end filled next
    simp [due, running, looked, last, Output.due, Text.lines_of_unbroken, nothing]
  | failed running looked next =>
    rcases nextRead_eq next with came | ⟨_, other, _⟩
    · simp [due, running, looked, came, Output.due, List.splitOn_eq_singleton unbroken]
    · cases other

theorem lines_eq (f : Forwarder) (sound : f.Sound) : f.lines = f.due.map told := by
  -- Turn by turn, until the forwarder is closed.
  induction f using Forwarder.lines.induct with
  | case1 f closed => simp [lines, due, closed]
  | case2 f running ih =>
    rw [lines, if_neg running, ih (f.turn_goes.sound sound), f.turn_goes.due_eq sound]

structure Thorough (f : Forwarder) : Prop extends Sound f where
  unfailed : .failed ∉ f.coming
  emptied : f.closed = true → f.coming = [] ∧ f.ahead = [] ∧ f.begun = []

theorem Turn.thorough (goes : Turn f result) (thorough : f.Thorough) : result.1.Thorough := by
  refine { goes.sound thorough.toSound with unfailed := ?_, emptied := ?_ }
  · cases goes with
    | piece _ _ next | tail _ _ next | ended _ _ next | failed _ _ next =>
      exact fun member => thorough.unfailed (mem_of_mem_later next member)
    | idle | line | part => exact thorough.unfailed
  · intro closed
    cases goes with
    | idle => exact thorough.emptied closed
    | line running | part running | piece running | tail running =>
      exact absurd (running.symm.trans closed) Bool.false_ne_true
    | ended _ looked next nothing => exact ⟨(eq_nil_of_end thorough.filled next).2, looked, nothing⟩
    | failed _ _ next =>
      rcases nextRead_eq next with came | ⟨_, other, _⟩
      · exact absurd (came ▸ List.mem_cons_self) thorough.unfailed
      · cases other

theorem left_eq_zero_iff : f.left = 0 ↔ f.closed = true := by
  unfold left
  split <;> simp_all

theorem ofPieces_thorough (filled : [] ∉ pieces) : (ofPieces pieces).Thorough where
  unbroken := List.not_mem_nil
  filled := by simpa [ofPieces] using filled
  unfailed := by simp [ofPieces]
  emptied closed := by cases closed

theorem ofPieces_due (pieces : List (List UInt8)) :
    (ofPieces pieces).due = Text.lines newline pieces.flatten := due_pieces [] pieces

theorem ofPieces_left (pieces : List (List UInt8)) :
    (ofPieces pieces).left = 1 + 3 * pieces.flatten.length := by
  simp [left, ofPieces, Read.bytes, List.flatMap_map]

end Forwarder

open Forwarder

/-- However a stream is cut into pieces, its lines are those of the whole. -/
theorem Output.lines_eq {pieces : List (List UInt8)} (filled : [] ∉ pieces) :
    Output.lines pieces = (Text.lines newline pieces.flatten).map told := by
  rw [lines, Forwarder.lines_eq _ (ofPieces_thorough filled).toSound, ofPieces_due]

namespace Memory

variable {m : Memory} {line : String} {s t : Stream}

theorem ofStream_take : (m.take .memory s line).ofStream s = m.ofStream s ++ [line] := by
  simp [take, ofStream]

theorem ofStream_take_of_ne (other : t ≠ s) : (m.take .memory s line).ofStream t = m.ofStream t := by
  simp [take, ofStream, Ne.symm other]

end Memory

namespace Outlet

variable {o : Outlet} {s t : Stream}

theorem turn_forwarder : (o.turn s).forwarders s = (o.forwarders s).turn.1 := by
  simp [turn]

theorem turn_forwarder_of_ne (other : t ≠ s) : (o.turn s).forwarders t = o.forwarders t := by
  simp [turn, other]

theorem turn_memory (o : Outlet) (s : Stream) : (o.turn s).memory =
    match (o.forwarders s).turn.2 with
    | some line => o.memory.take o.sink s line
    | none => o.memory := rfl

theorem run_keeps {p : Forwarder → Prop} (step : ∀ f, p f → p f.turn.1)
    (before : p (o.forwarders s)) (turns : List Stream) : p ((o.run turns).forwarders s) := by
  induction turns generalizing o with
  | nil => exact before
  | cons t turns ih =>
    apply ih
    by_cases same : s = t
    · subst same
      rw [turn_forwarder]
      exact step _ before
    · rwa [turn_forwarder_of_ne same]

theorem turn_due (kept : o.sink = .memory) (sound : (o.forwarders s).Sound) (t : Stream) :
    (o.turn t).memory.ofStream s ++ ((o.turn t).forwarders s).due.map told =
      o.memory.ofStream s ++ (o.forwarders s).due.map told := by
  rw [turn_memory, kept]
  by_cases same : s = t
  · subst same
    rw [turn_forwarder, (o.forwarders s).turn_goes.due_eq sound]
    cases (o.forwarders s).turn.2 with
    | none => rfl
    | some line => simp [Memory.ofStream_take]
  · rw [turn_forwarder_of_ne same]
    cases (o.forwarders t).turn.2 with
    | none => rfl
    | some line => simp only [Memory.ofStream_take_of_ne same]

theorem run_due (kept : o.sink = .memory) (sound : ∀ s, (o.forwarders s).Sound) (turns : List Stream)
    (s : Stream) : (o.run turns).memory.ofStream s ++ ((o.run turns).forwarders s).due.map told =
      o.memory.ofStream s ++ (o.forwarders s).due.map told := by
  induction turns generalizing o with
  | nil => rfl
  | cons t turns ih =>
    have later : ∀ s, ((o.turn t).forwarders s).Sound := fun s =>
      run_keeps (fun f sound => f.turn_goes.sound sound) (sound s) [t]
    exact (ih (o := o.turn t) kept later).trans (turn_due kept (sound s) t)

theorem run_left (o : Outlet) (turns : List Stream) (s : Stream) :
    ((o.run turns).forwarders s).left ≤ (o.forwarders s).left - turns.count s := by
  induction turns generalizing o with
  | nil => exact Nat.le_refl _
  | cons t turns ih =>
    apply Nat.le_trans (ih (o.turn t))
    by_cases same : s = t
    · subst same
      rw [turn_forwarder, List.count_cons_self]
      cases running : (o.forwarders s).closed with
      | true => simp [Forwarder.turn, running, left_eq_zero_iff.mpr running]
      | false =>
        have fewer := turn_left running
        omega
    · rw [turn_forwarder_of_ne same, List.count_cons_of_ne (Ne.symm same)]

end Outlet
open Outlet

/-- What is told of bytes: their lines, which are the same whether the bytes are cut into lines and
each is read, or the bytes are read and cut into lines then. -/
structure Told (written : List UInt8) (lines : List String) : Prop where
  cut_first : lines = (Text.lines newline written).map fun line => trimmed (characters line)
  read_first : lines = (Text.lines '\n' (characters written)).map trimmed
  count : lines.length = written.count newline +
    if written = [] ∨ written.getLast? = some newline then 0 else 1

structure Delivered (o : Outlet) (s : Stream) (lines : List String) : Prop where
  so_far : o.memory.ofStream s <+: lines
  emptied : (o.forwarders s).closed = true →
    (o.forwarders s).coming = [] ∧ (o.forwarders s).ahead = [] ∧ (o.forwarders s).begun = []
  complete : (o.forwarders s).closed = true → o.memory.ofStream s = lines

theorem lines_told {pieces : List (List UInt8)} (filled : [] ∉ pieces) :
    Told pieces.flatten (Output.lines pieces) where
  cut_first := Output.lines_eq filled
  read_first := by
    have either := Text.lines_characters (a := newline) (by decide) (by decide) pieces.flatten
    have newline_char : Char.ofNat newline.toNat = '\n' := by decide
    rw [newline_char] at either
    rw [Output.lines_eq filled, either, List.map_map]
    rfl
  count := by rw [Output.lines_eq filled, List.length_map, Text.length_lines]

theorem run_delivered {pieces : Stream → List (List UInt8)} (filled : ∀ s, [] ∉ pieces s)
    (turns : List Stream) (s : Stream) :
    Delivered ((launched .memory pieces).run turns) s (Output.lines (pieces s)) := by
  have thorough : ∀ s, ((launched .memory pieces).forwarders s).Thorough := fun s =>
    ofPieces_thorough (filled s)
  have kept := run_due (o := launched .memory pieces) rfl (fun s => (thorough s).toSound) turns s
  have whole : Output.lines (pieces s) = ((launched .memory pieces).forwarders s).due.map told :=
    Forwarder.lines_eq _ (thorough s).toSound
  have nothing : (launched .memory pieces).memory.ofStream s = [] := rfl
  rw [← whole, nothing, List.nil_append] at kept
  constructor
  · exact ⟨_, kept⟩
  · exact (run_keeps (fun f thorough => f.turn_goes.thorough thorough) (thorough s) turns).emptied
  · intro closed
    simpa [Forwarder.due, closed] using kept

/-- Whatever a process writes, in whatever pieces it is read, and however the turns of its two streams
fall: the forwarding of a stream ends, at the end of the stream, and then memory holds for the stream
what is to be told of its bytes, no line lost and none doubled. Before that it holds the first of these
lines. -/
theorem output_forwarded (written : Stream → List UInt8) (pieces : Stream → List (List UInt8))
    (whole : ∀ s, (pieces s).flatten = written s) (filled : ∀ s, [] ∉ pieces s) :
    ∀ s, Told (written s) (Output.lines (pieces s)) ∧
      ∀ turns : List Stream,
        Delivered ((launched .memory pieces).run turns) s (Output.lines (pieces s)) ∧
        (1 + 3 * (written s).length ≤ turns.count s →
          (((launched .memory pieces).run turns).forwarders s).closed = true) := by
  intro s
  rw [← whole s]
  refine ⟨lines_told (filled s), fun turns => ⟨run_delivered filled turns s, fun enough => ?_⟩⟩
  have left := run_left (launched .memory pieces) turns s
  have start : ((launched .memory pieces).forwarders s).left = 1 + 3 * (pieces s).flatten.length :=
    ofPieces_left (pieces s)
  rw [← left_eq_zero_iff]
  omega

/-- Pieces that end inside a character, between a carriage return and a line break, and before the line
break that cuts a character short; and a stream of one carriage return. -/
theorem output_forwarded_of_pieces :
    let pieces : Stream → List (List UInt8)
      | .stdout => [[0x61, 0xE2], [0x82, 0xAC, 0x0D, 0x0D], [0x0A, 0xE2, 0x82], [0x0A, 0x0A, 0x62]]
      | .stderr => [[0x0D]]
    let turns := (List.replicate 40 [Stream.stderr, .stdout]).flatten
    let o := (launched .memory pieces).run turns
    (∀ s, [] ∉ pieces s) ∧ o.memory.ofStream .stdout = ["a€", "\uFFFD", "", "b"] ∧
      o.memory.ofStream .stderr = [""] := by
  intro pieces turns o
  have filled : ∀ s, [] ∉ pieces s := by
    rintro (_ | _) <;> decide
  have forwarded := output_forwarded (fun s => (pieces s).flatten) pieces (fun _ => rfl) filled
  have held (s : Stream) (enough : 1 + 3 * (pieces s).flatten.length ≤ turns.count s) :
      o.memory.ofStream s = (Text.lines newline (pieces s).flatten).map told := by
    obtain ⟨told, delivered⟩ := forwarded s
    obtain ⟨delivered, ends⟩ := delivered turns
    rw [delivered.complete (ends enough), told.cut_first]
    rfl
  refine ⟨filled, ?_, ?_⟩
  · rw [held .stdout (by decide)]
    decide
  · rw [held .stderr (by decide)]
    decide

end MissionWorker.Child
