import MissionWorker.Text.Utf8

namespace MissionWorker.Child

inductive Stream where
  | stdout
  | stderr
  deriving DecidableEq, Inhabited

def Stream.name : Stream → String
  | .stdout => "stdout"
  | .stderr => "stderr"

namespace Output

def newline : UInt8 := 0x0A

def takeLine : List UInt8 → List UInt8 × List UInt8
  | [] => ([], [])
  | b :: rest =>
    if b = newline then ([b], rest)
    else
      let (line, rest) := takeLine rest
      (b :: line, rest)

theorem takeLine_of_unbroken {bytes : List UInt8} (unbroken : newline ∉ bytes) :
    takeLine bytes = (bytes, []) := by
  induction bytes with
  | nil => rfl
  | cons b rest ih =>
    obtain ⟨first, later⟩ := not_or.mp (mt List.mem_cons.mpr unbroken)
    rw [takeLine, if_neg (Ne.symm first), ih later]

theorem takeLine_of_break {part : List UInt8} (unbroken : newline ∉ part) (rest : List UInt8) :
    takeLine (part ++ newline :: rest) = (part ++ [newline], rest) := by
  induction part with
  | nil => simp [takeLine]
  | cons b part ih =>
    obtain ⟨first, later⟩ := not_or.mp (mt List.mem_cons.mpr unbroken)
    rw [List.cons_append, takeLine, if_neg (Ne.symm first), ih later, List.cons_append]

def text (line : List UInt8) : String :=
  let cs := (Text.Utf8.decodeLossy line).toList
  String.ofList ((cs.reverse.dropWhile fun c => c == '\r' || c == '\n').reverse)

/-- What a read of a stream comes to. A piece without bytes is met at the end of the stream. -/
inductive Read where
  | piece (bytes : List UInt8)
  | failed
  deriving DecidableEq

def Read.bytes : Read → List UInt8
  | .piece bytes => bytes
  | .failed => []

def nextRead : List Read → Read × List Read
  | [] => (.piece [], [])
  | r :: later => (r, later)

end Output

structure Forwarder where
  coming : List Output.Read
  ahead : List UInt8 := []
  begun : List UInt8 := []
  closed : Bool := false

namespace Forwarder

open Output

def gather (f : Forwarder) : Forwarder × Option String :=
  let (part, rest) := takeLine f.ahead
  let begun := f.begun ++ part
  if part.getLast? = some newline then ({ f with ahead := rest, begun := [] }, some (text begun))
  else ({ f with ahead := rest, begun }, none)

def finish (f : Forwarder) : Forwarder × Option String :=
  if f.begun = [] then ({ f with closed := true }, none)
  else ({ f with begun := [] }, some (text f.begun))

def read (f : Forwarder) : Forwarder × Option String :=
  let (next, later) := nextRead f.coming
  let f := { f with coming := later }
  match next with
  | .failed => ({ f with closed := true }, none)
  | .piece [] => f.finish
  | .piece bytes => ({ f with ahead := bytes }, none)

/-- One turn of a forwarder, and the line that it hands on if there is one. It reads only when it has
looked at all that it has read. -/
def turn (f : Forwarder) : Forwarder × Option String :=
  if f.closed then (f, none) else if f.ahead = [] then f.read else f.gather

inductive Turn (f : Forwarder) : Forwarder × Option String → Prop where
  | idle (closed : f.closed = true) : Turn f (f, none)
  | line {part rest : List UInt8} (running : f.closed = false)
    (read : f.ahead = part ++ newline :: rest) (unbroken : newline ∉ part) :
    Turn f ({ f with ahead := rest, begun := [] }, some (text (f.begun ++ part ++ [newline])))
  | part (running : f.closed = false) (read : f.ahead ≠ []) (unbroken : newline ∉ f.ahead) :
    Turn f ({ f with ahead := [], begun := f.begun ++ f.ahead }, none)
  | piece {bytes : List UInt8} {later : List Read} (running : f.closed = false) (looked : f.ahead = [])
    (next : nextRead f.coming = (.piece bytes, later)) (some_byte : bytes ≠ []) :
    Turn f ({ f with coming := later, ahead := bytes }, none)
  | tail {later : List Read} (running : f.closed = false) (looked : f.ahead = [])
    (next : nextRead f.coming = (.piece [], later)) (something : f.begun ≠ []) :
    Turn f ({ f with coming := later, begun := [] }, some (text f.begun))
  | ended {later : List Read} (running : f.closed = false) (looked : f.ahead = [])
    (next : nextRead f.coming = (.piece [], later)) (nothing : f.begun = []) :
    Turn f ({ f with coming := later, closed := true }, none)
  | failed {later : List Read} (running : f.closed = false) (looked : f.ahead = [])
    (next : nextRead f.coming = (.failed, later)) :
    Turn f ({ f with coming := later, closed := true }, none)

theorem gather_goes {f : Forwarder} (running : f.closed = false) (some_byte : f.ahead ≠ []) :
    Turn f f.gather := by
  by_cases broken : newline ∈ f.ahead
  · obtain ⟨part, rest, whole, unbroken⟩ := List.eq_append_cons_of_mem broken
    rw [gather, whole, takeLine_of_break unbroken]
    simp only [List.getLast?_concat, if_true, ← List.append_assoc]
    exact .line running whole unbroken
  · have last : f.ahead.getLast? ≠ some newline := fun last => broken (List.mem_of_getLast? last)
    rw [gather, takeLine_of_unbroken broken]
    simp only [last, if_false]
    exact .part running some_byte broken

theorem read_goes {f : Forwarder} (running : f.closed = false) (looked : f.ahead = []) :
    Turn f f.read := by
  unfold read
  cases came : nextRead f.coming with | mk next later =>
  match next with
  | .failed => exact .failed running looked came
  | .piece [] =>
    simp only [finish]
    split
    · exact .ended running looked came ‹_›
    · exact .tail running looked came ‹_›
  | .piece (b :: bytes) => exact .piece running looked came (List.cons_ne_nil b bytes)

theorem turn_goes (f : Forwarder) : Turn f f.turn := by
  rw [turn]
  split
  · exact .idle ‹_›
  · have running : f.closed = false := eq_false_of_ne_true ‹_›
    split
    · exact read_goes running ‹_›
    · exact gather_goes running ‹_›

def left (f : Forwarder) : Nat :=
  if f.closed then 0
  else
    1 + (if f.begun = [] then 0 else 1) + 2 * f.ahead.length +
      3 * (f.coming.flatMap Read.bytes).length

theorem left_pos {f : Forwarder} (running : f.closed = false) : 0 < f.left := by
  simp only [left, running, Bool.false_eq_true, if_false]
  omega

theorem nextRead_bytes {coming later : List Read} {next : Read}
    (came : nextRead coming = (next, later)) :
    coming.flatMap Read.bytes = next.bytes ++ later.flatMap Read.bytes := by
  cases coming <;> cases came <;> rfl

theorem Turn.left_lt {f : Forwarder} {result : Forwarder × Option String} (goes : Turn f result)
    (running : f.closed = false) : result.1.left < f.left := by
  cases goes with
  | idle closed => exact absurd (running.symm.trans closed) Bool.false_ne_true
  | line _ read =>
    simp only [left, running, read, Bool.false_eq_true, if_false, if_true, List.length_append,
      List.length_cons]
    omega
  | part _ read =>
    have some_byte := List.length_pos_iff.mpr read
    simp only [left, running, Bool.false_eq_true, if_false, List.length_nil]
    split <;> split <;> omega
  | piece _ looked next read =>
    have some_byte := List.length_pos_iff.mpr read
    simp only [left, running, looked, nextRead_bytes next, Read.bytes, Bool.false_eq_true, if_false,
      List.length_append, List.length_nil]
    omega
  | tail _ looked next something =>
    simp [left, running, looked, nextRead_bytes next, something, Read.bytes]
  | ended | failed => exact left_pos running

theorem turn_left {f : Forwarder} (running : f.closed = false) : f.turn.1.left < f.left :=
  f.turn_goes.left_lt running

def lines (f : Forwarder) : List String :=
  if f.closed then [] else f.turn.2.toList ++ f.turn.1.lines
termination_by f.left
decreasing_by exact turn_left (eq_false_of_ne_true ‹_›)

end Forwarder

def Forwarder.ofPieces (pieces : List (List UInt8)) : Forwarder := { coming := pieces.map .piece }

def Output.lines (pieces : List (List UInt8)) : List String := (Forwarder.ofPieces pieces).lines

inductive Sink where
  | memory
  | log
  | nothing

structure Memory where
  lines : List (Stream × String) := []

namespace Memory

def take (m : Memory) (sink : Sink) (stream : Stream) (line : String) : Memory :=
  match sink with
  | .memory => { lines := m.lines ++ [(stream, line)] }
  | .log | .nothing => m

def ofStream (m : Memory) (stream : Stream) : List String :=
  (m.lines.filter (·.1 == stream)).map (·.2)

def last? (m : Memory) : Option String :=
  m.lines.getLast?.map fun (stream, line) => stream.name ++ ": " ++ line

end Memory

structure Outlet where
  forwarders : Stream → Forwarder
  sink : Sink
  memory : Memory := {}

namespace Outlet

def launched (sink : Sink) (pieces : Stream → List (List UInt8)) : Outlet where
  forwarders s := .ofPieces (pieces s)
  sink := sink

def turn (o : Outlet) (s : Stream) : Outlet :=
  let (f, line?) := (o.forwarders s).turn
  { o with
    forwarders := fun t => if t = s then f else o.forwarders t
    memory := match line? with
      | some line => o.memory.take o.sink s line
      | none => o.memory }

def run (o : Outlet) (turns : List Stream) : Outlet := turns.foldl turn o

end Outlet
end MissionWorker.Child
