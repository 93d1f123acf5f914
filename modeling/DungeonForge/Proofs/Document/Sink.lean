import DungeonForge.Document.Sink
import DungeonForge.Proofs.Document.Decode
import Mathlib.Algebra.Order.Floor.Div
import Mathlib.Tactic.SplitIfs

/-!
What a sink has received when the writing of a document ends. The writer and the sink are taken
apart into calls and replies: first the interruptions, then the bytes that are taken, piece by
piece, and last, if there are bytes left, a refusal. How many bytes are taken is known beforehand,
and so is the number of pieces, since every piece but the last is as large as the sink allows.
-/

namespace DungeonForge

namespace Sink

inductive Reply
  | interrupted
  | took (n : Nat)
  | refused
deriving DecidableEq, Repr

/-- The replies to the calls that write the rest of a text, for a sink that still interrupts so many
calls and has taken so many bytes. A call offers all that is left; none follows a refusal. -/
inductive Calls (s : Sink) : (interrupts taken : Nat) → List UInt8 → List Reply → Prop
  | finished {interrupts taken : Nat} : Calls s interrupts taken [] []
  | interrupted {interrupts taken : Nat} {rest : List UInt8} {replies : List Reply} :
      rest ≠ [] → Calls s interrupts taken rest replies →
      Calls s (interrupts + 1) taken rest (.interrupted :: replies)
  | took {taken n : Nat} {rest : List UInt8} {replies : List Reply} :
      s.takes taken rest.length = n → n ≠ 0 → Calls s 0 (taken + n) (rest.drop n) replies →
      Calls s 0 taken rest (.took n :: replies)
  | refused {taken : Nat} {rest : List UInt8} :
      rest ≠ [] → s.takes taken rest.length = 0 → Calls s 0 taken rest [.refused]

/-- How many of `n` more bytes are taken in the end by a sink that has taken some. -/
def room (s : Sink) (taken n : Nat) : Nat :=
  if s.chunk = some 0 then 0 else s.capacity.elim n fun capacity => min n (capacity - taken)

def pieces (s : Sink) (n : Nat) : Nat :=
  s.chunk.elim (min n 1) (n ⌈/⌉ ·)

variable {s : Sink} {taken n : Nat}

theorem takes_eq (s : Sink) (taken n : Nat) :
    s.takes taken n = s.chunk.elim (s.room taken n) (min (s.room taken n)) := by
  unfold takes room
  cases chunk : s.chunk with
  | none => cases s.capacity <;> rfl
  | some c =>
    by_cases zero : c = 0
    · cases s.capacity <;> simp [zero]
    · cases s.capacity <;> simp [zero, Nat.min_comm, Nat.min_left_comm]

theorem room_le (s : Sink) (taken n : Nat) : s.room taken n ≤ n := by
  unfold room
  split_ifs
  · exact Nat.zero_le n
  · cases s.capacity with
    | none => exact Nat.le_refl n
    | some capacity => exact Nat.min_le_left _ _

theorem room_zero (s : Sink) (taken : Nat) : s.room taken 0 = 0 :=
  Nat.le_zero.1 (s.room_le taken 0)

theorem takes_le_room (s : Sink) (taken n : Nat) : s.takes taken n ≤ s.room taken n := by
  rw [takes_eq]
  cases s.chunk with
  | none => exact Nat.le_refl _
  | some c => exact Nat.min_le_left _ _

theorem takes_eq_zero_iff : s.takes taken n = 0 ↔ s.room taken n = 0 := by
  rw [takes_eq]
  cases chunk : s.chunk with
  | none => rfl
  | some c =>
    by_cases zero : c = 0
    · simp [room, chunk, zero]
    · simp only [Option.elim_some]
      omega

theorem room_after_takes (some_taken : s.takes taken n ≠ 0) :
    s.room (taken + s.takes taken n) (n - s.takes taken n) =
      s.room taken n - s.takes taken n := by
  have fits := s.takes_le_room taken n
  have opened : s.chunk ≠ some 0 := by
    intro closed
    exact some_taken (takes_eq_zero_iff.2 (by rw [room, if_pos closed]))
  generalize s.takes taken n = m at *
  simp only [room, if_neg opened] at fits ⊢
  cases s.capacity with
  | none => rfl
  | some capacity =>
    simp only [Option.elim_some] at fits ⊢
    omega

theorem pieces_of_takes (some_taken : s.takes taken n ≠ 0) :
    s.pieces (s.room taken n) = s.pieces (s.room taken n - s.takes taken n) + 1 := by
  have positive : s.room taken n ≠ 0 := fun none_taken =>
    some_taken (takes_eq_zero_iff.2 none_taken)
  rw [takes_eq] at some_taken ⊢
  unfold pieces
  cases chunk : s.chunk with
  | none =>
    simp only [Option.elim_none]
    omega
  | some c =>
    simp only [chunk, Option.elim_some, Nat.ceilDiv_eq_add_pred_div] at some_taken ⊢
    have c_pos : 0 < c := by omega
    generalize s.room taken n = r at *
    rcases Nat.le_total r c with last | more
    · -- the last piece takes all that is left
      have single : (r + c - 1) / c = 1 := Nat.div_eq_of_lt_le (by omega) (by omega)
      have nothing : (r - min r c + c - 1) / c = 0 := Nat.div_eq_of_lt (by omega)
      rw [single, nothing]
    · have shorter : r + c - 1 = r - min r c + c - 1 + c := by omega
      rw [shorter, Nat.add_div_right _ c_pos]

theorem Calls.interruptions {interrupts : Nat} {rest : List UInt8} {replies : List Reply}
    (calls : s.Calls interrupts taken rest replies) (left : rest ≠ []) :
    ∃ others, replies = List.replicate interrupts .interrupted ++ others ∧
      s.Calls 0 taken rest others := by
  induction interrupts generalizing replies with
  | zero => exact ⟨replies, rfl, calls⟩
  | succ interrupts ih =>
    cases calls with
    | finished => exact absurd rfl left
    | interrupted _ more =>
      obtain ⟨others, rfl, settled⟩ := ih more
      exact ⟨others, rfl, settled⟩

theorem Calls.course {interrupts : Nat} {rest : List UInt8} {replies : List Reply}
    (calls : s.Calls interrupts taken rest replies) (settled : interrupts = 0) :
    ∃ sizes : List Nat, sizes.length = s.pieces (s.room taken rest.length) ∧
      replies = sizes.map .took ++
        if s.room taken rest.length = rest.length then [] else [.refused] := by
  have no_pieces : s.pieces 0 = 0 := by
    unfold pieces
    cases s.chunk <;> simp
  induction calls with
  | finished =>
    exact ⟨[], by simp [room_zero, no_pieces]⟩
  | interrupted => exact absurd settled (Nat.succ_ne_zero _)
  | @took taken n rest replies takes positive _ ih =>
    obtain ⟨sizes, length, same⟩ := ih rfl
    subst takes
    rw [List.length_drop, room_after_takes positive] at length same
    have fits := s.takes_le_room taken rest.length
    have bound := s.room_le taken rest.length
    refine ⟨s.takes taken rest.length :: sizes, ?_, ?_⟩
    · rw [List.length_cons, length, pieces_of_takes positive]
    · have whole : s.room taken rest.length - s.takes taken rest.length =
          rest.length - s.takes taken rest.length ↔ s.room taken rest.length = rest.length := by
        omega
      rw [same, List.map_cons, List.cons_append]
      simp only [whole]
  | @refused taken rest left takes =>
    have none_taken := takes_eq_zero_iff.1 takes
    have some_left : ¬ 0 = rest.length := fun none_left =>
      left (List.length_eq_zero_iff.1 none_left.symm)
    refine ⟨[], ?_⟩
    rw [none_taken, no_pieces, if_neg some_left]
    exact ⟨rfl, rfl⟩

def ending (s : Sink) (rest : List UInt8) (t : Transcript) (calls : Nat) :
    Except SinkError Unit × Transcript :=
  let taken := s.room t.received.length rest.length
  (if taken = rest.length then .ok () else .error s.refusal.error,
    ⟨t.received ++ rest.take taken, t.writes + calls, t.flushes⟩)

theorem ending_empty (s : Sink) (text : List UInt8) (calls : Nat) :
    s.ending text .empty calls =
      (if s.room 0 text.length = text.length then .ok () else .error s.refusal.error,
        ⟨text.take (s.room 0 text.length), calls, 0⟩) := by
  rw [ending, Transcript.empty]
  simp only [List.nil_append, Nat.zero_add]
  rfl

theorem ending_interrupted (s : Sink) (rest : List UInt8) (t : Transcript) (calls : Nat) :
    s.ending rest { t with writes := t.writes + 1 } calls = s.ending rest t (calls + 1) := by
  simp only [ending, Nat.add_assoc, Nat.add_comm 1]

theorem ending_took {rest : List UInt8} {t : Transcript}
    (takes : s.takes t.received.length rest.length = n) (positive : n ≠ 0) (calls : Nat) :
    s.ending (rest.drop n) ⟨t.received ++ rest.take n, t.writes + 1, t.flushes⟩ calls =
      s.ending rest t (calls + 1) := by
  subst takes
  have fits := s.takes_le_room t.received.length rest.length
  have bound := s.room_le t.received.length rest.length
  have piece : (rest.take (s.takes t.received.length rest.length)).length =
      s.takes t.received.length rest.length := by
    rw [List.length_take]
    omega
  have whole : s.room t.received.length rest.length - s.takes t.received.length rest.length =
      rest.length - s.takes t.received.length rest.length ↔
      s.room t.received.length rest.length = rest.length := by
    omega
  simp only [ending, List.length_append, List.length_drop, piece, room_after_takes positive, whole,
    List.append_assoc, ← List.take_add, Nat.add_sub_cancel' fits, Nat.add_assoc, Nat.add_comm 1]

/-- The writer makes the calls of the replies, and fails if not all bytes are taken. -/
theorem writeAll_calls (s : Sink) (interrupts : Nat) (rest : List UInt8) (t : Transcript) :
    ∃ replies, s.Calls interrupts t.received.length rest replies ∧
      s.writeAll interrupts rest t = s.ending rest t replies.length := by
  induction interrupts, rest, t using writeAll.induct s with
  | case1 interrupts t =>
    refine ⟨[], .finished, ?_⟩
    rw [writeAll]
    simp [ending, room_zero]
  | case2 t b bs k ih =>
    obtain ⟨replies, calls, same⟩ := ih
    refine ⟨.interrupted :: replies, .interrupted (List.cons_ne_nil b bs) calls, ?_⟩
    rw [writeAll, same]
    exact s.ending_interrupted (b :: bs) t replies.length
  | case3 t b bs none_taken =>
    refine ⟨[.refused], .refused (List.cons_ne_nil b bs) none_taken, ?_⟩
    rw [writeAll, none_taken, ending, takes_eq_zero_iff.1 none_taken]
    simp
  | case4 t b bs n takes ih =>
    obtain ⟨replies, calls, same⟩ := ih
    have length : (b :: bs.take n).length = n + 1 := by
      have bound := s.takes_le_room t.received.length (b :: bs).length
      have fits := s.room_le t.received.length (b :: bs).length
      rw [takes, List.length_cons] at bound
      rw [List.length_cons, List.length_take]
      simp only [List.length_cons] at fits
      omega
    rw [List.length_append, length] at calls
    refine ⟨.took (n + 1) :: replies, .took takes (Nat.succ_ne_zero n) calls, ?_⟩
    rw [writeAll, takes]
    exact same.trans (ending_took takes (Nat.succ_ne_zero n) replies.length)

theorem send_empty (s : Sink) (text : String) :
    ∃ replies, s.Calls s.interrupts 0 (Text.bytes text) replies ∧
      s.send text .empty =
        (if s.room 0 (Text.bytes text).length = (Text.bytes text).length then
          (if s.flushFails then .error .flushRefused else .ok (),
            ⟨Text.bytes text, replies.length, 1⟩)
        else (.error s.refusal.error,
          ⟨(Text.bytes text).take (s.room 0 (Text.bytes text).length), replies.length, 0⟩)) := by
  obtain ⟨replies, calls, ended⟩ := s.writeAll_calls s.interrupts (Text.bytes text) .empty
  rw [ending_empty] at ended
  refine ⟨replies, calls, ?_⟩
  simp only [send, Transcript.empty, Nat.sub_zero] at ended ⊢
  by_cases whole : s.room 0 (Text.bytes text).length = (Text.bytes text).length
  · rw [if_pos whole, whole, List.take_length] at ended
    rw [ended, if_pos whole]
    rfl
  · rw [if_neg whole] at ended
    rw [ended, if_neg whole]

/-- Whether a sink takes a text of some size whole. -/
def Holds (s : Sink) (size : Nat) : Prop :=
  s.chunk ≠ some 0 ∧ ∀ capacity, s.capacity = some capacity → size ≤ capacity

theorem room_eq_self_iff {size : Nat} (positive : size ≠ 0) :
    s.room 0 size = size ↔ s.Holds size := by
  unfold room Holds
  split_ifs with closed
  · simp [closed, positive.symm]
  · cases s.capacity with
    | none => simp [closed]
    | some capacity => simp [closed]

theorem Calls.length_of_holds {interrupts : Nat} {text : List UInt8} {replies : List Reply}
    (calls : s.Calls interrupts 0 text replies) (filled : text ≠ []) (holds : s.Holds text.length) :
    replies.length = interrupts + s.pieces text.length := by
  have whole := (room_eq_self_iff (s := s) (mt List.length_eq_zero_iff.1 filled)).2 holds
  obtain ⟨others, rfl, settled⟩ := calls.interruptions filled
  obtain ⟨sizes, length, rfl⟩ := settled.course rfl
  rw [whole] at length
  rw [if_pos whole, List.append_nil, List.length_append, List.length_replicate, List.length_map,
    length]

theorem Calls.refused_last {interrupts : Nat} {text : List UInt8} {replies : List Reply}
    (calls : s.Calls interrupts 0 text replies) (filled : text ≠ [])
    (overflows : ¬ s.Holds text.length) :
    ∃ before, replies = before ++ [.refused] ∧ Reply.refused ∉ before := by
  have cut := mt (room_eq_self_iff (s := s) (mt List.length_eq_zero_iff.1 filled)).1 overflows
  obtain ⟨others, rfl, settled⟩ := calls.interruptions filled
  obtain ⟨sizes, -, rfl⟩ := settled.course rfl
  refine ⟨List.replicate interrupts .interrupted ++ sizes.map .took, ?_, by simp⟩
  rw [if_neg cut, List.append_assoc]

end Sink

namespace Dungeon

variable {d : Dungeon} {layout : Json.Layout} {text : String} {s : Sink}

theorem bytes_document_ne_nil (written : d.document? layout = .ok text) :
    Text.bytes text ≠ [] := by
  obtain ⟨-, rfl⟩ := document?_eq_ok_iff.1 written
  have filled : d.render layout ≠ [] := by
    cases layout <;> simp [render, documentValue, Json.Value.write]
  rw [ne_eq, ← List.length_eq_zero_iff, Text.length_bytes, String.utf8ByteSize_eq_zero_iff]
  simpa using filled

theorem writeTo_violation {v : Violation} (violated : d.document? layout = .error v) :
    d.writeTo layout s = (.error (.violation v), .empty) := by
  simp only [writeTo, violated]

theorem writeTo_document (written : d.document? layout = .ok text) :
    d.writeTo layout s = ((s.send text .empty).1.mapError .sink, (s.send text .empty).2) := by
  simp only [writeTo, written]

theorem writeTo_eq (written : d.document? layout = .ok text) :
    ∃ replies, s.Calls s.interrupts 0 (Text.bytes text) replies ∧
      d.writeTo layout s =
        (if s.room 0 (Text.bytes text).length = (Text.bytes text).length then
          (if s.flushFails then .error (.sink .flushRefused) else .ok (),
            ⟨Text.bytes text, replies.length, 1⟩)
        else (.error (.sink s.refusal.error),
          ⟨(Text.bytes text).take (s.room 0 (Text.bytes text).length), replies.length, 0⟩)) := by
  obtain ⟨replies, calls, sent⟩ := s.send_empty text
  refine ⟨replies, calls, ?_⟩
  rw [writeTo_document written, sent]
  split_ifs <;> rfl

/-- A sink has received the beginning of the document, and all of it if nothing failed. -/
theorem received_of_writeTo {result : Except WriteError Unit} {t : Transcript}
    (written : d.document? layout = .ok text) (wrote : d.writeTo layout s = (result, t)) :
    t.received <+: Text.bytes text ∧ (result = .ok () → t.received = Text.bytes text) := by
  obtain ⟨replies, -, same⟩ := writeTo_eq (s := s) written
  rw [wrote] at same
  split_ifs at same
  all_goals cases same
  · exact ⟨List.prefix_rfl, fun _ => rfl⟩
  · exact ⟨List.prefix_rfl, fun _ => rfl⟩
  · exact ⟨List.take_prefix _ _, nofun⟩

/-- Nothing reaches the sink if the dungeon has a violation. Otherwise the sink gets the beginning
of the document: all of it, and then one flush, if it can take it, and else what it can take, up to
the call that it refuses. -/
theorem writeTo_transcript (d : Dungeon) (layout : Json.Layout) (s : Sink) :
    (∀ v, d.firstViolation? = some v →
      d.writeTo layout s = (.error (.violation v), ⟨[], 0, 0⟩)) ∧
    (d.firstViolation? = none → ∃ text, d.document? layout = .ok text ∧
      (d.writeTo layout s).2.received <+: Text.bytes text ∧
      (s.Holds text.utf8ByteSize → ∃ writes,
        d.writeTo layout s =
          (if s.flushFails then .error (.sink .flushRefused) else .ok (),
            ⟨Text.bytes text, writes, 1⟩) ∧
        (∀ chunk, s.chunk = some chunk → writes = s.interrupts + text.utf8ByteSize ⌈/⌉ chunk) ∧
        (s.chunk = none → writes = s.interrupts + 1)) ∧
      (¬ s.Holds text.utf8ByteSize → ∃ size replies,
        d.writeTo layout s =
          (.error (.sink s.refusal.error),
            ⟨(Text.bytes text).take size, (replies ++ [Sink.Reply.refused]).length, 0⟩) ∧
        s.Calls s.interrupts 0 (Text.bytes text) (replies ++ [.refused]) ∧
        Sink.Reply.refused ∉ replies ∧
        (s.chunk = some 0 → size = 0) ∧
        (s.chunk ≠ some 0 → ∃ capacity, s.capacity = some capacity ∧
          size = min capacity text.utf8ByteSize))) := by
  constructor
  · intro v violated
    exact writeTo_violation (by rw [document?, violated])
  · intro valid
    obtain ⟨text, written⟩ : ∃ text, d.document? layout = .ok text :=
      ⟨_, document?_eq_ok_iff.2 ⟨valid, rfl⟩⟩
    have filled := bytes_document_ne_nil written
    have positive : (Text.bytes text).length ≠ 0 := mt List.length_eq_zero_iff.1 filled
    obtain ⟨replies, calls, same⟩ := writeTo_eq (s := s) written
    refine ⟨text, written, ?_, ?_, ?_⟩
    · rw [same]
      split
      · exact List.prefix_rfl
      · exact List.take_prefix _ _
    · rw [← Text.length_bytes]
      intro holds
      refine ⟨replies.length, ?_, fun chunk limited => ?_, fun unlimited => ?_⟩
      · rw [same, if_pos ((Sink.room_eq_self_iff positive).2 holds)]
      · rw [calls.length_of_holds filled holds, Sink.pieces, limited, Option.elim_some]
      · rw [calls.length_of_holds filled holds, Sink.pieces, unlimited, Option.elim_none]
        omega
    · rw [← Text.length_bytes]
      intro overflows
      obtain ⟨before, rfl, answered⟩ := calls.refused_last filled overflows
      refine ⟨s.room 0 (Text.bytes text).length, before, ?_, calls, answered, fun closed => ?_,
        fun opened => ?_⟩
      · rw [same, if_neg (mt (Sink.room_eq_self_iff positive).1 overflows)]
      · rw [Sink.room, if_pos closed]
      · cases limit : s.capacity with
        | none => exact absurd ⟨opened, by simp [limit]⟩ overflows
        | some capacity =>
          refine ⟨capacity, rfl, ?_⟩
          rw [Sink.room, if_neg opened, limit, Option.elim_some, Nat.sub_zero, Nat.min_comm]

def bareKeep : Dungeon :=
  ⟨"Keep", "", 1, []⟩

def trappedKeep : Dungeon :=
  ⟨"Keep", "", 1, [⟨"Cell", [⟨"Cell", .small, .boss, "Cell", [], [⟨"Pit", .stepOn, true, 101⟩],
    []⟩]⟩]⟩

def slowSink : Sink :=
  ⟨some 7, none, .full, 2, false⟩

def narrowSink : Sink :=
  ⟨some 7, some 20, .full, 2, false⟩

theorem writeTo_transcript_keeps :
    trappedKeep.writeTo .compact slowSink =
      (.error (.violation (.triggerChanceOutOfRange "Cell" "Pit" 101)), ⟨[], 0, 0⟩) ∧
    slowSink.Holds 60 ∧ ¬ narrowSink.Holds 60 ∧
    ∃ text writes, bareKeep.document? .compact = .ok text ∧ text.utf8ByteSize = 60 ∧
      bareKeep.writeTo .compact slowSink = (.ok (), ⟨Text.bytes text, 11, 1⟩) ∧
      bareKeep.writeTo .compact narrowSink =
        (.error (.sink .full), ⟨(Text.bytes text).take 20, writes, 0⟩) := by
  have holds : slowSink.Holds 60 := ⟨by decide, nofun⟩
  have overflows : ¬ narrowSink.Holds 60 := fun h => absurd (h.2 20 rfl) (by decide)
  have size : (String.ofList (bareKeep.render .compact)).utf8ByteSize = 60 := by
    decide +kernel
  obtain ⟨text, written, -, whole, -⟩ :=
    (writeTo_transcript bareKeep .compact slowSink).2 (by decide)
  obtain ⟨same, written', -, -, cut⟩ :=
    (writeTo_transcript bareKeep .compact narrowSink).2 (by decide)
  obtain ⟨-, rfl⟩ := document?_eq_ok_iff.1 written
  obtain ⟨-, rfl⟩ := document?_eq_ok_iff.1 written'
  obtain ⟨writes, ended, pieces, -⟩ := whole (by rwa [size])
  obtain ⟨taken, replies, stopped, -, -, -, limited⟩ := cut (by rwa [size])
  obtain ⟨capacity, limit, rfl⟩ := limited (by decide)
  cases limit
  have count : writes = 11 := (pieces 7 rfl).trans (by rw [size]; decide)
  rw [count] at ended
  rw [size] at stopped
  exact ⟨(writeTo_transcript trappedKeep .compact slowSink).1 _ (by decide), holds, overflows,
    _, _, written, size, ended, stopped⟩

end Dungeon

end DungeonForge
