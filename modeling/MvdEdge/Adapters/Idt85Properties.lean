import MvdEdge.Adapters.Idt85
import MvdEdge.Adapters.InventoryReport

/-! The serial framing: a response is what the length byte at its start makes of
the bytes that arrived. A whole tag report passes through it unchanged, and a
report cut short stays cut short. -/

set_option autoImplicit false

namespace MvdEdge

open Lib Lib.Effect

def readFrame : Bytes → Bytes
  | [] => []
  | remainingLength :: bytes => remainingLength :: bytes.take remainingLength.toNat

theorem readFrame_length_le {bytes : Bytes} (nonempty : readFrame bytes ≠ []) :
    (readFrame bytes).length ≤ ((readFrame bytes).getD 0 0).toNat + 1 := by
  cases bytes with
  | nil => exact absurd rfl nonempty
  | cons remainingLength bytes => simp [readFrame]

namespace IDT85Reader

theorem record_triple {pre : Line → Prop} {raised : Exn → Line → Prop} (event : LineEvent)
    (kept : ∀ line, pre line → pre { line with log := event :: line.log }) :
    Triple pre (record event) (fun _ => pre) raised :=
  Triple.modify kept

section Framing

variable (env : LineEnv) {raised : Exn → Line → Prop}
  (fails : ∀ tick failure, env.fault tick = some failure → ∀ line, raised failure line)

include fails

theorem pyserial_triple {α : Type} {act : Line → α × Line} {pre : Line → Prop}
    {post : α → Line → Prop}
    (returns : ∀ line, pre line → post (act { line with tick := line.tick + 1 }).1
      (act { line with tick := line.tick + 1 }).2) :
    Triple pre (pyserial env act) post raised :=
  Triple.operation_of_fault returns fun failure _ stored _ _ => fails _ failure stored _

theorem read_triple (handle size : Nat) (bytes : Bytes) :
    Triple (fun line => line.input handle = bytes) (read env handle size)
      (fun chunk line => chunk = bytes.take size ∧ line.input handle = bytes.drop size)
      raised := by
  refine pyserial_triple env fails ?_
  intro line arrived
  simp [arrived]

theorem receive_triple (handle : Nat) (bytes : Bytes) :
    Triple (fun line => line.input handle = bytes) (receive env handle)
      (fun response _ => response = readFrame bytes) raised := by
  refine Triple.bind (read_triple env fails handle 1 bytes) fun first => ?_
  intro line both
  obtain ⟨same, left⟩ := both
  rw [same]
  cases bytes with
  | nil => rfl
  | cons remainingLength bytes =>
      refine Triple.bind (read_triple env fails handle remainingLength.toNat bytes)
        (fun rest => Triple.pure ?_) line left
      intro _ chunk
      rw [chunk.1]
      rfl

theorem write_triple (reader : IDT85Reader) (command : Bytes) (handle writes : Nat) :
    Triple (fun line => line.input handle = [] ∧ line.writes = writes)
      (write env reader handle command)
      (fun _ line => line.input handle = env.deliver writes) raised := by
  refine Triple.bind (record_triple _ fun _ empty => empty) fun _ => pyserial_triple env fails ?_
  intro line empty
  simp [empty.1, empty.2]

theorem sendCommand_triple (reader : IDT85Reader) (command : Bytes) (handle writes : Nat) :
    Triple (fun line => line.serialOf reader.object = some handle ∧ line.writes = writes)
      (sendCommand env reader command)
      (fun response _ => response = readFrame (env.deliver writes)) raised := by
  refine Triple.get fun line => ?_
  intro current both
  obtain ⟨rfl, isOpen, counted⟩ := both
  rw [isOpen]
  have cleared : Triple (fun line => line.writes = writes) (resetInputBuffer env handle)
      (fun _ line => line.input handle = [] ∧ line.writes = writes) raised :=
    pyserial_triple env fails fun line same => by simp [same]
  have flushed : Triple (fun line => line.input handle = env.deliver writes) (flush env)
      (fun _ line => line.input handle = env.deliver writes) raised :=
    pyserial_triple env fails fun _ arrived => arrived
  have slept : Triple (fun line => line.input handle = env.deliver writes) (sleep env)
      (fun _ line => line.input handle = env.deliver writes) raised :=
    Triple.operation_of_fault (fun _ arrived => arrived)
      fun failure _ stored _ _ => fails _ failure stored _
  exact Triple.bind cleared (fun _ => Triple.bind (write_triple env fails reader command handle
    writes) fun _ => Triple.bind flushed fun _ => Triple.bind slept fun _ =>
      Triple.bind (receive_triple env fails handle _) fun response =>
        Triple.bind (record_triple _ fun _ same => same) fun _ => Triple.pure fun _ same => same)
    current counted

end Framing

theorem inventory_eq (env : LineEnv) (quiet : ∀ tick, env.fault tick = none)
    (reader : IDT85Reader) (line : Line) {handle : Nat}
    (isOpen : line.serialOf reader.object = some handle) :
    ∃ next, inventory env reader line =
      .ok (classifyInventoryResponse (readFrame (env.deliver line.writes))) next := by
  have silent : ∀ tick failure, env.fault tick = some failure → ∀ _ : Line, False := by
    intro tick failure stored
    simp [quiet tick] at stored
  have asked := sendCommand_triple env silent reader (buildInventoryCommand reader.address)
    handle line.writes
  have answered : Triple (fun start => start.serialOf reader.object = some handle ∧
      start.writes = line.writes) (inventory env reader)
      (fun result _ => result =
        classifyInventoryResponse (readFrame (env.deliver line.writes))) fun _ _ => False :=
    Triple.bind asked fun response => Triple.pure fun _ same => by rw [same]
  obtain ⟨value, next, ran, rfl⟩ := answered.returns ⟨isOpen, rfl⟩
  exact ⟨next, ran⟩

end IDT85Reader

namespace TagReport

variable (report : TagReport)

theorem frame_nonempty : report.frame ≠ [] := by
  intro empty
  have length := report.frame_length
  simp [empty] at length

theorem readFrame_append (rest : Bytes) : readFrame (report.frame ++ rest) = report.frame := by
  have size := report.frame_head_toNat
  cases shape : report.frame with
  | nil => exact absurd shape report.frame_nonempty
  | cons remainingLength bytes =>
      rw [shape] at size
      have length : remainingLength.toNat = bytes.length := by simpa using size
      rw [List.cons_append, readFrame, length, List.take_left]

theorem readFrame_truncated {received rest : Bytes} (cut : report.frame = received ++ rest) :
    readFrame received = received := by
  have size := report.frame_head_toNat
  cases received with
  | nil => rfl
  | cons remainingLength bytes =>
      rw [cut] at size
      have length : remainingLength.toNat = bytes.length + rest.length := by
        simpa using size
      rw [readFrame, List.take_of_length_le (by omega)]

/-- The round trip of a report through the serial framing, whole or cut short. -/
theorem inventory_roundtrip (env : LineEnv) (quiet : ∀ tick, env.fault tick = none)
    (reader : IDT85Reader) (line : Line) {handle : Nat}
    (isOpen : line.serialOf reader.object = some handle) :
    (∀ rest, env.deliver line.writes = report.frame ++ rest →
      ∃ next, reader.inventory env line = .ok ⟨.VALID, report.tags⟩ next) ∧
    (∀ rest, rest ≠ [] → report.frame = env.deliver line.writes ++ rest →
      ∃ next, reader.inventory env line =
        .ok (if env.deliver line.writes = [] then ⟨.NO_RESPONSE, []⟩ else ⟨.MALFORMED, []⟩)
          next) := by
  obtain ⟨next, ran⟩ := IDT85Reader.inventory_eq env quiet reader line isOpen
  constructor
  · intro rest delivered
    refine ⟨next, ?_⟩
    rw [ran, delivered, report.readFrame_append, report.classify_frame]
  · intro rest missing cut
    refine ⟨next, ?_⟩
    rw [ran, report.readFrame_truncated cut]
    by_cases nothing : env.deliver line.writes = []
    · rw [if_pos nothing, nothing]
      rfl
    · rw [if_neg nothing, report.classify_truncated cut nothing missing]

end TagReport

def sampleReader : IDT85Reader := ⟨"COM3".toList, 57600, 0x00, VERIFY_AUTO, .agent, 0⟩

def sampleLine : Line :=
  { Line.idle with nextHandle := 1, nextObject := 1, serialOf := fun _ => some 0 }

def quietEnv (bytes : Bytes) : LineEnv := ⟨fun _ => none, fun _ => bytes⟩

/-- One report with a stray byte behind it, and the first three bytes of it. -/
theorem TagReport.inventory_roundtrip_single :
    let whole := quietEnv (singleTagReport.frame ++ [0x55])
    let cut := quietEnv (singleTagReport.frame.take 3)
    (∀ tick, whole.fault tick = none) ∧ (∀ tick, cut.fault tick = none) ∧
      sampleLine.serialOf sampleReader.object = some 0 ∧
      (∃ next, sampleReader.inventory whole sampleLine =
        .ok ⟨.VALID, singleTagReport.tags⟩ next) ∧
      ∃ next, sampleReader.inventory cut sampleLine = .ok ⟨.MALFORMED, []⟩ next := by
  intro whole cut
  refine ⟨fun _ => rfl, fun _ => rfl, rfl, ?_, ?_⟩
  · exact (inventory_roundtrip singleTagReport whole (fun _ => rfl) sampleReader
      sampleLine rfl).1 [0x55] rfl
  · exact (inventory_roundtrip singleTagReport cut (fun _ => rfl) sampleReader
      sampleLine rfl).2 (singleTagReport.frame.drop 3) (by decide +kernel)
      (by decide +kernel)

end MvdEdge
