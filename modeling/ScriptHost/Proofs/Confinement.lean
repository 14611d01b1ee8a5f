/-
The border of a guest's memory: nothing past the size is ever touched.

`host_confined` runs every access of the host, from the single checked copy up to the calls of the system and of the
scene, on two memories of one size that agree below it and may differ past it. Both runs give the same result, the same
notices, the same session and the same bytes below the size, and in each run the bytes past the size stay as they were.
The memory may hold bytes past its size and may refuse copies below it, as in the witness `host_confined_window`. What it
must not do is to go back on what it has shown: a write that it accepts changes neither its size nor which copies it
accepts (`LawfulMemory`). Honest copies alone are not enough, for many calls write more than once, and the memory may let
the next write fail on account of bytes past its size (`fickle_not_confined`).

A call first reads and decides, and then writes regions, each of them checked. So it is enough that decisions are the
same on memories that are alike (`Alike.systemPlan`, `Alike.scenePlan`), and that checked writes are confined.
-/
import ScriptHost.Proofs.Memory.Confined
import ScriptHost.Proofs.SceneCall.Outcome
import ScriptHost.System.Call

namespace ScriptHost

open Wire

variable {μ : Type} [LinearMemory μ] {σ : Type} [SceneBackend σ]

/-- the memory that a system call leaves, and what it shows besides -/
def SystemOutcome.observed (o : SystemOutcome μ) : μ × Errno × List Notice := (o.memory, o.errno, o.notices)

/-! ## Decisions -/

namespace Alike

variable [HonestMemory μ] {m n : μ}

theorem sizeRegions (h : Alike m n) (strings : List String) (count size : Pointer) :
    StringList.sizeRegions m strings count size = StringList.sizeRegions n strings count size := by
  unfold StringList.sizeRegions
  rw [h.size_eq]

theorem listRegions (h : Alike m n) (strings : List String) (array buffer : Pointer) :
    StringList.regions m strings array buffer = StringList.regions n strings array buffer := by
  unfold StringList.regions
  rw [h.size_eq]

theorem systemPlan (h : Alike m n) (process : ProcessInfo) (reading : Reading) (call : SystemCall) :
    call.plan process reading m = call.plan process reading n := by
  cases call with
  | args | environ => simp only [SystemCall.plan, h.listRegions]
  | argsSizes | environSizes => simp only [SystemCall.plan, h.sizeRegions]
  | clockResolution | clockTime => rfl
  | write => simp only [SystemCall.plan, h.size_eq, h.readGathered]
  | random => simp only [SystemCall.plan, h.size_eq]

theorem enumerate (h : Alike m n) (s : Session σ) (array : Pointer) (length : Int32) (count : Pointer) :
    SceneCall.enumerate m s array length count = SceneCall.enumerate n s array length count := by
  unfold SceneCall.enumerate
  rw [h.size_eq]

theorem scenePlan (h : Alike m n) (caller : ScriptId) (s : Session σ) (call : SceneCall) :
    call.plan caller m s = call.plan caller n s := by
  cases call with
  | setPosition | setRotation | setScale | setBackgroundColor => simp only [SceneCall.plan, h.readValue]
  | setText | changeAnimationByName | getElementById => simp only [SceneCall.plan, h.readText]
  | getElements => simp only [SceneCall.plan, h.enumerate]
  | _ => rfl

end Alike

/-! ## Calls -/

/-- what comes of a decision about a system call -/
def SystemCall.carryOut (m : μ) : Except SystemRefusal SystemAction → SystemOutcome μ
  | .ok action =>
    let (memory, result) := writeRegions m action.regions
    { errno := .ofResult (result.mapError Errno.ofAccessError), memory, notices := action.notices }
  | .error refusal => { errno := refusal.errno, memory := m, notices := refusal.notices }

/-- what comes of a decision about a scene call -/
def SceneCall.carryOut (m : μ) (s : Session σ) : Except CallStatus SceneAction → SceneOutcome μ σ
  | .ok act => act.perform m s
  | .error status => { status, memory := m, session := s }

/-- what comes of a decision about the records that are to be copied -/
def SceneCall.copyOver (m : μ) : Except CallStatus (List ElementRecord × List Region) → μ × Except CallStatus Nat
  | .ok (copied, regions) =>
    let (m, result) := writeRegions m regions
    (m, (access result).map fun _ => copied.length)
  | .error status => (m, .error status)

namespace Confined

variable [LawfulMemory μ]

theorem stringList {g : μ → Except AccessError (List Region)} (hg : ∀ {m n}, Alike m n → g m = g n) :
    Confined fun m => StringList.perform m (g m) := by
  refine planned (f := fun regions m => StringList.perform m regions) hg ?_
  intro regions
  cases regions with
  | ok regions => exact writeRegions regions
  | error e => exact reading fun _ => rfl

theorem systemCall (process : ProcessInfo) (r : Reading) (call : SystemCall) :
    Confined fun m : μ => (call.run process r m).observed := by
  refine planned (f := fun plan (m : μ) => (SystemCall.carryOut m plan).observed)
    (fun h => h.systemPlan process r call) ?_
  intro plan
  cases plan with
  | ok action =>
    exact (writeRegions action.regions).map fun result =>
      (Errno.ofResult (result.mapError Errno.ofAccessError), action.notices)
  | error refusal => exact reading fun _ => rfl

theorem action (s : Session σ) (act : SceneAction) : Confined fun m : μ => (act.perform m s).observed := by
  rcases act.perform_cases (μ := μ) s with ⟨regions, rfl⟩ | ⟨status, s', notices, -, hact⟩
  · simp only [SceneAction.perform_write]
    exact (writeRegions regions).map fun result => (CallStatus.ofResult (SceneCall.access result), s, [])
  · simp only [hact]
    exact reading fun _ => rfl

theorem sceneCall (caller : ScriptId) (s : Session σ) (call : SceneCall) :
    Confined fun m : μ => (call.run caller m s).observed := by
  refine planned (f := fun plan (m : μ) => (SceneCall.carryOut m s plan).observed)
    (fun h => h.scenePlan caller s call) ?_
  intro plan
  cases plan with
  | ok act => exact action s act
  | error status => exact reading fun _ => rfl

theorem copyRecords (s : Session σ) (array : Pointer) (length : Int32) (count : Pointer) :
    Confined fun m : μ => SceneCall.copyRecords m s array length count := by
  refine planned (f := fun plan (m : μ) => SceneCall.copyOver m plan)
    (fun h => h.enumerate s array length count) ?_
  intro plan
  cases plan with
  | ok found =>
    exact (writeRegions found.2).map fun result => (SceneCall.access result).map fun _ => found.1.length
  | error status => exact reading fun _ => rfl

end Confined

/-! ## Everything the host does with a memory -/

/-- every access of the host is confined: checked copies, values, texts, vectored buffers, lists of strings, and the calls
of the system and of the scene -/
structure HostConfined (μ : Type) [LinearMemory μ] [HonestMemory μ] : Prop where
  checkBounds (addr : Pointer) (len : Nat) : Confined fun m : μ => (m, checkBounds (LinearMemory.size m) addr len)
  readBytes (addr : Pointer) (len : Nat) : Confined fun m : μ => (m, readBytes m addr len)
  writeBytes (addr : Pointer) (bytes : ByteArray) : Confined fun m : μ => writeBytes m addr bytes
  readText (addr : Pointer) (len : Nat) : Confined fun m : μ => (m, readText m addr len)
  writeText (addr : Pointer) (capacity : Nat) (text : String) :
    Confined fun m : μ => writeText m addr capacity text
  writeTextLength (addr : Pointer) (text : String) : Confined fun m : μ => writeTextLength m addr text
  readValue (α : Type) [WireValue α] (addr : Pointer) :
    Confined fun m : μ => (m, (readValue m addr : Except AccessError α))
  writeValue (α : Type) [WireValue α] (addr : Pointer) (value : α) :
    Confined fun m : μ => writeValue m addr value
  writeArray (α : Type) [WireValue α] (addr : Pointer) (values : List α) :
    Confined fun m : μ => writeArray m addr values
  readSegments (addr : Pointer) (count : UInt32) : Confined fun m : μ => (m, readSegments m addr count)
  readGathered (addr : Pointer) (count : UInt32) : Confined fun m : μ => (m, readGathered m addr count)
  writeListSizes (strings : List String) (count size : Pointer) :
    Confined fun m : μ => StringList.writeSizes m strings count size
  writeList (strings : List String) (array buffer : Pointer) :
    Confined fun m : μ => StringList.write m strings array buffer
  systemCall (process : ProcessInfo) (reading : Reading) (call : SystemCall) :
    Confined fun m : μ => (call.run process reading m).observed
  sceneCall (σ : Type) [SceneBackend σ] (caller : ScriptId) (s : Session σ) (call : SceneCall) :
    Confined fun m : μ => (call.run caller m s).observed
  copyRecords (σ : Type) [SceneBackend σ] (s : Session σ) (array : Pointer) (length : Int32) (count : Pointer) :
    Confined fun m : μ => SceneCall.copyRecords m s array length count

/-- **Nothing past the size is ever touched.** On two memories of one size that agree below it, whatever they hold past it
and whichever copies they refuse, every access of the host gives one result (status, notices and session included) and
leaves them in agreement below the size; and it changes no byte at or past the size. -/
theorem host_confined [LawfulMemory μ] : HostConfined μ where
  checkBounds addr len := .reading fun h => by rw [h.size_eq]
  readBytes addr len := .reading fun h => h.readBytes addr len
  writeBytes addr bytes := .writeBytes addr bytes
  readText addr len := .reading fun h => h.readText addr len
  writeText addr capacity text := .writeText addr capacity text
  writeTextLength addr text := .writeTextLength addr text
  readValue α _ addr := .reading fun h => h.readValue addr
  writeValue α _ addr value := .writeBytes addr _
  writeArray α _ addr values := .writeBytes addr _
  readSegments addr count := .reading fun h => h.readSegments addr count
  readGathered addr count := .reading fun h => h.readGathered addr count
  writeListSizes strings count size := .stringList fun h => h.sizeRegions strings count size
  writeList strings array buffer := .stringList fun h => h.listRegions strings array buffer
  systemCall process reading call := .systemCall process reading call
  sceneCall σ _ caller s call := .sceneCall caller s call
  copyRecords σ _ s array length count := .copyRecords s array length count

/-- 24 bytes, of which those below 4 cannot be reached and which `past` follows; at 4 a segment of 3 bytes at 16 -/
def mappedPart (past : List UInt8) : WindowMemory where
  size := 24
  base := 4
  window := ⟨([16, 0, 0, 0, 3, 0, 0, 0, 0, 0, 0, 0, 104, 105, 10, 0, 0, 0, 0, 0] ++ past).toByteArray⟩

theorem alike_mappedPart : Alike (mappedPart [1, 1]) (mappedPart [2, 2]) where
  size_eq := rfl
  byte_eq := by decide
  accepts_copyOut offset len _ := by
    rw [Bool.eq_iff_iff, WindowMemory.isSome_copyOut_iff, WindowMemory.isSome_copyOut_iff]
    rfl
  accepts_copyIn offset bytes _ := by
    rw [Bool.eq_iff_iff, WindowMemory.isSome_copyIn_iff, WindowMemory.isSome_copyIn_iff]
    rfl

/-- a guest prints a segment from either memory: the call succeeds and does the same in both runs, and what lies past the
size stays -/
theorem host_confined_window :
    let call : SystemCall := .write 1 4 1 20
    let run (past : List UInt8) := call.run ⟨[], []⟩ ⟨0, 0, .error ""⟩ (mappedPart past)
    (run [1, 1]).errno = .success ∧ (run [1, 1]).observed.2 = (run [2, 2]).observed.2 ∧
      Alike (run [1, 1]).memory (run [2, 2]).memory ∧ HonestMemory.byte (run [2, 2]).memory 24 = 2 := by
  have h := host_confined.systemCall (μ := WindowMemory) ⟨[], []⟩ ⟨0, 0, .error ""⟩ (.write 1 4 1 20)
  exact ⟨by decide, h.same alike_mappedPart, h.alike alike_mappedPart, h.past (mappedPart [2, 2]) 24 (by decide)⟩

/-! ## Memories that go back on what they have shown -/

/-- how a memory may do so -/
inductive Whim where
  /-- it accepts no more writes -/
  | refuses
  /-- it gives its size as zero -/
  | shrinks
deriving DecidableEq, Repr

/-- bytes of which the last one lies past the size; the memory follows its whim once neither its first byte nor its last one
is zero -/
structure FickleMemory where
  whim : Whim
  bytes : ByteMemory

namespace FickleMemory

/-- has it begun to follow its whim? -/
def turned (m : FickleMemory) : Bool := byteAt m.bytes.bytes 0 ≠ 0 && byteAt m.bytes.bytes (m.bytes.bytes.size - 1) ≠ 0

instance : LinearMemory FickleMemory where
  size m := if m.turned && m.whim = .shrinks then 0 else m.bytes.bytes.size - 1
  copyOut m offset len := LinearMemory.copyOut m.bytes offset len
  copyIn m offset bytes :=
    if m.turned && m.whim = .refuses then none
    else (LinearMemory.copyIn m.bytes offset bytes).map fun bytes => { m with bytes }

theorem copyIn_eq_some {m m' : FickleMemory} {offset : Nat} {bytes : ByteArray}
    (h : LinearMemory.copyIn m offset bytes = some m') : LinearMemory.copyIn m.bytes offset bytes = some m'.bytes := by
  simp only [LinearMemory.copyIn] at h
  split at h
  · cases h
  · obtain ⟨_, hcopy, rfl⟩ := Option.map_eq_some_iff.1 h
    exact hcopy

theorem isSome_copyOut_iff (m : FickleMemory) (offset len : Nat) :
    (LinearMemory.copyOut m offset len).isSome ↔ offset + len ≤ m.bytes.bytes.size :=
  m.bytes.isSome_copyOut_iff offset len

/-- until it follows its whim it accepts all writes that have room -/
theorem isSome_copyIn_iff {m : FickleMemory} (h : m.turned = false) (offset : Nat) (bytes : ByteArray) :
    (LinearMemory.copyIn m offset bytes).isSome ↔ offset + bytes.size ≤ m.bytes.bytes.size := by
  simp only [LinearMemory.copyIn, h, Bool.false_and, Bool.false_eq_true, if_false, Option.isSome_map]
  exact m.bytes.isSome_copyIn_iff offset bytes

/-- whatever it does, the copies that it accepts are honest -/
instance : HonestMemory FickleMemory where
  byte m := byteAt m.bytes.bytes
  size_copyOut {m} := HonestMemory.size_copyOut (m := m.bytes)
  byteAt_copyOut {m} := HonestMemory.byteAt_copyOut (m := m.bytes)
  byte_copyIn h := HonestMemory.byte_copyIn (copyIn_eq_some h)

end FickleMemory

/-- eight zeros, and a byte past the size -/
def fickle (whim : Whim) (past : UInt8) : FickleMemory := ⟨whim, ⟨[0, 0, 0, 0, 0, 0, 0, 0, past].toByteArray⟩⟩

theorem alike_fickle (whim : Whim) : Alike (fickle whim 0) (fickle whim 1) where
  size_eq := by cases whim <;> rfl
  byte_eq := by cases whim <;> decide
  accepts_copyOut offset len _ := by
    rw [Bool.eq_iff_iff, FickleMemory.isSome_copyOut_iff, FickleMemory.isSome_copyOut_iff]
    rfl
  accepts_copyIn offset bytes _ := by
    rw [Bool.eq_iff_iff, FickleMemory.isSome_copyIn_iff rfl, FickleMemory.isSome_copyIn_iff rfl]
    rfl

/-- **Honest copies are not enough.** A guest asks for the number and the size of its arguments. That is told in two words,
and the first of them makes a memory turn fickle if the byte past its size is not zero: then the second word is refused. So
two memories that cannot be told apart from below their size give two results. -/
theorem fickle_not_confined :
    let call : SystemCall := .argsSizes 0 4
    let run (whim : Whim) (past : UInt8) := call.run ⟨["a"], []⟩ ⟨0, 0, .error ""⟩ (fickle whim past)
    (∀ whim, Alike (fickle whim 0) (fickle whim 1) ∧ (run whim 0).errno = .success ∧ (run whim 1).errno = .fault) ∧
      ¬ HostConfined FickleMemory := by
  intro call run
  have hruns : ∀ whim, (run whim 0).errno = .success ∧ (run whim 1).errno = .fault := by
    intro whim
    cases whim <;> decide
  refine ⟨fun whim => ⟨alike_fickle whim, hruns whim⟩, fun hconfined => ?_⟩
  have hsame := (hconfined.systemCall ⟨["a"], []⟩ ⟨0, 0, .error ""⟩ call).same (alike_fickle .refuses)
  have herrno : (run .refuses 0).errno = (run .refuses 1).errno := congrArg Prod.fst hsame
  rw [(hruns .refuses).1, (hruns .refuses).2] at herrno
  cases herrno

end ScriptHost
