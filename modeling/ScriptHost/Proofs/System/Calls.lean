/-
System calls are all or nothing. A call is decided before anything is written: it is refused for the clock or the stream
that it names, or for what it would touch, or the regions to write are known and all but the first were found to lie inside
the memory (`SystemCall.settled_plan`). Text is logged only after the one slot that is written with it was checked.

- `SystemCall.system_call_all_or_nothing`: a call that fails changes and logs nothing; one that succeeds changes what it
  answers in and logs just what it prints; and the error number tells which of the three reasons there was.
- `SystemCall.write_of_bad_segment`: of two segments the second one sticks out, so nothing of the first is printed.
-/
import Mathlib.Tactic.ByContra
import ScriptHost.Proofs.System.Strings
import ScriptHost.System.Call

namespace ScriptHost

open Wire

@[simp] theorem Errno.ofAccessError_eq (e : AccessError) : Errno.ofAccessError e = .fault := by
  cases e <;> rfl

theorem ClockId.ofCode?_eq_none_iff {code : Int32} : ofCode? code = none ↔ code ≠ 0 ∧ code ≠ 1 := by
  unfold ofCode?
  split
  · simp [*]
  · split <;> simp [*]

/-- a random source that does not fail yields as many bytes as it is asked for -/
theorem Reading.exists_randomBytes {r : Reading} (h : ∃ byte, r.entropy = .ok byte) (n : Nat) :
    ∃ bytes, r.randomBytes n = .ok bytes ∧ bytes.size = n := by
  obtain ⟨byte, hbyte⟩ := h
  refine ⟨n.fold (fun i _ bytes => bytes.push (byte i)) .empty, ?_, ?_⟩
  · rw [randomBytes, hbyte]
    rfl
  · induction n with
    | zero => rfl
    | succ n ih => rw [Nat.fold_succ, ByteArray.size_push, ih]

namespace SystemCall

/-! ## What a call touches -/

/-- the bytes that a call may change: those of its answer -/
def outputs (process : ProcessInfo) : SystemCall → List Span
  | args array buffer => StringList.spans process.args array buffer
  | environ array buffer => StringList.spans process.environ array buffer
  | argsSizes count size | environSizes count size => StringList.sizeSpans count size
  | clockResolution _ out | clockTime _ _ out => [⟨out, 8⟩]
  | write _ _ _ written => [⟨written, 4⟩]
  | random buffer length => [⟨buffer, length.toNat⟩]

/-- the call prints -/
def prints : SystemCall → Bool
  | write .. => true
  | _ => false

section Touches

variable {μ : Type} [LinearMemory μ] [LawfulMemory μ]

/-- the bytes that a call reads -/
def inputs (m : μ) : SystemCall → List Span
  | write _ segments count _ => vectorSpans m segments count
  | _ => []

/-- the bytes that a call reads or writes -/
def regards (process : ProcessInfo) (m : μ) (call : SystemCall) : List Span := call.inputs m ++ call.outputs process

end Touches

/-- the call names a clock that there is not -/
def NoClock : SystemCall → Prop
  | clockResolution clock _ | clockTime clock _ _ => clock ≠ 0 ∧ clock ≠ 1
  | _ => False

/-- the call prints to a stream that there is not -/
def NoStream : SystemCall → Prop
  | write stream _ _ _ => stream ≠ 1 ∧ stream ≠ 2
  | _ => False

/-- the call asks for the sizes of strings that are too many, or too long, for a word to tell -/
def Untold (process : ProcessInfo) : SystemCall → Prop
  | argsSizes .. => ¬ StringList.Told process.args
  | environSizes .. => ¬ StringList.Told process.environ
  | _ => False

theorem streamOf?_eq_none_iff {stream : Int32} : streamOf? stream = none ↔ stream ≠ 1 ∧ stream ≠ 2 := by
  unfold streamOf?
  split
  · simp [*]
  · split <;> simp [*]

/-! ## Decisions -/

section Decisions

variable {μ : Type} [LinearMemory μ] [ExactMemory μ] (process : ProcessInfo) (m : μ)

/-- what an action says of the call that was decided on -/
structure Decided (call : SystemCall) (action : SystemAction) : Prop where
  clock : ¬ call.NoClock
  stream : ¬ call.NoStream
  told : ¬ call.Untold process
  spans : action.regions.map Region.span = call.outputs process
  checked : ∀ r ∈ action.regions.tail, r.Inside (LinearMemory.size m)
  read : LinearMemory.size m ≤ wordLimit → ∀ p ∈ call.inputs m, ¬ p.Outside (LinearMemory.size m)
  silent : call.prints = false → action.notices = []
  /-- what is printed is logged only if nothing stands against the call any more -/
  logged : call.prints = true → (∃ stream text, action.notices = [.printed stream text]) ∧
    ∀ r ∈ action.regions, r.Inside (LinearMemory.size m)

/-- why a call is refused -/
inductive Refused (call : SystemCall) : SystemRefusal → Prop
  | clock (h : call.NoClock) : Refused call { errno := .inval }
  | stream (h : call.NoStream) : Refused call { errno := .badf }
  | touch (hclock : ¬ call.NoClock) (hstream : ¬ call.NoStream)
      (h : LinearMemory.size m ≤ wordLimit →
        (∃ p ∈ call.regards process m, p.Outside (LinearMemory.size m)) ∨ call.Untold process) :
      Refused call { errno := .fault }

/-- what is decided on a call is an action, or a refusal for one of three reasons -/
def Settled (call : SystemCall) : Except SystemRefusal SystemAction → Prop
  | .ok action => call.Decided process m action
  | .error refusal => call.Refused process m refusal

variable {process m} {call : SystemCall}

/-- whatever the memory reports, a call tells it by one error number -/
theorem Refused.of_access (h : call.Refused process m { errno := .fault }) (e : AccessError) :
    call.Refused process m { errno := .ofAccessError e } := by
  rw [Errno.ofAccessError_eq]
  exact h

/-! ## Calls that read nothing and print nothing -/

/-- there is such a clock and such a stream, and the call neither reads nor prints -/
structure Silent (m : μ) (call : SystemCall) : Prop where
  clock : ¬ call.NoClock
  stream : ¬ call.NoStream
  prints : call.prints = false
  inputs : call.inputs m = []

theorem Silent.decided (h : call.Silent m) {regions : List Region} (htold : ¬ call.Untold process)
    (hspans : regions.map Region.span = call.outputs process)
    (hchecked : ∀ r ∈ regions.tail, r.Inside (LinearMemory.size m)) : call.Decided process m { regions } where
  clock := h.clock
  stream := h.stream
  told := htold
  spans := hspans
  checked := hchecked
  read _ := by
    rw [h.inputs]
    exact List.forall_mem_nil _
  silent _ := rfl
  logged hprints := by
    rw [h.prints] at hprints
    cases hprints

/-- the regions of an answer are known and checked, or something of them does not fit -/
theorem Silent.settled (h : call.Silent m) {regions : Except AccessError (List Region)}
    (hok : ∀ rs, regions = .ok rs → rs.map Region.span = call.outputs process ∧
      (∀ r ∈ rs, r.Inside (LinearMemory.size m)) ∧ ¬ call.Untold process)
    (hfits : LinearMemory.size m ≤ wordLimit → (∀ p ∈ call.outputs process, ¬ p.Outside (LinearMemory.size m)) →
      ¬ call.Untold process → ∃ rs, regions = .ok rs) :
    Settled process m call (do return { regions := ← access regions }) := by
  cases regions with
  | ok rs =>
    obtain ⟨hspans, hinside, htold⟩ := hok rs rfl
    apply h.decided htold hspans
    intro r hr
    exact hinside r (List.mem_of_mem_tail hr)
  | error e =>
    refine Refused.of_access (.touch h.clock h.stream ?_) e
    intro hsize
    by_contra hnone
    obtain ⟨houtside, htold⟩ := not_or.1 hnone
    have hinside : ∀ p ∈ call.outputs process, ¬ p.Outside (LinearMemory.size m) := by
      intro p hp hout
      exact houtside ⟨p, List.mem_append_right _ hp, hout⟩
    obtain ⟨rs, hrs⟩ := hfits hsize hinside htold
    cases hrs

theorem Silent.settled_strings (h : call.Silent m) {strings : List String} {array buffer : Pointer}
    (htold : ¬ call.Untold process) (houtputs : call.outputs process = StringList.spans strings array buffer) :
    Settled process m call (do return { regions := ← access (StringList.regions m strings array buffer) }) := by
  refine h.settled ?_ ?_
  · intro rs hrs
    obtain ⟨hspans, hinside⟩ := StringList.regions_eq_ok hrs
    exact ⟨hspans.trans houtputs.symm, hinside, htold⟩
  · intro hsize hinside _
    rw [houtputs] at hinside
    exact StringList.regions_of_inside strings array buffer hsize hinside

theorem Silent.settled_sizes (h : call.Silent m) {strings : List String} {count size : Pointer}
    (htold : call.Untold process ↔ ¬ StringList.Told strings)
    (houtputs : call.outputs process = StringList.sizeSpans count size) :
    Settled process m call (do return { regions := ← access (StringList.sizeRegions m strings count size) }) := by
  refine h.settled ?_ ?_
  · intro rs hrs
    obtain ⟨hspans, hinside, hfits⟩ := StringList.sizeRegions_eq_ok hrs
    refine ⟨hspans.trans houtputs.symm, hinside, ?_⟩
    intro huntold
    exact htold.1 huntold hfits
  · intro _ hinside huntold
    rw [houtputs] at hinside
    rw [htold, not_not] at huntold
    exact StringList.sizeRegions_of_inside count size huntold hinside

/-! ## Every call -/

/-- the one slot of a time is not checked before it is written -/
theorem settled_clock {clock : Int32} {out : Pointer} (value : ClockId → UInt64)
    (hclock : call.NoClock ↔ clock ≠ 0 ∧ clock ≠ 1) (hsilent : ¬ call.NoClock → call.Silent m)
    (htold : ¬ call.Untold process) (houtputs : call.outputs process = [⟨out, 8⟩]) :
    Settled process m call (match ClockId.ofCode? clock with
      | some id => .ok { regions := [.ofValue out (value id)] }
      | none => .error { errno := .inval }) := by
  rw [← ClockId.ofCode?_eq_none_iff] at hclock
  cases hid : ClockId.ofCode? clock with
  | none => exact Refused.clock (hclock.2 hid)
  | some id =>
    have hthere : ¬ call.NoClock := by
      intro h
      rw [hclock.1 h] at hid
      cases hid
    refine (hsilent hthere).decided htold ?_ (List.forall_mem_nil _)
    rw [houtputs, List.map_singleton, Region.span_ofValue]
    rfl

theorem settled_write {stream : Int32} {segments : Pointer} {count : UInt32} {written : Pointer} (target : Stream)
    (hstream : ¬ (write stream segments count written).NoStream) :
    Settled process m (.write stream segments count written) (do
      access (checkBounds (LinearMemory.size m) written 4)
      let bytes ← access (readGathered m segments count)
      return {
        notices := [.printed target (Text.trimNewlines (Text.decodeLossy bytes))]
        regions := [.ofValue written (UInt32.ofNat bytes.size)] }) := by
  rcases checkBounds_cases (LinearMemory.size m) ⟨written, 4⟩ with ⟨houtside, hcheck⟩ | ⟨hinside, hcheck⟩
  · rw [hcheck]
    refine Refused.touch not_false hstream ?_
    intro _
    exact .inl ⟨_, List.mem_append_right _ List.mem_cons_self, houtside⟩
  · rw [hcheck]
    cases hread : readGathered m segments count with
    | error e =>
      refine Refused.of_access (.touch id hstream ?_) e
      intro hsize
      rcases readGathered_cases m hsize segments count with ⟨⟨p, hp, houtside⟩, -⟩ | ⟨-, hok⟩
      · exact .inl ⟨p, List.mem_append_left _ hp, houtside⟩
      · rw [hok] at hread
        cases hread
    | ok bytes =>
      have hspans : [Region.ofValue written (UInt32.ofNat bytes.size)].map Region.span = [⟨written, 4⟩] := by
        rw [List.map_singleton, Region.span_ofValue]
        rfl
      have hinputs : LinearMemory.size m ≤ wordLimit →
          ∀ p ∈ vectorSpans m segments count, ¬ p.Outside (LinearMemory.size m) := by
        intro hsize
        rcases readGathered_cases m hsize segments count with ⟨-, herror⟩ | ⟨hall, -⟩
        · rw [herror] at hread
          cases hread
        · exact hall
      exact {
        clock := not_false
        stream := hstream
        told := not_false
        spans := hspans
        checked := List.forall_mem_nil _
        read := hinputs
        silent := nofun
        logged := fun _ => ⟨⟨_, _, rfl⟩, Region.inside_of_spans hspans (List.forall_mem_singleton.2 hinside)⟩ }

theorem settled_random {buffer : Pointer} {length : UInt32} {reading : Reading}
    (hentropy : ∃ byte, reading.entropy = .ok byte) :
    Settled process m (.random buffer length) ((random buffer length).plan process reading m) := by
  have hsilent : (random buffer length).Silent m := ⟨not_false, not_false, rfl, rfl⟩
  obtain ⟨bytes, hbytes, hsize⟩ := Reading.exists_randomBytes hentropy length.toNat
  rcases checkBounds_cases (LinearMemory.size m) ⟨buffer, length.toNat⟩ with ⟨houtside, hcheck⟩ | ⟨-, hcheck⟩
  · simp only [plan, hcheck]
    refine Refused.touch not_false not_false ?_
    intro _
    exact .inl ⟨_, List.mem_append_right _ List.mem_cons_self, houtside⟩
  · simp only [plan, hcheck, hbytes]
    refine hsilent.decided not_false ?_ (List.forall_mem_nil _)
    rw [List.map_singleton, Region.span, hsize]
    rfl

/-- however a call is decided, it is an action that was checked or a refusal with its reason -/
theorem settled_plan (process : ProcessInfo) (reading : Reading) (hentropy : ∃ byte, reading.entropy = .ok byte) (m : μ)
    (call : SystemCall) : Settled process m call (call.plan process reading m) := by
  cases call with
  | args | environ => exact Silent.settled_strings ⟨id, id, rfl, rfl⟩ id rfl
  | argsSizes | environSizes => exact Silent.settled_sizes ⟨id, id, rfl, rfl⟩ Iff.rfl rfl
  | clockResolution =>
    exact settled_clock (fun _ => _) Iff.rfl (fun hthere => ⟨hthere, not_false, rfl, rfl⟩) not_false rfl
  | clockTime => exact settled_clock _ Iff.rfl (fun hthere => ⟨hthere, not_false, rfl, rfl⟩) not_false rfl
  | write stream segments count written =>
    simp only [plan]
    cases hstream : streamOf? stream with
    | none => exact Refused.stream (streamOf?_eq_none_iff.1 hstream)
    | some target =>
      apply settled_write target
      intro h
      rw [streamOf?_eq_none_iff.2 h] at hstream
      cases hstream
  | random => exact settled_random hentropy

/-! ## What comes of a decision -/

variable (process m call) in
/-- what a call may do to the memory and to the log, and what its error number tells -/
structure Effect (o : SystemOutcome μ) : Prop where
  failed : o.errno ≠ .success → o.memory = m ∧ o.notices = []
  footprint : o.errno = .success →
    ∀ i, (∀ p ∈ call.outputs process, ¬ p.Covers i) → HonestMemory.byte o.memory i = HonestMemory.byte m i
  silent : call.prints = false → o.notices = []
  printed : o.errno = .success → call.prints = true → ∃ stream text, o.notices = [.printed stream text]
  inval : o.errno = .inval ↔ call.NoClock
  badf : o.errno = .badf ↔ call.NoStream
  fault : LinearMemory.size m ≤ wordLimit → (o.errno = .fault ↔ ¬ call.NoClock ∧ ¬ call.NoStream ∧
    ((∃ p ∈ call.regards process m, p.Outside (LinearMemory.size m)) ∨ call.Untold process))
  known : o.errno ∈ [Errno.success, .inval, .badf, .fault]

/-- no call names both a clock and a stream -/
theorem NoClock.not_noStream (h : call.NoClock) : ¬ call.NoStream := by
  cases call with
  | write => exact h.elim
  | _ => exact id

/-- a call that fails has its effect if its error number tells the reason -/
theorem Effect.of_failure {errno : Errno} (hfailed : errno ∈ [Errno.inval, .badf, .fault])
    (hinval : errno = .inval ↔ call.NoClock) (hbadf : errno = .badf ↔ call.NoStream)
    (hfault : LinearMemory.size m ≤ wordLimit → (errno = .fault ↔ ¬ call.NoClock ∧ ¬ call.NoStream ∧
      ((∃ p ∈ call.regards process m, p.Outside (LinearMemory.size m)) ∨ call.Untold process))) :
    Effect process m call { errno, memory := m } where
  failed _ := ⟨rfl, rfl⟩
  footprint _ _ _ := rfl
  silent _ := rfl
  printed hs := by
    subst hs
    exact absurd hfailed (by decide)
  inval := hinval
  badf := hbadf
  fault := hfault
  known := List.mem_cons_of_mem _ hfailed

theorem Refused.effect {refusal : SystemRefusal} (h : call.Refused process m refusal) :
    Effect process m call { errno := refusal.errno, memory := m, notices := refusal.notices } := by
  cases h with
  | clock h =>
    have hstream : ¬ call.NoStream := h.not_noStream
    apply Effect.of_failure <;> simp [h, hstream]
  | stream h =>
    have hclock : ¬ call.NoClock := fun hclock => hclock.not_noStream h
    apply Effect.of_failure <;> simp [h, hclock]
  | touch hclock hstream h =>
    apply Effect.of_failure
    case hfault =>
      intro hsize
      simpa [hclock, hstream] using h hsize
    all_goals simp [hclock, hstream]

/-- the regions of an action were taken -/
theorem Decided.effect_of_ok {action : SystemAction} (h : call.Decided process m action)
    (hresult : (writeRegions m action.regions).2 = .ok ()) :
    Effect process m call { errno := .success, memory := (writeRegions m action.regions).1, notices := action.notices }
    where
  failed hs := absurd rfl hs
  footprint _ i hi := by
    apply byte_writeRegions_outside
    intro r hr
    exact hi r.span (h.spans ▸ List.mem_map_of_mem hr)
  silent := h.silent
  printed _ hprints := (h.logged hprints).1
  inval := iff_of_false nofun h.clock
  badf := iff_of_false nofun h.stream
  fault hsize := by
    refine iff_of_false nofun ?_
    rintro ⟨-, -, ⟨p, hp, houtside⟩ | huntold⟩
    · rcases List.mem_append.1 hp with hp | hp
      · exact h.read hsize p hp houtside
      · rw [← h.spans] at hp
        obtain ⟨r, hr, rfl⟩ := List.mem_map.1 hp
        exact Nat.not_lt.2 (writeRegions_eq_ok_iff.1 hresult r hr) houtside
    · exact h.told huntold
  known := List.mem_cons_self

/-- the first region of an action was not taken: then no region was, and nothing was printed -/
theorem Decided.effect_of_error {action : SystemAction} (h : call.Decided process m action) {e : AccessError}
    (hresult : (writeRegions m action.regions).2 = .error e) :
    Effect process m call { errno := .fault, memory := (writeRegions m action.regions).1, notices := action.notices } := by
  have hrefused : ¬ ∀ r ∈ action.regions, r.Inside (LinearMemory.size m) := by
    rw [← writeRegions_eq_ok_iff, hresult]
    nofun
  have houtside : ∃ p ∈ call.regards process m, p.Outside (LinearMemory.size m) := by
    by_contra hnone
    apply hrefused
    apply Region.inside_of_spans h.spans
    intro p hp houtside
    exact hnone ⟨p, List.mem_append_right _ hp, houtside⟩
  have hprints : call.prints = false := Bool.eq_false_iff.2 fun hprints => hrefused (h.logged hprints).2
  rw [writeRegions_atomic h.checked hresult, h.silent hprints]
  apply Effect.of_failure
  case hfault =>
    intro _
    simpa [h.clock, h.stream] using Or.inl houtside
  all_goals simp [h.clock, h.stream]

end Decisions

/-- **All or nothing, and a known footprint.** A call that fails changes nothing and logs nothing. One that succeeds
changes no byte outside of its answer, and logs one record if it prints and none if it does not. Which error number a
call answers, the call, the process and the bytes of the memory tell: there is no such clock, there is no such stream, or
else what the call reads or writes does not lie inside the memory. -/
theorem system_call_all_or_nothing {μ : Type} [LinearMemory μ] [ExactMemory μ] (process : ProcessInfo)
    (reading : Reading) (hentropy : ∃ byte, reading.entropy = .ok byte) (m : μ) (call : SystemCall) :
    Effect process m call (call.run process reading m) := by
  have hplan := settled_plan process reading hentropy m call
  unfold run
  cases hcall : call.plan process reading m with
  | error refusal =>
    rw [hcall] at hplan
    exact Refused.effect hplan
  | ok action =>
    rw [hcall] at hplan
    cases hresult : (writeRegions m action.regions).2 with
    | ok =>
      simp only [hresult]
      exact Decided.effect_of_ok hplan hresult
    | error e =>
      simp only [hresult, Except.mapError, Errno.ofResult, Errno.ofAccessError_eq]
      exact Decided.effect_of_error hplan hresult

/-- the first of two segments holds `hi`, and the second sticks out by two bytes: nothing is printed or written -/
theorem write_of_bad_segment :
    let reading : Reading := { realtime := 0, monotonic := 0, entropy := .ok fun _ => 0 }
    let m : ByteMemory := ⟨(encodeAll ([24, 2, 30, 4, 0, 0, 0x6968, 0] : List UInt32)).toByteArray⟩
    let o := (write 1 0 2 16).run ⟨[], []⟩ reading m
    o.errno = .fault ∧ o.memory = m ∧ o.notices = [] := by
  intro reading m o
  have herrno : o.errno = .fault := by decide +kernel
  have heffect := system_call_all_or_nothing ⟨[], []⟩ reading ⟨_, rfl⟩ m (write 1 0 2 16)
  exact ⟨herrno, heffect.failed (by rw [herrno]; nofun)⟩

end SystemCall

end ScriptHost
