/-
The status of every scene call. The first of the four reasons that holds gives the status, in this order: missing, unable,
short, invalid (`Judged`). So what a call names is looked up before anything else counts, what the element can do counts
before the other arguments do, and a buffer that is too small counts before its bounds.

- `SceneCall.status_judged`: this is how every call ends, and there is no other way.
- `SceneCall.status_of_many_faults`: calls with several faults at once.
-/
import ScriptHost.Proofs.SceneCall.AllOrNothing
import ScriptHost.Proofs.SceneCall.Reasons

namespace ScriptHost

open Wire

/-! ## The order of the reasons -/

/-- a status that is decided in a fixed order: the first reason that holds gives it -/
structure Judged (missing unable short invalid : Prop) (status : CallStatus) : Prop where
  elementNotFound : status = .elementNotFound ↔ missing
  unsupportedOperation : status = .unsupportedOperation ↔ ¬ missing ∧ unable
  insufficientBufferSize : status = .insufficientBufferSize ↔ ¬ missing ∧ ¬ unable ∧ short
  invalidArgument : status = .invalidArgument ↔ ¬ missing ∧ ¬ unable ∧ ¬ short ∧ invalid
  success : status = .success ↔ ¬ missing ∧ ¬ unable ∧ ¬ short ∧ ¬ invalid
  /-- there is no other way to end -/
  others : status ≠ .unknownError ∧ status ≠ .notImplemented

section Order

variable {missing unable short invalid : Prop} {status : CallStatus}

theorem Judged.of_missing (h : missing) : Judged missing unable short invalid .elementNotFound := by
  constructor <;> simp [h]

theorem Judged.of_unable (hpresent : ¬ missing) (h : unable) :
    Judged missing unable short invalid .unsupportedOperation := by
  constructor <;> simp [hpresent, h]

/-- a status among those that are decided when the element is there and has what the call is about -/
inductive Checked (short invalid : Prop) : CallStatus → Prop where
  | short (h : short) : Checked short invalid .insufficientBufferSize
  | invalid (hfits : ¬ short) (h : invalid) : Checked short invalid .invalidArgument
  | success (hfits : ¬ short) (hvalid : ¬ invalid) : Checked short invalid .success

theorem Judged.of_checked (hpresent : ¬ missing) (hable : ¬ unable) (h : Checked short invalid status) :
    Judged missing unable short invalid status := by
  cases h with
  | short h => constructor <;> simp [hpresent, hable, h]
  | invalid hfits h => constructor <;> simp [hpresent, hable, hfits, h]
  | success hfits hvalid => constructor <;> simp [hpresent, hable, hfits, hvalid]

end Order

namespace SceneCall

/-! ## Calls with a descriptor -/

section Descriptor

variable {μ : Type} [LinearMemory μ] {m : μ} {s : Session SceneStore} {call : SceneCall} {caller : ScriptId} {d : Int32}
  {node : NodeId} {e : Element}

theorem plan_of_not_found (hd : call.descriptor? = some d) (hfound : s.resolve d = none) :
    call.plan caller m s = .error .elementNotFound := by
  have hlook : lookUp s d = .error .elementNotFound := by rw [lookUp, hfound]
  cases call with
  | getElementCount | getElements | getElementById => cases hd
  | _ =>
    cases hd
    rw [plan, hlook]
    rfl

theorem plan_of_unsuited (hd : call.descriptor? = some d) (hfound : s.resolve d = some (node, e))
    (hsuits : ¬ call.Suits e.kind) : call.plan caller m s = .error .unsupportedOperation := by
  have hlook : lookUp s d = .ok (node, e) := lookUp_eq_ok.2 hfound
  obtain ⟨id, display, position, rotation, scale, data⟩ := e
  cases call with
  | getElementCount | getElements | getElementById => cases hd
  | getTextLength | getText | setText | getBackgroundColor | setBackgroundColor | changeAnimation
  | changeAnimationByName | getPlayState | setPlayState | getCurrentAnimation =>
    cases hd
    rw [plan, hlook]
    cases data <;> first | rfl | exact absurd (by simp [Suits, Element.kind, ElementData.kind]) hsuits
  | _ => exact absurd trivial hsuits

/-- an argument cannot be taken by the element of the call -/
def Faulty [LawfulMemory μ] (m : μ) (s : Session SceneStore) (call : SceneCall) (e : Element) : Prop :=
  call.Negative ∨ call.Unknown ∨ call.NoClip m e ∨ ∃ p ∈ call.regards s, p.Outside (LinearMemory.size m)

theorem not_faulty [LawfulMemory μ] (hneg : ¬ call.Negative) (hcode : ¬ call.Unknown)
    (hclip : ∀ clip, call.clip? m = some clip → e.HasClip clip)
    (hinside : ∀ p ∈ call.regards s, ¬ p.Outside (LinearMemory.size m)) : ¬ call.Faulty m s e := by
  rintro (h | h | ⟨clip, h, hmissing⟩ | ⟨p, hp, h⟩)
  · exact hneg h
  · exact hcode h
  · exact hmissing (hclip clip h)
  · exact hinside p hp h

theorem not_faulty_of_no_clip [LawfulMemory μ] (hneg : ¬ call.Negative) (hcode : ¬ call.Unknown)
    (hclip : call.clip? m = none) (hinside : ∀ p ∈ call.regards s, ¬ p.Outside (LinearMemory.size m)) :
    ¬ call.Faulty m s e := by
  refine not_faulty hneg hcode ?_ hinside
  intro clip h
  rw [hclip] at h
  cases h

theorem not_unnamed [LawfulMemory μ] (hd : call.descriptor? = some d) : ¬ call.Unnamed m s := by
  cases call with
  | getElementById => cases hd
  | _ => exact not_false

section About

variable (hroom : s.registry.count ≤ Registry.room)

include hroom

theorem not_about_of_not_found (hd : call.descriptor? = some d) (hfound : s.resolve d = none) : ¬ call.About s e := by
  rintro ⟨d', hd', hfinds⟩
  obtain rfl : d = d' := Option.some.inj (hd.symm.trans hd')
  obtain ⟨node, hresolve⟩ := (Session.finds_iff hroom).1 hfinds
  rw [hfound] at hresolve
  cases hresolve

theorem about_iff (hd : call.descriptor? = some d) (hfound : s.resolve d = some (node, e)) {e' : Element} :
    call.About s e' ↔ e' = e := by
  constructor
  · rintro ⟨d', hd', hfinds⟩
    obtain rfl : d = d' := Option.some.inj (hd.symm.trans hd')
    obtain ⟨node', hresolve⟩ := (Session.finds_iff hroom).1 hfinds
    rw [hfound] at hresolve
    cases hresolve
    rfl
  · rintro rfl
    exact ⟨d, hd, (Session.finds_iff hroom).2 ⟨node, hfound⟩⟩

theorem judged_of_not_found [LawfulMemory μ] (hd : call.descriptor? = some d) (hfound : s.resolve d = none) :
    Judged (call.Missing m s) (call.Unable s) (call.Short s) (call.Invalid m s) (call.run caller m s).status := by
  rw [status_of_error (plan_of_not_found hd hfound)]
  exact .of_missing (.inl ⟨by rw [hd]; rfl, fun _ => not_about_of_not_found hroom hd hfound⟩)

section Found

variable (hd : call.descriptor? = some d) (hfound : s.resolve d = some (node, e))

include hd hfound

theorem not_missing_of_found [LawfulMemory μ] : ¬ call.Missing m s := by
  rintro (⟨-, hnone⟩ | hunnamed)
  · exact hnone e ((about_iff hroom hd hfound).2 rfl)
  · exact not_unnamed hd hunnamed

theorem unable_iff : call.Unable s ↔ ¬ call.Suits e.kind := by
  simp only [Unable, about_iff hroom hd hfound, exists_eq_left]

theorem short_iff : call.Short s ↔ call.TooLong e := by
  simp only [Short, about_iff hroom hd hfound, exists_eq_left]

theorem invalid_iff [LawfulMemory μ] : call.Invalid m s ↔ call.Faulty m s e := by
  simp only [Invalid, Faulty, about_iff hroom hd hfound, exists_eq_left]

end Found

end About

theorem checked_of_refusal [LawfulMemory μ] (hplan : call.plan caller m s = .error .invalidArgument)
    (hfits : ¬ call.TooLong e) (h : call.Faulty m s e) :
    Checked (call.TooLong e) (call.Faulty m s e) (call.run caller m s).status := by
  rw [status_of_error hplan]
  exact .invalid hfits h

/-! ### Queries -/

section Query

variable [ExactMemory μ]

/-- what is left of a query, once its answer is settled, are the bounds of what it looks at -/
theorem checked_of_write {regions : List Region} (hplan : call.plan caller m s = .ok (.write regions))
    (hspans : call.regards s = call.inputs ++ regions.map Region.span) (hfits : ¬ call.TooLong e)
    (hneg : ¬ call.Negative) (hcode : ¬ call.Unknown) (hclip : call.clip? m = none) (hread : call.inputs = []) :
    Checked (call.TooLong e) (call.Faulty m s e) (call.run caller m s).status := by
  have hread' : ∀ p ∈ call.inputs, ¬ p.Outside (LinearMemory.size m) := by
    rw [hread]
    exact List.forall_mem_nil _
  rcases status_of_write hplan hspans hread' with ⟨hinside, hstatus⟩ | ⟨houtside, hstatus⟩
  · rw [hstatus]
    exact .success hfits (not_faulty_of_no_clip hneg hcode hclip hinside)
  · rw [hstatus]
    exact .invalid hfits (.inr (.inr (.inr houtside)))

/-- the length of a text is told if it is a signed word -/
theorem checked_of_length {out : Pointer} {text : String}
    (hplan : call.plan caller m s = answerLength out text) (hspans : call.regards s = call.inputs ++ [⟨out, 4⟩])
    (hlong : call.TooLong e ↔ signedLimit ≤ text.utf8ByteSize) (hneg : ¬ call.Negative) (hcode : ¬ call.Unknown)
    (hclip : call.clip? m = none) (hread : call.inputs = []) :
    Checked (call.TooLong e) (call.Faulty m s e) (call.run caller m s).status := by
  by_cases hsize : text.utf8ByteSize < signedLimit
  · rw [answerLength, textLength, if_pos hsize] at hplan
    exact checked_of_write hplan hspans (fun h => by have := hlong.1 h; omega) hneg hcode hclip hread
  · rw [answerLength, textLength, if_neg hsize] at hplan
    rw [status_of_error hplan]
    exact .short (hlong.2 (by omega))

/-- a text is told if there is room for it -/
theorem checked_of_text {out : Pointer} {capacity : Int32} {text : String}
    (hplan : call.plan caller m s = answerText out capacity text)
    (hspans : call.regards s = call.inputs ++ [⟨out, text.utf8ByteSize⟩])
    (hlong : call.TooLong e ↔ 0 ≤ capacity ∧ capacity.toInt < text.utf8ByteSize)
    (hneg : call.Negative ↔ capacity < 0) (hcode : ¬ call.Unknown) (hclip : call.clip? m = none)
    (hread : call.inputs = []) :
    Checked (call.TooLong e) (call.Faulty m s e) (call.run caller m s).status := by
  rcases natural_cases capacity with ⟨hnegative, hnatural⟩ | ⟨hnatural', hnatural⟩
  · rw [answerText, hnatural] at hplan
    rw [status_of_error hplan]
    refine .invalid ?_ (.inl (hneg.2 hnegative))
    intro hsmall
    exact Int32.not_lt.2 (hlong.1 hsmall).1 hnegative
  · have hle : 0 ≤ capacity.toInt := Int32.le_iff_toInt_le.1 hnatural'
    by_cases hsize : text.utf8ByteSize ≤ capacity.toInt.toNat
    · rw [answerText, hnatural] at hplan
      simp only [bind, Except.bind, textBytes, if_pos hsize, access] at hplan
      exact checked_of_write hplan hspans (fun h => by have := (hlong.1 h).2; omega)
        (fun h => Int32.not_lt.2 hnatural' (hneg.1 h)) hcode hclip hread
    · rw [answerText, hnatural] at hplan
      simp only [bind, Except.bind, textBytes, if_neg hsize, access] at hplan
      rw [status_of_error hplan]
      exact .short (hlong.2 ⟨hnatural', by omega⟩)

theorem checked_of_query (hd : call.descriptor? = some d) (hfound : s.resolve d = some (node, e))
    (hsuits : call.Suits e.kind) (hquery : call.isQuery) :
    Checked (call.TooLong e) (call.Faulty m s e) (call.run caller m s).status := by
  have hlook : lookUp s d = .ok (node, e) := lookUp_eq_ok.2 hfound
  cases call with
  | getElementCount | getElements | getElementById => cases hd
  | getDisplay | getPosition | getRotation | getScale =>
    cases hd
    refine checked_of_write (by rw [plan, hlook]; rfl) ?_ not_false not_false not_false rfl rfl
    rw [List.map_singleton, Region.span_ofValue]
    rfl
  | getBackgroundColor =>
    cases hd
    obtain ⟨color, hcolor⟩ := backgroundOf_of_kind hsuits
    refine checked_of_write (by simp only [plan, hlook, hcolor, bind, Except.bind]; rfl) ?_ not_false not_false
      not_false rfl rfl
    rw [List.map_singleton, Region.span_ofValue]
    rfl
  | getPlayState | getCurrentAnimation =>
    cases hd
    obtain ⟨state, hstate⟩ := modelOf_of_kind hsuits
    refine checked_of_write (by simp only [plan, hlook, hstate, bind, Except.bind]; rfl) ?_ not_false not_false
      not_false rfl rfl
    rw [List.map_singleton, Region.span_ofValue]
    rfl
  | getIdLength =>
    cases hd
    exact checked_of_length (by rw [plan, hlook]; rfl) rfl .rfl not_false not_false rfl rfl
  | getTextLength =>
    cases hd
    obtain ⟨state, hstate, hcontent⟩ := textOf_of_kind hsuits
    refine checked_of_length (by simp only [plan, hlook, hstate, bind, Except.bind]; rfl) rfl ?_ not_false not_false rfl
      rfl
    rw [TooLong, hcontent]
  | getId =>
    cases hd
    refine checked_of_text (by rw [plan, hlook]; rfl) ?_ .rfl .rfl not_false rfl rfl
    simp only [regards, inputs, outputs, textSize, hfound, List.nil_append]
  | getText =>
    cases hd
    obtain ⟨state, hstate, hcontent⟩ := textOf_of_kind hsuits
    refine checked_of_text (by simp only [plan, hlook, hstate, bind, Except.bind]; rfl) ?_ ?_ .rfl not_false rfl
      rfl
    · simp only [regards, inputs, outputs, textSize, hfound, List.nil_append, ← hcontent]
      rfl
    · rw [TooLong, hcontent]
  | _ => cases hquery

end Query

/-! ### Changes -/

section Change

/-- a call that sets an attribute which guests can set passes its value on -/
theorem plan_of_sets {a : Attribute} (hsets : call.sets? = some (d, a)) (hfound : s.resolve d = some (node, e))
    (hlets : e.kind.lets a) :
    call.plan caller m s = (fun v => .patch node (v.patch e)) <$> call.passed m := by
  have hlook : lookUp s d = .ok (node, e) := lookUp_eq_ok.2 hfound
  cases call with
  | setDisplay _ code =>
    cases hsets
    rw [plan, hlook, passed]
    cases coded (DisplayMode.ofCode? code) <;> rfl
  | setPosition _ input | setScale _ input =>
    cases hsets
    rw [plan, hlook, passed]
    cases access (readValue m input : Except AccessError Vec3) <;> rfl
  | setRotation _ input =>
    cases hsets
    rw [plan, hlook, passed]
    cases access (readValue m input : Except AccessError Quaternion) <;> rfl
  | setText _ input length =>
    cases hsets
    obtain ⟨state, hstate⟩ := (lets_text_iff (.inl rfl)).1 hlets
    simp only [plan, hlook, hstate, passed, bind, Except.bind]
    cases natural length with
    | error => rfl
    | ok n => cases hread : access (readText m input n) <;> simp only [hread] <;> rfl
  | setBackgroundColor _ input =>
    cases hsets
    obtain ⟨state, hstate⟩ := (lets_text_iff (.inr rfl)).1 hlets
    simp only [plan, hlook, hstate, passed, bind, Except.bind]
    cases access (readValue m input : Except AccessError Rgba) <;> rfl
  | setPlayState _ code =>
    cases hsets
    obtain ⟨state, hstate⟩ := lets_playState_iff.1 hlets
    simp only [plan, hlook, hstate, passed, bind, Except.bind]
    cases coded (PlayState.ofCode? code) <;> rfl
  | _ => cases hsets

variable [ExactMemory μ]

/-- a value is passed just if nothing is wrong with the argument that brings it -/
theorem passed_cases {a : Attribute} (hsets : call.sets? = some (d, a)) :
    (call.Faulty m s e ∧ call.passed m = .error .invalidArgument) ∨
      (¬ call.Faulty m s e ∧ ∃ v, call.passed m = .ok v) := by
  cases call with
  | setDisplay _ code =>
    rcases coded_display code with ⟨hnone, hcoded⟩ | ⟨v, hv, hcoded⟩
    · exact .inl ⟨.inr (.inl hnone), by rw [passed, hcoded]; rfl⟩
    · refine .inr ⟨not_faulty_of_no_clip not_false (fun h => h v hv) rfl ?_, _, by rw [passed, hcoded]; rfl⟩
      exact List.forall_mem_nil _
  | setPlayState _ code =>
    rcases coded_playState code with ⟨hnone, hcoded⟩ | ⟨v, hv, hcoded⟩
    · exact .inl ⟨.inr (.inl hnone), by rw [passed, hcoded]; rfl⟩
    · refine .inr ⟨not_faulty_of_no_clip not_false (fun h => h v hv) rfl ?_, _, by rw [passed, hcoded]; rfl⟩
      exact List.forall_mem_nil _
  | setPosition _ input | setScale _ input =>
    rcases readValue_cases m input Vec3 with ⟨houtside, hread⟩ | ⟨hinside, v, hread⟩
    · exact .inl ⟨.inr (.inr (.inr ⟨_, List.mem_singleton_self _, houtside⟩)), by rw [passed, hread]; rfl⟩
    · refine .inr ⟨not_faulty_of_no_clip not_false not_false rfl ?_, _, by rw [passed, hread]; rfl⟩
      exact fun p hp => List.mem_singleton.1 hp ▸ hinside
  | setRotation _ input =>
    rcases readValue_cases m input Quaternion with ⟨houtside, hread⟩ | ⟨hinside, v, hread⟩
    · exact .inl ⟨.inr (.inr (.inr ⟨_, List.mem_singleton_self _, houtside⟩)), by rw [passed, hread]; rfl⟩
    · refine .inr ⟨not_faulty_of_no_clip not_false not_false rfl ?_, _, by rw [passed, hread]; rfl⟩
      exact fun p hp => List.mem_singleton.1 hp ▸ hinside
  | setBackgroundColor _ input =>
    rcases readValue_cases m input Rgba with ⟨houtside, hread⟩ | ⟨hinside, v, hread⟩
    · exact .inl ⟨.inr (.inr (.inr ⟨_, List.mem_singleton_self _, houtside⟩)), by rw [passed, hread]; rfl⟩
    · refine .inr ⟨not_faulty_of_no_clip not_false not_false rfl ?_, _, by rw [passed, hread]; rfl⟩
      exact fun p hp => List.mem_singleton.1 hp ▸ hinside
  | setText _ input length =>
    rcases natural_cases length with ⟨hneg, hnatural⟩ | ⟨hnonneg, hnatural⟩
    · exact .inl ⟨.inl hneg, by rw [passed, hnatural]; rfl⟩
    · rcases readText_cases m input length.toInt.toNat with ⟨houtside, hread⟩ | ⟨hinside, hread⟩
      · refine .inl ⟨.inr (.inr (.inr ⟨_, List.mem_singleton_self _, houtside⟩)), ?_⟩
        simp only [passed, hnatural, hread, bind, Except.bind]
      · refine .inr ⟨?_, .text (textAt m input length.toInt.toNat), ?_⟩
        · refine not_faulty_of_no_clip (Int32.not_lt.2 hnonneg) not_false rfl ?_
          exact fun p hp => List.mem_singleton.1 hp ▸ hinside
        · simp only [passed, hnatural, hread, bind, Except.bind]
          rfl
  | _ => cases hsets

theorem lets_of_suits {a : Attribute} (hsets : call.sets? = some (d, a)) (hsuits : call.Suits e.kind) :
    e.kind.lets a := by
  cases call with
  | setText | setBackgroundColor | setPlayState =>
    cases hsets
    rw [show e.kind = _ from hsuits]
    rfl
  | setDisplay | setPosition | setRotation | setScale =>
    cases hsets
    cases e.kind <;> rfl
  | _ => cases hsets

theorem not_tooLong_of_sets {a : Attribute} (hsets : call.sets? = some (d, a)) : ¬ call.TooLong e := by
  cases call with
  | getIdLength | getId | getTextLength | getText => cases hsets
  | _ => exact not_false

theorem checked_of_setter {a : Attribute} (hsets : call.sets? = some (d, a)) (hfound : s.resolve d = some (node, e))
    (hsuits : call.Suits e.kind) :
    Checked (call.TooLong e) (call.Faulty m s e) (call.run caller m s).status := by
  have hlets := lets_of_suits hsets hsuits
  have hplan : call.plan caller m s = _ := plan_of_sets hsets hfound hlets
  rcases passed_cases (m := m) (s := s) (e := e) hsets with ⟨hfaulty, hpassed⟩ | ⟨hclear, v, hpassed⟩
  · rw [hpassed] at hplan
    rw [status_of_error hplan]
    exact .invalid (not_tooLong_of_sets hsets) hfaulty
  · rw [hpassed] at hplan
    have hwhich := which_of_passed hsets hpassed
    rw [status_of_patch hfound (hwhich ▸ hlets) hplan]
    exact .success (not_tooLong_of_sets hsets) hclear

/-- what is left of the choice of a clip, once the arguments are read, is whether there is such a clip -/
theorem checked_of_animation {clip : Clip} {playState : PlayState} {wrap : AnimationWrap}
    (hfound : s.resolve d = some (node, e)) (hplan : call.plan caller m s = .ok (.animate node clip playState wrap))
    (hclip : call.clip? m = some clip) (hfits : ¬ call.TooLong e)
    (hclear : e.HasClip clip → ¬ call.Faulty m s e) :
    Checked (call.TooLong e) (call.Faulty m s e) (call.run caller m s).status := by
  rcases status_of_animate hfound hplan with ⟨hhas, hstatus⟩ | ⟨hhas, hstatus⟩
  · rw [hstatus]
    exact .success hfits (hclear hhas)
  · rw [hstatus]
    exact .invalid hfits (.inr (.inr (.inl ⟨clip, hclip, hhas⟩)))

theorem checked_of_chooser (hchooses : call.chooses? = some d) (hfound : s.resolve d = some (node, e))
    (hsuits : call.Suits e.kind) :
    Checked (call.TooLong e) (call.Faulty m s e) (call.run caller m s).status := by
  have hlook : lookUp s d = .ok (node, e) := lookUp_eq_ok.2 hfound
  cases call with
  | changeAnimation _ index playState wrap =>
    cases hchooses
    obtain ⟨state, hstate⟩ := modelOf_of_kind hsuits
    rcases natural_cases index with ⟨hneg, hnatural⟩ | ⟨hnonneg, hnatural⟩
    · refine checked_of_refusal ?_ not_false (.inl hneg)
      simp only [plan, hlook, hstate, hnatural, bind, Except.bind]
    rcases modes_cases playState wrap (.animate node (.index index.toInt.toNat)) with
      ⟨hnone, hmodes⟩ | ⟨hmodes', v, v', hmodes⟩
    · refine checked_of_refusal ?_ not_false (.inr (.inl hnone))
      simp only [plan, hlook, hstate, hnatural, bind, Except.bind]
      exact hmodes
    · have hplan : (changeAnimation d index playState wrap).plan caller m s =
          .ok (.animate node (.index index.toInt.toNat) v v') := by
        simp only [plan, hlook, hstate, hnatural, bind, Except.bind]
        exact hmodes
      refine checked_of_animation hfound hplan rfl not_false ?_
      intro hhas
      exact not_faulty (Int32.not_lt.2 hnonneg) hmodes' (fun clip hclip => Option.some.inj hclip ▸ hhas)
        (List.forall_mem_nil _)
  | changeAnimationByName _ name length playState wrap =>
    cases hchooses
    obtain ⟨state, hstate⟩ := modelOf_of_kind hsuits
    rcases natural_cases length with ⟨hneg, hnatural⟩ | ⟨hnonneg, hnatural⟩
    · refine checked_of_refusal ?_ not_false (.inl hneg)
      simp only [plan, hlook, hstate, hnatural, bind, Except.bind]
    rcases readText_cases m name length.toInt.toNat with ⟨houtside, hread⟩ | ⟨hinside, hread⟩
    · refine checked_of_refusal ?_ not_false (.inr (.inr (.inr ⟨_, List.mem_singleton_self _, houtside⟩)))
      simp only [plan, hlook, hstate, hnatural, hread, bind, Except.bind]
    rcases modes_cases playState wrap (.animate node (.name (textAt m name length.toInt.toNat))) with
      ⟨hnone, hmodes⟩ | ⟨hmodes', v, v', hmodes⟩
    · refine checked_of_refusal ?_ not_false (.inr (.inl hnone))
      simp only [plan, hlook, hstate, hnatural, hread, bind, Except.bind]
      exact hmodes
    · have hplan : (changeAnimationByName d name length playState wrap).plan caller m s =
          .ok (.animate node (.name (textAt m name length.toInt.toNat)) v v') := by
        simp only [plan, hlook, hstate, hnatural, hread, bind, Except.bind]
        exact hmodes
      refine checked_of_animation hfound hplan rfl not_false ?_
      intro hhas
      exact not_faulty (Int32.not_lt.2 hnonneg) hmodes' (fun clip hclip => Option.some.inj hclip ▸ hhas)
        fun p hp => List.mem_singleton.1 hp ▸ hinside
  | _ => cases hchooses

theorem checked_of_request {event userData : Int32} (hfound : s.resolve d = some (node, e)) :
    Checked ((registerEvent d event userData).TooLong e) ((registerEvent d event userData).Faulty m s e)
      ((registerEvent d event userData).run caller m s).status := by
  have hlook : lookUp s d = .ok (node, e) := lookUp_eq_ok.2 hfound
  rcases coded_event event with ⟨hnone, hcoded⟩ | ⟨v, hv, hcoded⟩
  · exact checked_of_refusal (by simp only [plan, hlook, hcoded, bind, Except.bind]) not_false (.inr (.inl hnone))
  · rw [status_of_subscribe (by simp only [plan, hlook, hcoded, bind, Except.bind]; rfl)]
    exact .success not_false (not_faulty_of_no_clip not_false (fun h => h v hv) rfl (List.forall_mem_nil _))

end Change

/-- the reasons that are left when the element is there and has what the call is about -/
theorem checked_of_found [ExactMemory μ] (hd : call.descriptor? = some d) (hfound : s.resolve d = some (node, e))
    (hsuits : call.Suits e.kind) :
    Checked (call.TooLong e) (call.Faulty m s e) (call.run caller m s).status := by
  cases call with
  | getElementCount | getElements | getElementById => cases hd
  | setDisplay | setPosition | setRotation | setScale | setText | setBackgroundColor | setPlayState =>
    cases hd
    exact checked_of_setter rfl hfound hsuits
  | changeAnimation | changeAnimationByName =>
    cases hd
    exact checked_of_chooser rfl hfound hsuits
  | registerEvent =>
    cases hd
    exact checked_of_request hfound
  | _ => exact checked_of_query hd hfound hsuits rfl

theorem judged_of_found [ExactMemory μ] (hroom : s.registry.count ≤ Registry.room) (hd : call.descriptor? = some d)
    (hfound : s.resolve d = some (node, e)) :
    Judged (call.Missing m s) (call.Unable s) (call.Short s) (call.Invalid m s) (call.run caller m s).status := by
  have hpresent := not_missing_of_found (m := m) hroom hd hfound
  by_cases hsuits : call.Suits e.kind
  · have hable : ¬ call.Unable s := fun h => (unable_iff hroom hd hfound).1 h hsuits
    rw [short_iff hroom hd hfound, invalid_iff hroom hd hfound]
    exact .of_checked hpresent hable (checked_of_found hd hfound hsuits)
  · rw [status_of_error (plan_of_unsuited hd hfound hsuits)]
    exact .of_unable hpresent ((unable_iff hroom hd hfound).2 hsuits)

end Descriptor

/-! ## Calls without a descriptor -/

section Free

variable {μ : Type} [LinearMemory μ] [ExactMemory μ] {m : μ} {s : Session SceneStore} {call : SceneCall}
  {caller : ScriptId}

theorem not_about_of_free (hd : call.descriptor? = none) (e : Element) : ¬ call.About s e := by
  rintro ⟨d, hd', -⟩
  rw [hd] at hd'
  cases hd'

theorem missing_iff_of_free (hd : call.descriptor? = none) : call.Missing m s ↔ call.Unnamed m s := by
  simp [Missing, hd]

/-- the reasons against a call that is about no element do not depend on one -/
theorem judged_of_free (hd : call.descriptor? = none) (hnamed : ¬ call.Unnamed m s) {status : CallStatus}
    (h : Checked False (call.Negative ∨ call.Unknown ∨ ∃ p ∈ call.regards s, p.Outside (LinearMemory.size m)) status) :
    Judged (call.Missing m s) (call.Unable s) (call.Short s) (call.Invalid m s) status := by
  have hnone : ∀ e, ¬ call.About s e := not_about_of_free hd
  refine .of_checked (fun h => hnamed ((missing_iff_of_free hd).1 h)) (fun ⟨e, h, _⟩ => hnone e h) ?_
  simpa only [Short, Invalid, hnone, false_and, exists_false, false_or] using h

theorem total_of_count (hcount : s.registry.count < signedLimit) : ∃ all, total s.records = .ok all := by
  have hlength : s.records.length ≤ s.registry.count :=
    Nat.le_trans (List.length_filterMap_le ..) (Nat.le_of_eq Array.length_toList)
  exact ⟨_, if_pos (by omega)⟩

/-- what is left of a call about no element, once its answer is settled, are the bounds of what it looks at -/
theorem judged_of_write {regions : List Region} (hd : call.descriptor? = none) (hnamed : ¬ call.Unnamed m s)
    (hneg : ¬ call.Negative) (hcode : ¬ call.Unknown) (hplan : call.plan caller m s = .ok (.write regions))
    (hspans : call.regards s = call.inputs ++ regions.map Region.span)
    (hread : ∀ p ∈ call.inputs, ¬ p.Outside (LinearMemory.size m)) :
    Judged (call.Missing m s) (call.Unable s) (call.Short s) (call.Invalid m s) (call.run caller m s).status := by
  refine judged_of_free hd hnamed ?_
  rcases status_of_write hplan hspans hread with ⟨hinside, hstatus⟩ | ⟨houtside, hstatus⟩
  · rw [hstatus]
    refine .success not_false ?_
    rintro (h | h | ⟨p, hp, h⟩)
    · exact hneg h
    · exact hcode h
    · exact hinside p hp h
  · rw [hstatus]
    exact .invalid not_false (.inr (.inr houtside))

theorem judged_of_refusal (hd : call.descriptor? = none) (hnamed : ¬ call.Unnamed m s)
    (hplan : call.plan caller m s = .error .invalidArgument)
    (h : call.Negative ∨ call.Unknown ∨ ∃ p ∈ call.regards s, p.Outside (LinearMemory.size m)) :
    Judged (call.Missing m s) (call.Unable s) (call.Short s) (call.Invalid m s) (call.run caller m s).status := by
  rw [status_of_error hplan]
  exact judged_of_free hd hnamed (.invalid not_false h)

theorem judged_getElementCount (hcount : s.registry.count < signedLimit) (out : Pointer) :
    Judged ((getElementCount out).Missing m s) ((getElementCount out).Unable s) ((getElementCount out).Short s)
      ((getElementCount out).Invalid m s) ((getElementCount out).run caller m s).status := by
  obtain ⟨all, htotal⟩ := total_of_count hcount
  refine judged_of_write rfl not_false not_false not_false (by rw [plan, htotal]; rfl) ?_ (List.forall_mem_nil _)
  rw [List.map_singleton, Region.span_ofValue]
  rfl

theorem judged_getElements (hcount : s.registry.count < signedLimit) (array : Pointer) (length : Int32) (count : Pointer) :
    Judged ((getElements array length count).Missing m s) ((getElements array length count).Unable s)
      ((getElements array length count).Short s) ((getElements array length count).Invalid m s)
      ((getElements array length count).run caller m s).status := by
  obtain ⟨all, htotal⟩ := total_of_count hcount
  rcases natural_cases length with ⟨hneg, hnatural⟩ | ⟨hnonneg, hnatural⟩
  · refine judged_of_refusal rfl not_false ?_ (.inl hneg)
    simp only [plan, enumerate, hnatural, bind, Except.bind]
  by_cases hslot : count.toNat + 4 ≤ LinearMemory.size m
  · have hbounds : access (checkBounds (LinearMemory.size m) count 4) = .ok () := by
      rw [(checkBounds_eq_ok_iff _ _ _).2 hslot]
      rfl
    have hplan : (getElements array length count).plan caller m s =
        .ok (.write (if (s.records.take length.toInt.toNat).isEmpty then [.ofValue count all]
          else [.ofValues array (s.records.take length.toInt.toNat), .ofValue count all])) := by
      simp only [plan, enumerate, hnatural, htotal, hbounds, bind, Except.bind]
      rfl
    refine judged_of_write rfl not_false (Int32.not_lt.2 hnonneg) not_false hplan ?_ (List.forall_mem_nil _)
    have hcopied : (s.records.take length.toInt.toNat).length = min length.toInt.toNat s.records.length :=
      List.length_take
    change _ = List.map Region.span _
    rw [regards, ← hcopied]
    simp only [List.isEmpty_iff_length_eq_zero]
    split
    · rw [List.map_singleton, Region.span_ofValue]
      rfl
    · rw [List.map_cons, List.map_singleton, Region.span_ofValue, Region.span_ofValues, hcopied]
      rfl
  · have hbounds : access (checkBounds (LinearMemory.size m) count 4) = .error .invalidArgument := by
      rw [checkBounds, if_neg hslot]
      rfl
    refine judged_of_refusal rfl not_false
      (by simp only [plan, enumerate, hnatural, htotal, hbounds, bind, Except.bind]) (.inr (.inr ⟨⟨count, 4⟩, ?_, ?_⟩))
    · rw [regards]
      split
      · exact List.mem_singleton_self _
      · exact List.mem_cons_of_mem _ (List.mem_singleton_self _)
    · exact Nat.lt_of_not_le hslot

theorem judged_getElementById (id : Pointer) (length : Int32) (out : Pointer) :
    Judged ((getElementById id length out).Missing m s) ((getElementById id length out).Unable s)
      ((getElementById id length out).Short s) ((getElementById id length out).Invalid m s)
      ((getElementById id length out).run caller m s).status := by
  rcases natural_cases length with ⟨hneg, hnatural⟩ | ⟨hnonneg, hnatural⟩
  · refine judged_of_refusal rfl (fun h => Int32.not_lt.2 h.1 hneg) ?_ (.inl hneg)
    simp only [plan, hnatural, bind, Except.bind]
  rcases readText_cases m id length.toInt.toNat with ⟨houtside, hread⟩ | ⟨hinside, hread⟩
  · refine judged_of_refusal rfl (fun h => Nat.not_lt.2 h.2.1 houtside) ?_
      (.inr (.inr ⟨_, List.mem_cons_self, houtside⟩))
    simp only [plan, hnatural, hread, bind, Except.bind]
  have hinside' := Nat.not_lt.1 hinside
  cases hentry : s.registry.withId? (textAt m id length.toInt.toNat) with
  | none =>
    have hplan : (getElementById id length out).plan caller m s = .error .elementNotFound := by
      simp only [plan, hnatural, hread, hentry, bind, Except.bind]
      rfl
    rw [status_of_error hplan]
    refine .of_missing (.inr ⟨hnonneg, hinside', ?_⟩)
    intro entry h
    rw [hentry] at h
    cases h
  | some entry =>
    cases helement : s.scene.element? entry.node with
    | none =>
      have hplan : (getElementById id length out).plan caller m s = .error .elementNotFound := by
        simp only [plan, hnatural, hread, hentry, SceneBackend.element?, helement, bind, Except.bind]
        rfl
      rw [status_of_error hplan]
      refine .of_missing (.inr ⟨hnonneg, hinside', ?_⟩)
      intro entry' h
      rw [← Option.some.inj (hentry.symm.trans h), helement]
    | some e =>
      have hplan : (getElementById id length out).plan caller m s =
          .ok (answer out (⟨entry.descriptor, e.kind.code⟩ : ElementRecord)) := by
        simp only [plan, hnatural, hread, hentry, SceneBackend.element?, helement, bind, Except.bind]
        rfl
      refine judged_of_write rfl ?_ (Int32.not_lt.2 hnonneg) not_false hplan ?_
        fun p hp => List.mem_singleton.1 hp ▸ hinside
      · rintro ⟨-, -, hnone⟩
        rw [hnone entry hentry] at helement
        cases helement
      · rw [List.map_singleton, Region.span_ofValue]
        rfl

end Free

/-- **The status of every call.** In a session of fewer than 2^31 nodes (`signedLimit`) and with a memory that takes just
the copies that lie inside of it, a call ends with the status of the first reason against it, and succeeds if there is
none. -/
theorem status_judged {μ : Type} [LinearMemory μ] [ExactMemory μ] (s : Session SceneStore)
    (hcount : s.registry.count < signedLimit) (caller : ScriptId) (m : μ) (call : SceneCall) :
    Judged (call.Missing m s) (call.Unable s) (call.Short s) (call.Invalid m s) (call.run caller m s).status := by
  have hroom : s.registry.count ≤ Registry.room := Nat.le_trans (Nat.le_of_lt hcount) (by decide)
  cases hd : call.descriptor? with
  | some d =>
    cases hfound : s.resolve d with
    | some found => exact judged_of_found hroom hd hfound
    | none => exact judged_of_not_found hroom hd hfound
  | none =>
    cases call with
    | getElementCount out => exact judged_getElementCount hcount out
    | getElements array length count => exact judged_getElements hcount array length count
    | getElementById id length out => exact judged_getElementById id length out
    | _ => cases hd

/-- of a model with the descriptor 10 and a text with the descriptor 11: a negative length behind a descriptor that was
never given out, or of a call that the model does not support; and a buffer that sticks out, first too small, then not -/
theorem status_of_many_faults :
    let s := twoElements.session
    let m : ByteMemory := ⟨filled 32 7⟩
    s.registry.count < signedLimit ∧
      ((getText 12 40 (-1)).run ⟨0⟩ m s).status = .elementNotFound ∧
      ((setText 10 40 (-1)).run ⟨0⟩ m s).status = .unsupportedOperation ∧
      ((getId 10 40 5).run ⟨0⟩ m s).status = .insufficientBufferSize ∧
      ((getId 10 40 6).run ⟨0⟩ m s).status = .invalidArgument := by
  intro s m
  have hcount : s.registry.count < signedLimit := by decide +kernel
  have hroom : s.registry.count ≤ Registry.room := Nat.le_trans (Nat.le_of_lt hcount) (by decide)
  have hmodel : s.resolve 10 = some (⟨0⟩, { id := some "walker", data := .model {} }) := by decide +kernel
  have hjudged := status_judged s hcount ⟨0⟩ m
  refine ⟨hcount, ?_, ?_, ?_, ?_⟩
  · rw [(hjudged _).elementNotFound]
    exact .inl ⟨rfl, fun _ => not_about_of_not_found hroom rfl (by decide +kernel)⟩
  · rw [(hjudged _).unsupportedOperation, unable_iff hroom rfl hmodel]
    exact ⟨not_missing_of_found hroom rfl hmodel, nofun⟩
  · rw [(hjudged _).insufficientBufferSize, unable_iff hroom rfl hmodel, short_iff hroom rfl hmodel]
    exact ⟨not_missing_of_found hroom rfl hmodel, not_not_intro trivial, by decide, by decide +kernel⟩
  · rw [(hjudged _).invalidArgument, unable_iff hroom rfl hmodel, short_iff hroom rfl hmodel, invalid_iff hroom rfl hmodel]
    refine ⟨not_missing_of_found hroom rfl hmodel, not_not_intro trivial, ?_, ?_⟩
    · exact fun h => absurd h.2 (by decide +kernel)
    · have hspan : (getId 10 40 6).regards s = [⟨40, 6⟩] := by
        simp only [regards, inputs, outputs, textSize, hmodel]
        rfl
      have houtside : LinearMemory.size m < 46 := by decide +kernel
      exact .inr (.inr (.inr ⟨⟨40, 6⟩, hspan ▸ List.mem_singleton_self _, houtside⟩))

end SceneCall

end ScriptHost
