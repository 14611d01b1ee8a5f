/-
Texts that guests pass. A guest passes a text as bytes in its memory, which may be any bytes, and what arrives is what they
are read as (`Text.Holds`): there is always one text that they are read as, and never two.
- As the text of an element it stays, and the guest gets its bytes back; these are the bytes that were passed if they were
  UTF-8, and passing them again changes nothing (`PassedText.Stored`).
- As the name of a clip, or as an id, it is what is looked up.
- A text that the host writes is what is read where it was written.

`texts_carried` says all of it, for every memory that is exact.
-/
import ScriptHost.Proofs.SceneCall.Animations
import ScriptHost.Proofs.SceneCall.ById
import ScriptHost.Proofs.SceneCall.Strings
import ScriptHost.Proofs.Text.Lossy

namespace ScriptHost

open Wire SceneCall

/-- a guest that gets the bytes of the text of an element and passes them back succeeds, and no node of the scene changes -/
def Session.TakesBack (μ : Type) [LinearMemory μ] (s : Session SceneStore) (d : Int32) (text : String) : Prop :=
  ∀ caller (m : μ) buffer capacity, let got := (getText d buffer capacity).run caller m s
    got.status = .success → ∀ caller' (length : Int32), length.toInt = text.utf8ByteSize →
      let after := (setText d buffer length).run caller' got.memory got.session
      after.status = .success ∧ ∀ node, after.session.scene.node? node = s.scene.node? node

/-- bytes inside of a memory that a guest passes as a text -/
structure PassedText (μ : Type) [LinearMemory μ] where
  memory : μ
  address : Pointer
  length : Int32
  natural : 0 ≤ length
  inside : address.toNat + length.toInt.toNat ≤ LinearMemory.size memory

namespace PassedText

variable {μ : Type} [LinearMemory μ] [ExactMemory μ]

/-- the bytes that are passed -/
def bytes (t : PassedText μ) : ByteArray := bytesAt t.memory t.address t.length.toInt.toNat

/-- the text that arrives -/
def text (t : PassedText μ) : String := Text.decodeLossy t.bytes

/-- what the call that sets the text of an element leaves behind -/
def set (t : PassedText μ) (caller : ScriptId) (s : Session SceneStore) (d : Int32) : SceneOutcome μ SceneStore :=
  (setText d t.address t.length).run caller t.memory s

theorem readBytes_eq (t : PassedText μ) : readBytes t.memory t.address t.length.toInt.toNat = .ok t.bytes :=
  readBytes_of_inside t.inside

theorem readText_eq (t : PassedText μ) : readText t.memory t.address t.length.toInt.toNat = .ok t.text :=
  readText_of_bytes t.readBytes_eq

/-! ## Setting a text -/

/-- what became of the text of an element that a guest has set -/
structure Stored (t : PassedText μ) (caller : ScriptId) (s : Session SceneStore) (d : Int32) (id : NodeId) (e : Element)
    (state : TextState) : Prop where
  success : (t.set caller s d).status = .success
  memory : (t.set caller s d).memory = t.memory
  notices : (t.set caller s d).notices = []
  /-- the element has the text, and nothing else has changed -/
  changes : s.Changes (t.set caller s d).session id { e with data := .text { state with text := t.text } }
  /-- guests are told its length and get its bytes, if the length is a signed word -/
  delivered : t.text.utf8ByteSize < signedLimit → ElementString.text.Delivers μ (t.set caller s d).session d t.text
  /-- and passing these bytes back changes nothing -/
  back : (t.set caller s d).session.TakesBack μ d t.text

theorem passed_setText (t : PassedText μ) (d : Int32) :
    (setText d t.address t.length).passed t.memory = .ok (.text t.text) := by
  simp only [passed, bind_eq_ok, pure_eq_ok, natural_eq_ok, access_eq_ok]
  exact ⟨_, ⟨Int32.not_lt.2 t.natural, rfl⟩, _, t.readText_eq, rfl⟩

section Set

variable (t : PassedText μ) (caller : ScriptId) {s : Session SceneStore} {d : Int32} {id : NodeId} {e : Element}
  {state : TextState} (hfound : s.resolve d = some (id, e)) (hstate : e.data = .text state)

include hfound hstate

theorem set_eq : ∃ node : SceneNode, s.scene.node? id = some node ∧ node.element = e ∧ t.set caller s d =
    { status := .success, memory := t.memory, session := s.given id node (.text t.text) } := by
  have hlets : e.kind.lets .text := by
    rw [Element.kind, hstate]
    rfl
  obtain ⟨node, rfl, hoffers⟩ := Session.offers_of_resolve hfound hlets
  exact ⟨node, hoffers.present, rfl, run_of_passed (v := .text t.text) rfl (t.passed_setText d) hoffers caller⟩

omit hfound in
theorem assign_text (text : String) : e.assign (.text text) = { e with data := .text { state with text } } := by
  rw [Element.assign, hstate]
  rfl

theorem changes_set :
    s.Changes (t.set caller s d).session id { e with data := .text { state with text := t.text } } := by
  obtain ⟨node, hnode, rfl, hset⟩ := t.set_eq caller hfound hstate
  rw [hset, ← assign_text hstate]
  exact Session.changes_given hnode _

theorem resolve_set :
    (t.set caller s d).session.resolve d = some (id, { e with data := .text { state with text := t.text } }) :=
  (t.changes_set caller hfound hstate).resolve hfound

/-- a text that is there already can be set, and no node changes -/
theorem set_same (hsame : state.text = t.text) : (t.set caller s d).status = .success ∧
    ∀ node, (t.set caller s d).session.scene.node? node = s.scene.node? node := by
  obtain ⟨node, hnode, rfl, hset⟩ := t.set_eq caller hfound hstate
  have hassign : node.element.assign (.text t.text) = node.element := by
    rw [assign_text hstate, ← hsame, ← hstate]
  rw [hset]
  refine ⟨rfl, fun other => ?_⟩
  rw [Session.node?_given hnode, hassign]
  split
  · rename_i heq
    rw [heq, hnode]
  · rfl

end Set

theorem takesBack_of_text {s : Session SceneStore} {d : Int32} {id : NodeId} {e : Element} {state : TextState}
    (hfound : s.resolve d = some (id, e)) (hstate : e.data = .text state) : s.TakesBack μ d state.text := by
  intro caller m buffer capacity got hsuccess caller' length hlength
  have hS : ElementString.text.of? e = some state.text := by
    rw [ElementString.of?, hstate]
    rfl
  -- the bytes of the text stand in the buffer
  obtain ⟨hfits, hroom⟩ := (ElementString.copyCall_success_iff hfound hS caller m buffer capacity).1 hsuccess
  have hwrites : got.Writes s m buffer state.text.toUTF8 :=
    ElementString.writes_copyCall hfound hS caller hfits hroom
  have hbytes : readBytes got.memory buffer length.toInt.toNat = .ok state.text.toUTF8 := by
    rw [hlength]
    exact hwrites.read
  -- so they can be passed, and what arrives is the text
  obtain ⟨-, hinside, -⟩ := readBytes_eq_ok_iff.1 hbytes
  let t : PassedText μ := ⟨got.memory, buffer, length, nonneg_of_toInt hlength, hinside⟩
  have htext : state.text = t.text := by
    have hread : t.bytes = state.text.toUTF8 := Except.ok.inj (t.readBytes_eq.symm.trans hbytes)
    rw [text, hread, Text.decodeLossy_toUTF8]
  have hsession : got.session = s := hwrites.session
  rw [hsession]
  exact t.set_same caller' hfound hstate htext

theorem stored_of_text (t : PassedText μ) (caller : ScriptId) {s : Session SceneStore} {d : Int32} {id : NodeId}
    {e : Element} {state : TextState} (hfound : s.resolve d = some (id, e)) (hstate : e.data = .text state) :
    t.Stored caller s d id e state := by
  have hafter := t.resolve_set caller hfound hstate
  have hback := @takesBack_of_text μ _ _ _ d id _ { state with text := t.text } hafter rfl
  obtain ⟨node, -, -, hset⟩ := t.set_eq caller hfound hstate
  exact {
    success := by rw [hset]
    memory := by rw [hset]
    notices := by rw [hset]
    changes := t.changes_set caller hfound hstate
    delivered := fun hlimit => strings_delivered hafter rfl hlimit
    back := hback }

end PassedText

/-! ## Looking a text up -/

/-- what becomes of the bytes that guests pass as texts, and of the texts that the host writes -/
structure CarriesTexts (μ : Type) [LinearMemory μ] [ExactMemory μ] : Prop where
  /-- bytes are read as the text that they hold -/
  read : ∀ t : PassedText μ, Text.Holds t.bytes t.text ∧
    readText t.memory t.address t.length.toInt.toNat = .ok t.text
  /-- that text is the text of an element for which it is set -/
  stored : ∀ (t : PassedText μ) caller {s d id e state}, s.resolve d = some (id, e) → e.data = .text state →
    t.Stored caller s d id e state
  /-- it is the name of the clip that is chosen by name -/
  chosen : ∀ (t : PassedText μ) caller {s : Session SceneStore} {d id e state}, s.resolve d = some (id, e) →
    e.data = .model state → ∀ (p : PlayState) (w : AnimationWrap),
      (changeAnimationByName d t.address t.length p.code w.code).run caller t.memory s =
        (SceneAction.animate id (.name t.text) p w).perform t.memory s
  /-- it is the id that is looked up -/
  lookedUp : ∀ (t : PassedText μ) caller (s : Session SceneStore) out,
    (getElementById t.address t.length out).run caller t.memory s =
      match s.withId? t.text with
      | some r => (answer out r).perform t.memory s
      | none => { status := .elementNotFound, memory := t.memory, session := s }
  /-- and a text that the host has written is read back -/
  written : ∀ {m m' : μ} {address capacity text}, writeText m address capacity text = (m', .ok ()) →
    readText m' address text.utf8ByteSize = .ok text

section Carried

variable {μ : Type} [LinearMemory μ] [ExactMemory μ]

namespace PassedText

variable (t : PassedText μ) (caller : ScriptId)

theorem run_changeAnimationByName {s : Session SceneStore} {d : Int32} {id : NodeId} {e : Element} {state : ModelState}
    (hfound : s.resolve d = some (id, e)) (hstate : e.data = .model state) (p : PlayState) (w : AnimationWrap) :
    (changeAnimationByName d t.address t.length p.code w.code).run caller t.memory s =
      (SceneAction.animate id (.name t.text) p w).perform t.memory s := by
  rw [run, plan_changeAnimationByName hfound hstate caller t.memory t.natural t.readText_eq]
  simp only [choose, PlayState.ofCode?_code, AnimationWrap.ofCode?_code, coded, bind, Except.bind]
  rfl

theorem run_getElementById (s : Session SceneStore) (out : Pointer) :
    (getElementById t.address t.length out).run caller t.memory s =
      match s.withId? t.text with
      | some r => (answer out r).perform t.memory s
      | none => { status := .elementNotFound, memory := t.memory, session := s } := by
  rw [run, plan_getElementById caller s out t.natural t.readText_eq]
  cases s.withId? t.text <;> rfl

end PassedText

theorem readText_writeText {m m' : μ} {address : Pointer} {capacity : Nat} {text : String}
    (h : writeText m address capacity text = (m', .ok ())) : readText m' address text.utf8ByteSize = .ok text := by
  unfold writeText at h
  split at h
  · rename_i bytes hbytes
    obtain ⟨-, rfl⟩ := textBytes_eq_ok.1 hbytes
    exact readText_of_readBytes (readBytes_writeBytes h)
  · cases h

variable (μ) in
/-- **Texts are carried.** Whatever bytes a guest passes as a text, what arrives is the one text that they hold. -/
theorem texts_carried : CarriesTexts μ where
  read t := ⟨Text.holds_decodeLossy t.bytes, t.readText_eq⟩
  stored t caller _ _ _ _ _ hfound hstate := t.stored_of_text caller hfound hstate
  chosen t caller _ _ _ _ _ hfound hstate := t.run_changeAnimationByName caller hfound hstate
  lookedUp t caller := t.run_getElementById caller
  written := readText_writeText

end Carried

/-- a byte that starts nothing and a sequence that breaks off are set as the text of an element, and come back as two
U+FFFD -/
theorem texts_carried_of_broken_bytes :
    let passed : ByteMemory := ⟨⟨#[0x6F, 0x6B, 0xFF, 0xE2, 0x82, 0x21]⟩⟩
    let after := ((setText 10 0 6).run ⟨0⟩ passed towerSession).session
    readBytes ((getText 10 4 9).run ⟨0⟩ (⟨filled 16 7⟩ : ByteMemory) after).memory 4 9 =
      .ok "ok\uFFFD\uFFFD!".toUTF8 := by
  intro passed after
  have hfound : towerSession.resolve 10 = some (⟨0⟩, { id := some "Tür", data := .text {} }) := by decide +kernel
  let t : PassedText ByteMemory := ⟨passed, 0, 6, by decide, by decide⟩
  have htext : t.text = "ok\uFFFD\uFFFD!" := by decide +kernel
  have hlength : t.text.utf8ByteSize = 9 := by rw [htext]; decide +kernel
  have hdelivered := ((texts_carried ByteMemory).stored t ⟨0⟩ hfound rfl).delivered (by rw [hlength]; decide)
  have hsuccess := (hdelivered.success_iff ⟨0⟩ ⟨filled 16 7⟩ 4 9).2
    ⟨by rw [hlength]; decide, by rw [hlength]; decide +kernel⟩
  have hread := (hdelivered.whole ⟨0⟩ ⟨filled 16 7⟩ 4 9 hsuccess).read
  have hsize : t.text.toUTF8.size = 9 := hlength
  rw [hsize, htext] at hread
  exact hread

end ScriptHost
