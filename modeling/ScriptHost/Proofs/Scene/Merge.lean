/-
Patches of one element, one after another. An element is the values of the fields that a patch can set and a rest that no
patch sets (`Element.ext_fields`). From that:
- a patch gives the fields that it sets their values, and leaves every other field and the rest as they were
  (`Element.field?_of_applyTo?`);
- what an element takes, it takes at any later time too, since no patch changes the kind of an element
  (`Element.takes_patched`); so the verdict on a patch is the same wherever it stands in a list of patches;
- two patches one after another are one patch, which takes each field from the later one that sets it
  (`Patch.applyTo?_atop`). If either of the two is rejected, so is their merge.
`Element.heeds_patches` puts this together for all elements and all lists of patches.
-/
import Mathlib.Data.List.Induction
import Mathlib.Tactic.Tauto
import ScriptHost.Proofs.Scene.Store
import ScriptHost.World

namespace ScriptHost

/-! ## The fields of patches and elements -/

/-- a field that a patch can set -/
inductive Patch.Field where
  | id
  | display
  | position
  | rotation
  | scale
  | text
  | background
  | playState
deriving DecidableEq, Repr

/-- what a field holds -/
def Patch.Field.Value : Patch.Field → Type
  | .id | .text => String
  | .display => DisplayMode
  | .position => Vec3
  | .rotation => Quaternion
  | .scale => Scale
  | .background => Rgba
  | .playState => PlayState

/-- the value that a patch sets a field to, if it sets it -/
def Patch.field? (p : Patch) : (f : Patch.Field) → Option f.Value
  | .id => p.id
  | .display => p.display
  | .position => p.position
  | .rotation => p.rotation
  | .scale => p.scale
  | .text => p.text
  | .background => p.background
  | .playState => p.playState

theorem Patch.ext_fields {p q : Patch} (h : ∀ f, p.field? f = q.field? f) : p = q := by
  obtain ⟨id, display, position, rotation, scale, text, background, playState⟩ := p
  obtain rfl : id = q.id := h .id
  obtain rfl : display = q.display := h .display
  obtain rfl : position = q.position := h .position
  obtain rfl : rotation = q.rotation := h .rotation
  obtain rfl : scale = q.scale := h .scale
  obtain rfl : text = q.text := h .text
  obtain rfl : background = q.background := h .background
  obtain rfl : playState = q.playState := h .playState
  rfl

namespace Element

variable {e e' : Element}

/-- the value of a field of an element, if it has one -/
def field? (e : Element) : (f : Patch.Field) → Option f.Value
  | .id => e.id
  | .display => some e.display
  | .position => some e.position
  | .rotation => some e.rotation
  | .scale => some e.scale
  | .text => e.data.text?.map TextState.text
  | .background => e.data.text?.map TextState.background
  | .playState => e.data.model?.map ModelState.playState

/-- what an element has beyond the fields of patches: its kind, the clips of a model, which of them was chosen and how it
goes on, the colour of a geometry -/
def rest (e : Element) : ElementData :=
  match e.data with
  | .text _ => .text {}
  | .model state => .model { state with playState := .stop }
  | data => data

/-- the fields and the rest are the whole element -/
theorem ext_fields (h : ∀ f, e.field? f = e'.field? f) (hrest : e.rest = e'.rest) : e = e' := by
  obtain ⟨id, display, position, rotation, scale, data⟩ := e
  obtain ⟨id', display', position', rotation', scale', data'⟩ := e'
  obtain rfl : id = id' := h .id
  obtain rfl : display = display' := Option.some.inj (h .display)
  obtain rfl : position = position' := Option.some.inj (h .position)
  obtain rfl : rotation = rotation' := Option.some.inj (h .rotation)
  obtain rfl : scale = scale' := Option.some.inj (h .scale)
  obtain rfl : data = data' := by
    cases data with
    | text state =>
      cases data' with
      | text state' =>
        obtain ⟨text, background⟩ := state
        obtain rfl : text = state'.text := Option.some.inj (h .text)
        obtain rfl : background = state'.background := Option.some.inj (h .background)
        rfl
      | _ => cases hrest
    | model state =>
      cases data' with
      | model state' =>
        obtain ⟨clips, current, playState, wrap⟩ := state
        obtain ⟨clips', current', playState', wrap'⟩ := state'
        obtain rfl : playState = playState' := Option.some.inj (h .playState)
        cases hrest
        rfl
      | _ => cases hrest
    | generic | image | video | geometry | tiledAsset | screenSpace => cases data' <;> cases hrest; rfl
  rfl

/-! ## One patch -/

/-- does an element take a patch? -/
def takes (e : Element) (p : Patch) : Bool := (p.applyTo? e).isSome

/-- an element after a patch; one that rejects the patch stays as it was -/
def patched (e : Element) (p : Patch) : Element := (p.applyTo? e).getD e

variable {p q : Patch}

theorem takes_eq_fits (e : Element) (p : Patch) : e.takes p = p.fits e.data := by
  rw [takes, Patch.applyTo?]
  cases p.fits e.data <;> rfl

theorem takes_iff : e.takes p ↔
    ((p.text.isSome ∨ p.background.isSome) → e.kind = .text) ∧ (p.playState.isSome → e.kind = .model) := by
  rw [takes_eq_fits]
  cases hdata : e.data <;> simp [Patch.fits, kind, hdata, ElementData.kind]

theorem applyTo?_of_takes (h : e.takes p) : p.applyTo? e = some (e.patched p) := by
  obtain ⟨new, hnew⟩ := Option.isSome_iff_exists.1 h
  rw [patched, hnew]
  rfl

theorem applyTo?_of_not_takes (h : e.takes p = false) : p.applyTo? e = none :=
  Option.isNone_iff_eq_none.1 (Option.isSome_eq_false_iff.1 h)

theorem patched_of_not_takes (h : e.takes p = false) : e.patched p = e := by
  rw [patched, applyTo?_of_not_takes h]
  rfl

/-- a patch gives each field that it sets its value, and leaves the others -/
theorem field?_of_applyTo? (h : p.applyTo? e = some e') (f : Patch.Field) :
    e'.field? f = (p.field? f).or (e.field? f) := by
  have htakes : e.takes p := Option.isSome_iff_exists.2 ⟨e', h⟩
  rw [takes_eq_fits] at htakes
  rw [Patch.applyTo?, if_pos htakes] at h
  cases h
  obtain ⟨id, display, position, rotation, scale, data⟩ := e
  obtain ⟨newId, newDisplay, newPosition, newRotation, newScale, text, background, playState⟩ := p
  cases f with
  | id => cases newId <;> rfl
  | display => cases newDisplay <;> rfl
  | position => cases newPosition <;> rfl
  | rotation => cases newRotation <;> rfl
  | scale => cases newScale <;> rfl
  | text =>
    cases data with
    | text state => cases text <;> rfl
    | _ => cases text <;> first | rfl | cases htakes
  | background =>
    cases data with
    | text state => cases background <;> rfl
    | _ => cases background <;> first | rfl | (cases text <;> cases htakes)
  | playState =>
    cases data with
    | model state => cases playState <;> rfl
    | text state => cases playState <;> first | rfl | cases htakes
    | _ => cases playState <;> first | rfl | (cases text <;> cases background <;> cases htakes)

/-- no patch reaches the rest -/
theorem rest_of_applyTo? (h : p.applyTo? e = some e') : e'.rest = e.rest := by
  rw [Patch.applyTo?] at h
  split at h
  · cases h
    cases hdata : e.data <;> simp only [rest, Patch.applyData, hdata]
  · cases h

theorem kind_rest (e : Element) : e.rest.kind = e.kind := by
  rw [rest, kind]
  cases e.data <;> rfl

theorem kind_patched (e : Element) (p : Patch) : (e.patched p).kind = e.kind := by
  cases h : e.takes p with
  | true => rw [← kind_rest, ← kind_rest, rest_of_applyTo? (applyTo?_of_takes h)]
  | false => rw [patched_of_not_takes h]

/-- the verdict on a patch is the same after another patch, whether that one was taken or not -/
theorem takes_patched (e : Element) (p q : Patch) : (e.patched p).takes q = e.takes q := by
  rw [Bool.eq_iff_iff, takes_iff, takes_iff, kind_patched]

end Element

/-! ## Two patches -/

namespace Patch

/-- two patches in one: it sets a field as the later one does, and as the earlier one does where the later one does not -/
def atop (later earlier : Patch) : Patch where
  id := later.id.or earlier.id
  display := later.display.or earlier.display
  position := later.position.or earlier.position
  rotation := later.rotation.or earlier.rotation
  scale := later.scale.or earlier.scale
  text := later.text.or earlier.text
  background := later.background.or earlier.background
  playState := later.playState.or earlier.playState

theorem field?_atop (later earlier : Patch) (f : Field) :
    (later.atop earlier).field? f = (later.field? f).or (earlier.field? f) := by
  cases f <;> rfl

theorem takes_atop (e : Element) (later earlier : Patch) :
    e.takes (later.atop earlier) = (e.takes earlier && e.takes later) := by
  rw [Bool.eq_iff_iff, Bool.and_eq_true, Element.takes_iff, Element.takes_iff, Element.takes_iff]
  simp only [atop, Option.isSome_or, Bool.or_eq_true]
  tauto

theorem patched_atop {e : Element} {later earlier : Patch} (hearlier : e.takes earlier) (hlater : e.takes later) :
    e.patched (later.atop earlier) = (e.patched earlier).patched later := by
  have hfirst := Element.applyTo?_of_takes hearlier
  have hthen := Element.applyTo?_of_takes ((Element.takes_patched e earlier later).trans hlater)
  have hmerged : (later.atop earlier).applyTo? e = some (e.patched (later.atop earlier)) :=
    Element.applyTo?_of_takes (by rw [takes_atop, hearlier, hlater]; rfl)
  refine Element.ext_fields (fun f => ?_) ?_
  · rw [Element.field?_of_applyTo? hmerged, field?_atop, Element.field?_of_applyTo? hthen,
      Element.field?_of_applyTo? hfirst, Option.or_assoc]
  · rw [Element.rest_of_applyTo? hmerged, Element.rest_of_applyTo? hthen, Element.rest_of_applyTo? hfirst]

/-- the merge of two patches does what the earlier one and then the later one do -/
theorem applyTo?_atop (later earlier : Patch) (e : Element) :
    (later.atop earlier).applyTo? e = (earlier.applyTo? e).bind later.applyTo? := by
  have hmerged := takes_atop e later earlier
  have hthen := Element.takes_patched e earlier later
  cases hearlier : e.takes earlier with
  | false =>
    rw [hearlier, Bool.false_and] at hmerged
    rw [Element.applyTo?_of_not_takes hearlier, Element.applyTo?_of_not_takes hmerged, Option.bind_none]
  | true =>
    rw [hearlier, Bool.true_and] at hmerged
    rw [Element.applyTo?_of_takes hearlier, Option.bind_some]
    cases hlater : e.takes later with
    | false =>
      rw [hlater] at hmerged hthen
      rw [Element.applyTo?_of_not_takes hmerged, Element.applyTo?_of_not_takes hthen]
    | true =>
      rw [hlater] at hmerged hthen
      rw [Element.applyTo?_of_takes hmerged, Element.applyTo?_of_takes hthen, patched_atop hearlier hlater]

/-- some patches in one, the later ones over the earlier ones -/
def merge (patches : List Patch) : Patch := patches.foldl (fun earlier later => later.atop earlier) {}

theorem merge_concat (patches : List Patch) (p : Patch) : merge (patches ++ [p]) = p.atop (merge patches) :=
  List.foldl_append ..

/-- the merge of some patches sets a field as the last of them does that sets it -/
theorem field?_merge (patches : List Patch) (f : Field) :
    (merge patches).field? f = (patches.filterMap (·.field? f)).getLast? := by
  induction patches using List.reverseRecOn with
  | nil => cases f <;> rfl
  | append_singleton patches p ih =>
    have hlast : ([p].filterMap (·.field? f)).getLast? = p.field? f := by cases h : p.field? f <;> simp [h]
    rw [merge_concat, field?_atop, ih, List.filterMap_append, List.getLast?_append, hlast]

/-- the empty patch changes nothing, and neither does one that sets the id that is there -/
theorem applyTo?_empty (e : Element) : ({} : Patch).applyTo? e = some e := by
  obtain ⟨id, display, position, rotation, scale, data⟩ := e
  cases data <;> rfl

theorem applyTo?_forElement (e : Element) : (forElement e).applyTo? e = some e := by
  obtain ⟨id, display, position, rotation, scale, data⟩ := e
  cases id <;> cases data <;> rfl

end Patch

/-! ## Lists of patches -/

namespace Element

/-- an element after some patches, one after another -/
def patchedAll (e : Element) (patches : List Patch) : Element := patches.foldl patched e

/-- what an element answers to some patches, one after another -/
def verdicts (e : Element) : List Patch → List Bool
  | [] => []
  | p :: rest => e.takes p :: (e.patched p).verdicts rest

theorem kind_patchedAll (e : Element) (patches : List Patch) : (e.patchedAll patches).kind = e.kind := by
  induction patches generalizing e with
  | nil => rfl
  | cons p rest ih => exact (ih (e.patched p)).trans (kind_patched e p)

/-- the verdict on each patch is that of the element as it was at first -/
theorem verdicts_eq_map (e : Element) (patches : List Patch) : e.verdicts patches = patches.map e.takes := by
  induction patches generalizing e with
  | nil => rfl
  | cons p rest ih =>
    have hrest : (e.patched p).verdicts rest = rest.map e.takes := by
      rw [ih (e.patched p)]
      exact List.map_congr_left fun q _ => takes_patched e p q
    rw [verdicts, hrest, List.map_cons]

/-- patches in another order get the same verdicts -/
theorem verdicts_perm (e : Element) {patches others : List Patch} (h : patches.Perm others) :
    (patches.zip (e.verdicts patches)).Perm (others.zip (e.verdicts others)) := by
  have hzip (l : List Patch) : l.zip (e.verdicts l) = l.map fun p => (p, e.takes p) := by
    rw [verdicts_eq_map, ← List.zip_map', List.map_id']
  rw [hzip, hzip]
  exact h.map _

/-- the merge of the patches that are taken is taken, and does what they do -/
theorem applyTo?_merge (e : Element) (patches : List Patch) :
    (Patch.merge (patches.filter e.takes)).applyTo? e = some (e.patchedAll patches) := by
  induction patches using List.reverseRecOn with
  | nil => exact Patch.applyTo?_empty e
  | append_singleton patches p ih =>
    have hverdict : (e.patchedAll patches).takes p = e.takes p := by
      rw [Bool.eq_iff_iff, takes_iff, takes_iff, kind_patchedAll]
    rw [patchedAll, List.foldl_append, ← patchedAll, List.filter_append]
    cases hp : e.takes p with
    | true =>
      rw [List.filter_cons_of_pos hp, List.filter_nil, Patch.merge_concat, Patch.applyTo?_atop, ih]
      exact applyTo?_of_takes (hverdict.trans hp)
    | false =>
      rw [List.filter_cons_of_neg (Bool.eq_false_iff.1 hp), List.filter_nil, List.append_nil, ih]
      exact congrArg some (patched_of_not_takes (hverdict.trans hp)).symm

end Element

/-! ## In a scene -/

namespace World

variable {w : World SceneStore} {node : NodeId} {e : Element}

/-- the scene answers as the element does, and keeps what becomes of the element -/
theorem patch_of_element? (h : w.store.element? node = some e) (p : Patch) :
    (w.patch node p).1 = e.takes p ∧ (w.patch node p).2.store.element? node = some (e.patched p) := by
  obtain ⟨found, hfound, rfl⟩ := Option.map_eq_some_iff.1 h
  cases htakes : found.element.takes p with
  | true =>
    have hp := SceneStore.patch?_eq_some.2 ⟨found, _, hfound, Element.applyTo?_of_takes htakes, rfl⟩
    have hpatch : SceneBackend.patch? w.session.scene node p = some _ := hp
    rw [patch, hpatch]
    exact ⟨rfl, SceneStore.element?_put_self hfound { found with element := found.element.patched p }⟩
  | false =>
    have hpatch : SceneBackend.patch? w.session.scene node p = none := by
      refine Option.eq_none_iff_forall_ne_some.2 fun scene hscene => ?_
      obtain ⟨other, new, hother, hnew, -⟩ := SceneStore.patch?_eq_some.1 hscene
      obtain rfl : found = other := Option.some.inj (hfound.symm.trans hother)
      rw [Element.applyTo?_of_not_takes htakes] at hnew
      cases hnew
    rw [patch, hpatch, Element.patched_of_not_takes htakes]
    exact ⟨rfl, h⟩

theorem patch_of_refused {p : Patch} (h : (w.patch node p).1 = false) : (w.patch node p).2 = w := by
  rw [patch] at h ⊢
  split at h
  · cases h
  · rfl

/-- the host patches an element some times -/
def patchAll (w : World SceneStore) (node : NodeId) (patches : List Patch) : World SceneStore :=
  patches.foldl (fun w p => (w.patch node p).2) w

theorem element?_patchAll (h : w.store.element? node = some e) (patches : List Patch) :
    (w.patchAll node patches).store.element? node = some (e.patchedAll patches) := by
  induction patches generalizing w e with
  | nil => exact h
  | cons p rest ih => exact ih (patch_of_element? h p).2

end World

/-! ## What an element does with patches -/

namespace Element

/-- what an element does with one patch -/
structure HeedsPatch (e : Element) (p : Patch) : Prop where
  /-- it takes what sets only fields that it has -/
  takes_iff : e.takes p ↔
    ((p.text.isSome ∨ p.background.isSome) → e.kind = .text) ∧ (p.playState.isSome → e.kind = .model)
  /-- what it rejects leaves all of it as it was -/
  rejected : e.takes p = false → e.patched p = e
  /-- what it takes sets the fields that the patch sets, and nothing else -/
  taken : e.takes p → ∀ e', e.patched p = e' ↔ (∀ f, e'.field? f = (p.field? f).or (e.field? f)) ∧ e'.rest = e.rest
  /-- a second time the patch is taken if it was taken the first time, and changes nothing -/
  again : (e.patched p).takes p = e.takes p ∧ (e.patched p).patched p = e.patched p
  /-- a scene that has the element does the same, and stays as it was if the element rejects the patch -/
  inScene : ∀ (w : World SceneStore) node, w.store.element? node = some e →
    (w.patch node p).1 = e.takes p ∧ (w.patch node p).2.store.element? node = some (e.patched p) ∧
      (e.takes p = false → (w.patch node p).2 = w)

/-- what an element does with some patches, one after another -/
structure HeedsPatches (e : Element) (patches : List Patch) : Prop where
  /-- it takes the ones that it takes at first -/
  verdicts : e.verdicts patches = patches.map e.takes
  /-- so it takes the same ones in any order -/
  anyOrder : ∀ others, patches.Perm others → (patches.zip (e.verdicts patches)).Perm (others.zip (e.verdicts others))
  /-- the merge of those does at once what they do one after another -/
  merged : (Patch.merge (patches.filter e.takes)).applyTo? e = some (e.patchedAll patches)
  /-- the merge takes each field from the last of them that sets it -/
  last : ∀ f, (Patch.merge (patches.filter e.takes)).field? f =
    ((patches.filter e.takes).filterMap (·.field? f)).getLast?
  /-- the element of a scene comes to the same -/
  inScene : ∀ (w : World SceneStore) node, w.store.element? node = some e →
    (w.patchAll node patches).store.element? node = some (e.patchedAll patches)

variable {e : Element} {p : Patch}

theorem patched_eq_iff (h : e.takes p) (e' : Element) :
    e.patched p = e' ↔ (∀ f, e'.field? f = (p.field? f).or (e.field? f)) ∧ e'.rest = e.rest := by
  have hp := applyTo?_of_takes h
  constructor
  · rintro rfl
    exact ⟨field?_of_applyTo? hp, rest_of_applyTo? hp⟩
  · rintro ⟨hfields, hrest⟩
    refine ext_fields (fun f => ?_) ((rest_of_applyTo? hp).trans hrest.symm)
    rw [field?_of_applyTo? hp, hfields]

theorem patched_patched_self (e : Element) (p : Patch) : (e.patched p).patched p = e.patched p := by
  cases h : e.takes p with
  | false => rw [patched_of_not_takes h, patched_of_not_takes h]
  | true =>
    -- a patch over itself is the patch
    have hself : p.atop p = p := Patch.ext_fields fun f => by rw [Patch.field?_atop, Option.or_self]
    rw [← Patch.patched_atop h h, hself]

theorem heedsPatch (e : Element) (p : Patch) : e.HeedsPatch p where
  takes_iff := takes_iff
  rejected := patched_of_not_takes
  taken := patched_eq_iff
  again := ⟨takes_patched e p p, patched_patched_self e p⟩
  inScene _ _ h :=
    have hscene := World.patch_of_element? h p
    ⟨hscene.1, hscene.2, fun hrejected => World.patch_of_refused (hscene.1.trans hrejected)⟩

theorem heedsPatches (e : Element) (patches : List Patch) : e.HeedsPatches patches where
  verdicts := verdicts_eq_map e patches
  anyOrder _ h := verdicts_perm e h
  merged := applyTo?_merge e patches
  last := Patch.field?_merge _
  inScene _ _ h := World.element?_patchAll h patches

/-- **Patches act on elements.** An element takes a patch exactly if it has the fields of its kind that the patch sets, and
then it changes in exactly the fields that are set; what it rejects changes nothing. Of some patches one after another it
takes the same ones in any order, and it ends as one patch would have it that merges those. The patch that is made for an
element is taken and changes nothing. -/
theorem heeds_patches (e : Element) :
    (∀ p, e.HeedsPatch p) ∧ (∀ patches, e.HeedsPatches patches) ∧ (Patch.forElement e).applyTo? e = some e :=
  ⟨e.heedsPatch, e.heedsPatches, Patch.applyTo?_forElement e⟩

end Element

/-- an image does not take the text, nor the position that comes with it -/
example :
    let image : Element := { data := .image }
    let moves : Patch := { position := some (.splat .one) }
    let both : Patch := { moves with text := some "open" }
    image.verdicts [both, moves] = [false, true] ∧ image.patched both = image ∧
      image.patchedAll [both, moves] = { image with position := .splat .one } := by
  decide

end ScriptHost
