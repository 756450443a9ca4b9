import MemoAssist.Proofs.Ending
import MemoAssist.Proofs.Json.Depth
import MemoAssist.Provider.Basic
import Mathlib.Data.List.Forall2
import Mathlib.Tactic.MkIffOfInductiveProp

/-! The shapes of JSON values, and what it takes for work on a value of no promised shape to come out
well: the texts that its result declares are texts, and its failures are of the kinds that callers
are told to expect. -/
namespace MemoAssist

/-! ### Shapes -/

namespace Json

abbrev Fields := List (String × Json)

def IsText : Json → Prop
  | .str _ => True
  | _ => False

def IsObject (shape : Fields → Prop) : Json → Prop
  | .obj fields => shape fields
  | _ => False

def AnyObject : Json → Prop
  | .obj _ => True
  | _ => False

/-- Anything but an object will do as well. -/
def IfObject (shape : Fields → Prop) : Json → Prop
  | .obj fields => shape fields
  | _ => True

/-- An array whose first item has a shape. -/
def Led (shape : Json → Prop) : Json → Prop
  | .arr (item :: _) => shape item
  | _ => False

/-- Something that has parts, each of a shape. -/
def Each (shape : Json → Prop) (v : Json) : Prop :=
  ∃ items, v.parts = .ok items ∧ ∀ item ∈ items, shape item

/-- Whatever does not count as a value will do as well. -/
def OrBlank (shape : Json → Prop) (v : Json) : Prop := v.isSet = true → shape v

/-- A field may be missing, but what is there has a shape. -/
def Under (key : String) (shape : Json → Prop) (fields : Fields) : Prop :=
  ∀ v, find? key fields = some v → shape v

variable {shape : Json → Prop} {inside : Fields → Prop} {v : Json} {key : String}
  {fields : Fields}

@[simp] theorem isText_str {s : String} : IsText (.str s) := trivial

theorem isText_iff : v.IsText ↔ ∃ s, v = .str s := by
  cases v <;> simp [IsText]

/-- What stands for a missing field decides nothing if it has the shape itself. -/
theorem under_iff {missing : Json} (fine : shape missing) :
    shape (Provider.fieldOf fields key missing) ↔ Under key shape fields := by
  unfold Provider.fieldOf Under
  cases find? key fields with
  | none => simpa using fine
  | some v => simp

@[simp] theorem under_nil : Under key shape [] := nofun

@[simp] theorem orBlank_fieldOf :
    OrBlank shape (Provider.fieldOf fields key .null) ↔ Under key (OrBlank shape) fields :=
  under_iff nofun

@[simp] theorem isText_fieldOf {s : String} :
    (Provider.fieldOf fields key (.str s)).IsText ↔ Under key IsText fields := under_iff isText_str

@[simp] theorem isText_orElse {s : String} : (v.orElse (.str s)).IsText ↔ OrBlank IsText v := by
  unfold orElse OrBlank
  cases v.isSet <;> simp

@[simp] theorem isObject_orElse (empty : inside []) :
    (v.orElse (.obj [])).IsObject inside ↔ OrBlank (IsObject inside) v := by
  unfold orElse OrBlank
  cases v.isSet <;> simp [IsObject, empty]

@[simp] theorem anyObject_orElse : (v.orElse (.obj [])).AnyObject ↔ OrBlank AnyObject v := by
  unfold orElse OrBlank
  cases v.isSet <;> simp [AnyObject]

@[simp] theorem each_orElse : (v.orElse (.arr [])).Each shape ↔ OrBlank (Each shape) v := by
  unfold orElse OrBlank
  cases v.isSet <;> simp [Each, parts]

theorem orBlank_orElse {instead : Json} (blank : instead.isSet = false) :
    OrBlank shape (v.orElse instead) ↔ OrBlank shape v := by
  unfold orElse OrBlank
  cases set : v.isSet with
  | true => simp [set]
  | false => simp [blank]

/-! Two things asked for inside a value can be asked for apart. -/

private theorem isObject_and {more : Fields → Prop} :
    v.IsObject (fun fields => inside fields ∧ more fields) ↔
      v.IsObject inside ∧ v.IsObject more := by
  cases v <;> simp [IsObject]

@[simp] theorem isObject_const {p : Prop} : v.IsObject (fun _ => p) ↔ v.AnyObject ∧ p := by
  cases v <;> simp [IsObject, AnyObject]

@[simp] theorem isObject_and_const {p : Prop} :
    v.IsObject (fun fields => inside fields ∧ p) ↔ v.IsObject inside ∧ p := by
  cases v <;> simp [IsObject]

@[simp] theorem isObject_const_and {p : Prop} :
    v.IsObject (fun fields => p ∧ inside fields) ↔ p ∧ v.IsObject inside := by
  cases v <;> simp [IsObject]

theorem led_and {more : Json → Prop} :
    v.Led (fun item => shape item ∧ more item) ↔ v.Led shape ∧ v.Led more := by
  unfold Led
  split <;> simp

@[simp] theorem led_const_and {p : Prop} :
    v.Led (fun item => p ∧ shape item) ↔ p ∧ v.Led shape := by
  unfold Led
  split <;> simp

theorem led_object_and {more : Fields → Prop} :
    v.Led (IsObject fun fields => inside fields ∧ more fields) ↔
      v.Led (IsObject inside) ∧ v.Led (IsObject more) := by
  unfold Led
  split <;> simp [isObject_and]

/-- To ask twice what is inside is to ask once. -/
@[simp] theorem isObject_twice {both : Fields → Fields → Prop} :
    v.IsObject (fun outer => v.IsObject (both outer)) ↔
      v.IsObject fun fields => both fields fields := by
  cases v <;> rfl

theorem fieldOr_set {instead : Json} (set : (Provider.fieldOf fields key .null).isSet = true) :
    Provider.fieldOr fields key instead = Provider.fieldOf fields key .null := if_pos set

theorem fieldOr_blank {instead : Json} (blank : ¬ (Provider.fieldOf fields key .null).isSet = true) :
    Provider.fieldOr fields key instead = instead := if_neg blank

/-- The numbers under two keys can be added up; a missing one is zero. -/
def AddUp (key other : String) (fields : Fields) : Prop :=
  ∃ total, (Provider.fieldOf fields key (.int 0)).add (Provider.fieldOf fields other (.int 0)) =
    .ok total

theorem addUp_iff {other : String} : AddUp key other fields ↔
    ∃ total, (Provider.fieldOf fields key (.int 0)).add (Provider.fieldOf fields other (.int 0)) =
      .ok total := Iff.rfl

@[simp] theorem addUp_nil {other : String} : AddUp key other [] := ⟨_, rfl⟩

end Json

/-! ### Coming out well -/

namespace Fault

/-- What work on a value of the wrong shape ends in. -/
def IsStray (f : Fault) : Prop :=
  f = .of .noSuchField ∨ f = .of .illTyped ∨ f = .of .missingKey ∨ f = .of .outOfRange

theorem IsStray.not_modelWork {f : Fault} (stray : f.IsStray) : f.isA .modelWork = false := by
  rcases stray with rfl | rfl | rfl | rfl <;> rfl

end Fault

variable {α β : Type} {texts : β → List Json} {x : Except Fault α} {next : α → Except Fault β}

/-- The result holds texts where it declares them, or the failure is one of language-model work. -/
def Sound (texts : α → List Json) : Except Fault α → Prop :=
  Ends (fun f => f.isA .modelWork = true) fun a => ∀ v ∈ texts a, v.IsText

/-- Whatever fails here, fails on a value of the wrong shape. -/
abbrev Strays : Except Fault α → Prop := Limits Fault.IsStray

/-- Whatever fails here, fails in language-model work, on a value of the wrong shape or on a text that
is too deep. -/
abbrev Accounted : Except Fault α → Prop :=
  Limits fun f => f.isA .modelWork = true ∨ f.IsStray ∨ f = .of .tooDeep

@[simp] theorem sound_ok {b : β} : Sound texts (.ok b) ↔ ∀ v ∈ texts b, v.IsText := Iff.rfl

@[simp] theorem sound_pure {b : β} : Sound texts (pure b) ↔ ∀ v ∈ texts b, v.IsText := Iff.rfl

@[simp] theorem sound_error {f : Fault} : Sound texts (.error f) ↔ f.isA .modelWork = true := Iff.rfl

theorem Strays.not_modelWork {f : Fault} (strays : Strays (.error f : Except Fault α)) :
    f.isA .modelWork = false := Fault.IsStray.not_modelWork strays

theorem sound_iff {texts : α → List Json} (strays : Strays x) :
    Sound texts x ↔ ∃ a, x = .ok a ∧ ∀ v ∈ texts a, v.IsText := by
  cases x with
  | ok a => simp
  | error f => simp [strays.not_modelWork]

theorem sound_bind (strays : Strays x) :
    Sound texts (x >>= next) ↔ ∃ a, x = .ok a ∧ Sound texts (next a) := by
  cases x with
  | ok a => simp [bind, Except.bind]
  | error f => simp [bind, Except.bind, strays.not_modelWork]

theorem Strays.accounted (strays : Strays x) : Accounted x := strays.widen fun _ stray => .inr (.inl stray)

theorem accounted_unreadable (note : String) :
    Accounted (.error ⟨.unreadableReply, note⟩ : Except Fault α) := .inl rfl

theorem mapM_eq_ok {read : α → Except Fault β} {xs : List α} {ys : List β} :
    xs.mapM read = .ok ys ↔ List.Forall₂ (fun x y => read x = .ok y) xs ys := by
  induction xs generalizing ys with
  | nil =>
    rw [List.forall₂_nil_left_iff, List.mapM_nil]
    exact ⟨fun same => (Except.ok.inj same).symm, fun same => congrArg Except.ok same.symm⟩
  | cons x xs ih =>
    rw [List.forall₂_cons_left_iff, List.mapM_cons, bind_eq_ok]
    refine exists_congr fun y => ?_
    constructor
    · rintro ⟨first, later⟩
      obtain ⟨others, rest, same⟩ := bind_eq_ok.mp later
      exact ⟨others, first, ih.mp rest, (Except.ok.inj same).symm⟩
    · rintro ⟨others, first, rest, rfl⟩
      exact ⟨first, bind_eq_ok.mpr ⟨others, ih.mpr rest, rfl⟩⟩

/-- What is read of each of a list's items is good if every item is good to read. -/
theorem mapM_all {read : α → Except Fault β} {good : β → Prop} (items : List α) :
    (∃ values, items.mapM read = .ok values ∧ ∀ value ∈ values, good value) ↔
      ∀ item ∈ items, ∃ value, read item = .ok value ∧ good value := by
  induction items with
  | nil => simp [pure, Except.pure]
  | cons item rest ih =>
    rw [List.forall_mem_cons, ← ih, List.mapM_cons]
    cases read item with
    | error f => simp [bind, Except.bind]
    | ok value =>
      cases rest.mapM read with
      | error f => simp [bind, Except.bind]
      | ok values => simp [bind, Except.bind, pure, Except.pure]

theorem mapM_ok {read : α → Except Fault β} {items : List α} :
    (∃ values, items.mapM read = .ok values) ↔ ∀ item ∈ items, ∃ value, read item = .ok value := by
  have all : (∃ values, items.mapM read = .ok values ∧ ∀ value ∈ values, True) ↔ _ := mapM_all items
  simpa using all

/-! ### Operations on values -/

namespace Json

variable {v : Json} {key word : String} {missing : Json} {shape : Json → Prop}

private theorem isStray_noSuchField : (Fault.of .noSuchField).IsStray := .inl rfl

theorem isStray_illTyped : (Fault.of .illTyped).IsStray := .inr (.inl rfl)

private theorem isStray_missingKey : (Fault.of .missingKey).IsStray := .inr (.inr (.inl rfl))

private theorem isStray_outOfRange : (Fault.of .outOfRange).IsStray := .inr (.inr (.inr rfl))

theorem strays_field : Strays (v.field key missing) := by
  cases v with
  | obj fields => trivial
  | _ => exact isStray_noSuchField

theorem strays_asString : Strays v.asString := by
  cases v with
  | str s => trivial
  | _ => exact isStray_noSuchField

theorem strays_parts : Strays v.parts := by
  cases v with
  | arr items => trivial
  | str s => trivial
  | obj fields => trivial
  | _ => exact isStray_illTyped

theorem strays_mentions : Strays (v.mentions word) := by
  cases v with
  | arr items => trivial
  | str s => trivial
  | obj fields => trivial
  | _ => exact isStray_illTyped

theorem strays_front : Strays v.front := by
  match v with
  | .arr (_ :: _) | .str _ => trivial
  | .obj _ => exact isStray_missingKey
  | .null | .bool _ | .num _ | .arr [] => exact isStray_illTyped

theorem strays_joined : ∀ {items : List Json}, Strays (joined items)
  | [] => trivial
  | .str _ :: _ => strays_joined.map
  | .null :: _ | .bool _ :: _ | .num _ :: _ | .arr _ :: _ | .obj _ :: _ => isStray_illTyped

private theorem strays_toFloat {n : Int} : Strays (toFloat n) := by
  simp only [toFloat]
  split
  · exact isStray_outOfRange
  · trivial

theorem strays_add {w : Json} : Strays (v.add w) := by
  unfold add
  split
  · trivial
  · trivial
  · split
    · unfold addNumbers
      split
      · trivial
      · trivial
      · exact strays_toFloat.map.map
      · exact strays_toFloat.map.map
    · exact isStray_illTyped

mutual

theorem strays_less : ∀ {v w : Json}, Strays (less v w)
  | v, w => by
    unfold less
    split
    · trivial
    · exact strays_lessItems
    · split
      · trivial
      · exact isStray_illTyped

private theorem strays_lessItems : ∀ {vs ws : List Json}, Strays (lessItems vs ws)
  | _, [] => by
    unfold lessItems
    trivial
  | [], _ :: _ => trivial
  | v :: vs, w :: ws => by
    unfold lessItems
    split
    · exact strays_lessItems
    · exact strays_less

end

theorem asString_ok {good : String → Prop} :
    (∃ s, v.asString = .ok s ∧ good s) ↔ ∃ s, v = .str s ∧ good s := by
  cases v <;> simp [asString]

theorem field_ok {good : Json → Prop} :
    (∃ w, v.field key missing = .ok w ∧ good w) ↔
      v.IsObject fun fields => good (Provider.fieldOf fields key missing) := by
  cases v <;> simp [field, IsObject, Provider.fieldOf]

theorem strays_ofField {instead : Json} :
    Strays (do return (← v.field key missing).orElse instead : Except Fault Json) :=
  strays_field.bind fun _ => trivial

theorem ofField_ok {instead : Json} :
    (∃ value, (do return (← v.field key missing).orElse instead : Except Fault Json) = .ok value) ↔
      v.AnyObject := by
  cases v <;> simp [field, AnyObject, bind, Except.bind, pure, Except.pure]

theorem mentions_ok : (∃ found, v.mentions word = .ok found) ↔ ∃ items, v.parts = .ok items := by
  cases v <;> simp [mentions, parts]

/-- Only objects have fields. -/
theorem sound_field {next : Json → Except Fault β} :
    Sound texts (v.field key missing >>= next) ↔
      v.IsObject fun fields => Sound texts (next (Provider.fieldOf fields key missing)) := by
  rw [sound_bind strays_field]
  exact field_ok

theorem sound_front {next : Json → Except Fault β} (wordless : ∀ s, ¬ Sound texts (next (.str s))) :
    Sound texts (v.front >>= next) ↔ v.Led fun item => Sound texts (next item) := by
  rw [sound_bind strays_front]
  match v with
  | .arr (item :: rest) => simp [front, Led]
  | .str s => simp [front, Led, wordless]
  | .arr [] | .obj _ | .null | .bool _ | .num _ => simp [front, Led]

theorem joined_ok {items : List Json} : (∃ s, joined items = .ok s) ↔ ∀ item ∈ items, item.IsText := by
  induction items with
  | nil => simp [joined]
  | cons item rest ih =>
    cases item with
    | str s =>
      rw [List.forall_mem_cons, ← ih]
      cases later : joined rest with
      | ok t => simp [joined, later, Except.map]
      | error f => simp [joined, later, Except.map]
    | _ => simp [joined, IsText]

end Json

namespace Json

/-- Texts picked from the parts of a value run together where every part fits. -/
theorem joined_parts {v : Json} {fit : Json → Prop} {pick : Json → Option Json} {p : Prop}
    (picked : ∀ part, fit part ↔ ∀ text, pick part = some text → text.IsText) :
    (∃ items, v.parts = .ok items ∧ (∀ text ∈ items.filterMap pick, text.IsText) ∧ p) ↔
      v.Each fit ∧ p := by
  have each (items : List Json) :
      (∀ text ∈ items.filterMap pick, text.IsText) ↔ ∀ part ∈ items, fit part := by
    simp only [picked, List.mem_filterMap]
    exact ⟨fun h part member text found => h text ⟨part, member, found⟩,
      fun h text ⟨part, member, found⟩ => h part member text found⟩
  simp only [each, Each, exists_and_right, ← and_assoc]

/-- Something is read of each part of a value where every part fits. -/
theorem mapM_parts {v : Json} {fit : Json → Prop} {read : Json → Except Fault β} {good : β → Prop}
    (one : ∀ part, (∃ value, read part = .ok value ∧ good value) ↔ fit part) :
    (∃ items, v.parts = .ok items ∧ ∃ values, items.mapM read = .ok values ∧
      ∀ value ∈ values, good value) ↔ v.Each fit := by
  simp only [mapM_all, one, Each]

theorem sound_names {names : List (Option Json)} :
    Sound id (pure (names.filterMap id)) ↔ ∀ name? ∈ names, ∀ name ∈ name?, name.IsText := by
  simp only [sound_pure, id, List.mem_filterMap]
  exact ⟨fun h name? member name named => h name ⟨name?, member, named⟩,
    fun h name ⟨name?, member, named⟩ => h name? member name named⟩

end Json

/-! ### Bodies -/

/-- A body that is not too deep holds an object of a shape, if it holds an object. Any other body is
reported as unreadable. -/
structure Fits (shape : Json.Fields → Prop) (body : Text.Bytes) : Prop where
  shallow : Json.areTooDeep body = false
  held : ∀ fields, Json.readBytes? body = some (.obj fields) → shape fields

theorem fits_iff {shape : Json.Fields → Prop} {body : Text.Bytes} {fields : Json.Fields}
    (held : Json.readBytes? body = some (.obj fields)) : Fits shape body ↔ shape fields := by
  constructor
  · exact fun fits => fits.held fields held
  · refine fun fits => ⟨Json.areTooDeep_of_readBytes? held, fun other found => ?_⟩
    cases held.symm.trans found
    exact fits

/-- What becomes of the object that a body must hold. -/
inductive ObjectRead (what : String) (body : Text.Bytes) : Except Fault Json.Fields → Prop where
  | held {fields : Json.Fields} (held : Json.readBytes? body = some (.obj fields)) :
    ObjectRead what body (.ok fields)
  | unreadable {f : Fault} (known : f.isA .modelWork = true)
      (fits : ∀ shape : Json.Fields → Prop, Fits shape body) : ObjectRead what body (.error f)
  | tooDeep (deep : Json.areTooDeep body = true) : ObjectRead what body (.error (.of .tooDeep))

theorem objectRead (what : String) (body : Text.Bytes) :
    ObjectRead what body (Provider.readObject body what) := by
  unfold Provider.readObject
  cases held : Json.readBytes? body with
  | none =>
    dsimp only
    split
    · next deep => exact .tooDeep deep
    · next shallow =>
      refine .unreadable rfl fun _ => ⟨by simpa using shallow, fun fields found => ?_⟩
      cases held.symm.trans found
  | some v =>
    cases v with
    | obj fields => exact .held held
    | _ =>
      refine .unreadable rfl fun _ => ⟨Json.areTooDeep_of_readBytes? held, fun fields found => ?_⟩
      cases held.symm.trans found

/-- A reader of bodies that comes out well exactly on those of a shape. -/
structure Decodes (texts : β → List Json) (shape : Json.Fields → Prop)
    (read : Text.Bytes → Except Fault β) : Prop where
  sound : ∀ body, Sound texts (read body) ↔ Fits shape body
  accounted : ∀ body, Accounted (read body)

theorem decodes_object {shape : Json.Fields → Prop} {what : String}
    {next : Json.Fields → Except Fault β} (sound : ∀ fields, Sound texts (next fields) ↔ shape fields)
    (accounted : ∀ fields, Accounted (next fields)) :
    Decodes texts shape fun body => Provider.readObject body what >>= next := by
  constructor
  · intro body
    have read := objectRead what body
    generalize Provider.readObject body what = result at read ⊢
    cases read with
    | held held => exact (sound _).trans (fits_iff held).symm
    | unreadable known fits => exact iff_of_true known (fits shape)
    | tooDeep deep => exact iff_of_false nofun fun fits => by cases deep.symm.trans fits.shallow
  · intro body
    have read := objectRead what body
    generalize Provider.readObject body what = result at read ⊢
    cases read with
    | held held => exact accounted _
    | unreadable known => exact .inl known
    | tooDeep deep => exact .inr (.inr rfl)

end MemoAssist
