import MemoAssist.Proofs.Provider.Shape
import MemoAssist.Provider.Calls
import Mathlib.Tactic.Tauto

namespace MemoAssist

open Json

/-- What a completion declares as text: its content, and, if they are asked for, its labels. -/
def CompletionResponse.texts (labels : Bool) (r : CompletionResponse) : List Json :=
  r.content :: if labels then [r.model, r.finishReason] else []

/-- A label is a text, if anybody asks for it. -/
def Json.IsLabel (labels : Bool) (v : Json) : Prop := labels = true → v.IsText

variable {labels : Bool} {fields : Fields} {v : Json}

theorem forall_texts {r : CompletionResponse} :
    (∀ v ∈ r.texts labels, v.IsText) ↔
      r.content.IsText ∧ r.model.IsLabel labels ∧ r.finishReason.IsLabel labels := by
  cases labels <;> simp [CompletionResponse.texts, IsLabel]

@[simp] theorem isLabel_str {s : String} : (Json.str s).IsLabel labels := fun _ => isText_str

@[simp] theorem isLabel_fieldOf {key s : String} :
    (Provider.fieldOf fields key (.str s)).IsLabel labels ↔ Under key (IsLabel labels) fields :=
  under_iff isLabel_str

@[simp] theorem isLabel_orElse {s : String} :
    (v.orElse (.str s)).IsLabel labels ↔ OrBlank (IsLabel labels) v := by
  unfold IsLabel
  rw [isText_orElse]
  exact ⟨fun h set on => h on set, fun h on set => h set on⟩

namespace OpenAI

/-- What has to be true of the choice that is taken. -/
def ChoiceFits (labels : Bool) : Fields → Prop := fun choice =>
  Under "message" (OrBlank (IsObject (Under "content" (OrBlank IsText)))) choice ∧
    Under "finish_reason" (OrBlank (IsLabel labels)) choice

@[mk_iff] structure Completion (labels : Bool) (reply : Fields) : Prop where
  choice : (Provider.fieldOf reply "choices" .null).Led (IsObject (ChoiceFits labels))
  usage : Under "usage" (OrBlank AnyObject) reply
  model : Under "model" (IsLabel labels) reply

/-- A reply without choices is reported as such, whatever else is in it. -/
def CompletionFits (labels : Bool) (reply : Fields) : Prop :=
  (Provider.fieldOf reply "choices" .null).isSet = true → Completion labels reply

private theorem led_choiceFits : v.Led (IsObject (ChoiceFits labels)) ↔
    v.Led (IsObject (Under "message" (OrBlank (IsObject (Under "content" (OrBlank IsText)))))) ∧
      v.Led (IsObject (Under "finish_reason" (OrBlank (IsLabel labels)))) := led_object_and

theorem readUsage_ok : (∃ usage, readUsage v = .ok usage) ↔ OrBlank AnyObject v := by
  rw [← anyObject_orElse]
  unfold readUsage
  cases v.orElse (.obj []) <;> simp [field, AnyObject, bind, Except.bind, pure, Except.pure]

theorem strays_readUsage : Strays (readUsage v) :=
  strays_field.bind fun _ => strays_field.bind fun _ => strays_field.bind fun _ => trivial

theorem decodes_completion : Decodes (CompletionResponse.texts labels) (CompletionFits labels)
    readCompletion := by
  apply decodes_object
  · intro fields
    by_cases set : (Provider.fieldOf fields "choices" .null).isSet = true
    · simp only [CompletionFits, fieldOr_set set, set, if_true, true_implies]
      rw [sound_front (fun s => mt sound_field.mp id), completion_iff, led_choiceFits]
      simp only [sound_field, sound_bind strays_readUsage, sound_pure, forall_texts,
        exists_and_right, readUsage_ok]
      simp only [orBlank_fieldOf, isText_orElse, isLabel_fieldOf, isLabel_orElse, isObject_const_and,
        isObject_and_const, under_nil, isObject_orElse]
      rw [led_const_and, led_and, led_const_and]
      tauto
    · simp only [fieldOr_blank set]
      exact iff_of_true rfl fun on => absurd on set
  · intro fields
    dsimp only
    split
    · exact Strays.accounted (strays_front.bind fun _ => strays_field.bind fun _ => strays_field.bind fun _ =>
        strays_readUsage.bind fun _ => strays_field.bind fun _ => trivial)
    · exact accounted_unreadable _

end OpenAI

namespace Anthropic

/-- A block of text holds a text. -/
def BlockFits : Json → Prop :=
  IfObject fun block => find? "type" block = some (.str "text") → Under "text" IsText block

@[mk_iff] structure CompletionFits (labels : Bool) (reply : Fields) : Prop where
  content : Under "content" (OrBlank (Each BlockFits)) reply
  usage : Under "usage" (OrBlank (IsObject (AddUp "input_tokens" "output_tokens"))) reply
  model : Under "model" (IsLabel labels) reply
  reason : Under "stop_reason" (OrBlank (IsLabel labels)) reply

private theorem blockFits_iff (v : Json) :
    BlockFits v ↔ ∀ text, blockText? v = some text → text.IsText := by
  unfold BlockFits IfObject blockText?
  cases v with
  | obj block =>
    simp only
    split
    · rename_i marked
      simp [marked]
    · rename_i unmarked
      simpa using fun marked => absurd marked unmarked
  | _ => simp

theorem decodes_completion : Decodes (CompletionResponse.texts labels) (CompletionFits labels)
    readCompletion := by
  apply decodes_object
  · intro fields
    rw [completionFits_iff]
    simp only [Provider.fieldOr, sound_bind strays_parts, sound_bind strays_joined, sound_field,
      sound_bind strays_add, sound_pure, forall_texts, isText_str, true_and, exists_and_right,
      joined_ok, joined_parts blockFits_iff, isObject_twice, isObject_and_const, ← addUp_iff]
    simp only [each_orElse, orBlank_fieldOf, addUp_nil, isObject_orElse, isLabel_fieldOf,
      isLabel_orElse]
  · intro fields
    exact Strays.accounted (strays_parts.bind fun _ => strays_joined.bind fun _ => strays_field.bind fun _ =>
      strays_field.bind fun _ => strays_add.bind fun _ => trivial)

end Anthropic

namespace Gemini

/-- A part that is an object holds a text, if anything. -/
def PartFits : Json → Prop := IfObject (Under "text" IsText)

/-- What has to be true of the candidate that is taken. -/
def CandidateFits (labels : Bool) : Fields → Prop := fun candidate =>
  Under "content" (OrBlank (IsObject (Under "parts" (OrBlank (Each PartFits))))) candidate ∧
    Under "finishReason" (OrBlank (IsLabel labels)) candidate

@[mk_iff] structure Completion (labels : Bool) (reply : Fields) : Prop where
  candidate : (Provider.fieldOf reply "candidates" .null).Led (IsObject (CandidateFits labels))
  usage : Under "usageMetadata" (OrBlank AnyObject) reply
  model : Under "modelVersion" (OrBlank (IsLabel labels)) reply

/-- A reply without candidates is reported as such, whatever else is in it. -/
def CompletionFits (labels : Bool) (reply : Fields) : Prop :=
  (Provider.fieldOf reply "candidates" .null).isSet = true → Completion labels reply

private theorem partFits_iff (v : Json) : PartFits v ↔ ∀ text, partText? v = some text → text.IsText := by
  unfold PartFits IfObject partText?
  cases v <;> simp

private theorem led_candidateFits : v.Led (IsObject (CandidateFits labels)) ↔
    v.Led (IsObject
        (Under "content" (OrBlank (IsObject (Under "parts" (OrBlank (Each PartFits))))))) ∧
      v.Led (IsObject (Under "finishReason" (OrBlank (IsLabel labels)))) := led_object_and

theorem decodes_completion (model : String) :
    Decodes (CompletionResponse.texts labels) (CompletionFits labels) (readCompletion model) := by
  apply decodes_object
  · intro fields
    by_cases set : (Provider.fieldOf fields "candidates" .null).isSet = true
    · simp only [CompletionFits, fieldOr_set set, set, if_true, true_implies]
      rw [sound_front (fun s => mt sound_field.mp id), completion_iff, led_candidateFits]
      simp only [Provider.fieldOr, sound_bind strays_parts, sound_bind strays_joined, sound_field,
        sound_pure, forall_texts, isText_str, true_and, exists_and_right,
        joined_ok, joined_parts partFits_iff, isObject_twice]
      simp only [each_orElse, orBlank_fieldOf, isLabel_orElse, isObject_const_and, isObject_const,
        anyObject_orElse, isObject_and_const, under_nil, isObject_orElse]
      rw [led_and, led_const_and, led_const_and]
      tauto
    · simp only [fieldOr_blank set]
      exact iff_of_true rfl fun on => absurd on set
  · intro fields
    dsimp only
    split
    · exact Strays.accounted (strays_front.bind fun _ => strays_field.bind fun _ => strays_field.bind fun _ =>
        strays_parts.bind fun _ => strays_joined.bind fun _ => strays_field.bind fun _ =>
        strays_field.bind fun _ => strays_field.bind fun _ => strays_field.bind fun _ =>
        trivial)
    · exact accounted_unreadable _

end Gemini

namespace Ollama

@[mk_iff] structure CompletionFits (labels : Bool) (reply : Fields) : Prop where
  message : Under "message" (OrBlank (IsObject (Under "content" IsText))) reply
  usage : AddUp "prompt_eval_count" "eval_count" reply
  model : Under "model" (IsLabel labels) reply
  reason : Under "done_reason" (OrBlank (IsLabel labels)) reply

theorem decodes_completion :
    Decodes (CompletionResponse.texts labels) (CompletionFits labels) readCompletion := by
  apply decodes_object
  · intro fields
    rw [completionFits_iff]
    simp only [Provider.fieldOr, sound_field, sound_bind strays_add, sound_pure, forall_texts,
      exists_and_right, ← addUp_iff]
    simp only [isText_fieldOf, isLabel_fieldOf, isLabel_orElse, orBlank_fieldOf, isObject_const_and,
      isObject_and_const, under_nil, isObject_orElse]
    exact and_left_comm
  · intro fields
    exact Strays.accounted (strays_field.bind fun _ => strays_add.bind fun _ => trivial)

end Ollama

end MemoAssist
