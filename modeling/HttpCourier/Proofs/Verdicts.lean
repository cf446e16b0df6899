import HttpCourier.Config.Reading
import HttpCourier.Trigger

/-!
# Accepted configurations

What is known of the parts of configuration data that was accepted: one inversion for each way to
build a verdict. A processor can work under every configuration that was accepted, unless the Basic
credentials in it cannot be encoded (`ofConfig_cases`).
-/

namespace HttpCourier.Config

namespace Verdict

variable {α β : Type}

/-- Both parts of accepted data were accepted. -/
theorem accepted_of_both {f : Verdict (α → β)} {a : Verdict α} {b : β}
    (h : f.both a = .accepted b) : ∃ g x, f = .accepted g ∧ a = .accepted x ∧ g x = b := by
  cases f with
  | accepted g =>
    cases a with
    | accepted x => exact ⟨g, x, rfl, rfl, accepted.inj h⟩
    | rejected | broken => cases h
  | rejected => cases a <;> cases h
  | broken => cases h

/-- What is accepted of two parts is accepted of each. -/
theorem accepted_of_seq {f : Verdict (α → β)} {a : Verdict α} {b : β}
    (h : f <*> a = .accepted b) : ∃ g x, f = .accepted g ∧ a = .accepted x ∧ g x = b :=
  accepted_of_both h

/-- A changed value is accepted when the value is. -/
theorem accepted_of_map {f : α → β} {a : Verdict α} {b : β} (h : f <$> a = .accepted b) :
    ∃ x, a = .accepted x ∧ f x = b := by
  cases a with
  | accepted x => exact ⟨x, rfl, accepted.inj h⟩
  | rejected | broken => cases h

/-- What passed a check was accepted before. -/
theorem accepted_of_andThen {a : Verdict α} {check : α → Verdict β} {b : β}
    (h : a.andThen check = .accepted b) : ∃ x, a = .accepted x ∧ check x = .accepted b := by
  cases a with
  | accepted x => exact ⟨x, rfl, h⟩
  | rejected | broken => cases h

/-- What is accepted under a key is accepted. -/
theorem accepted_of_under {key : String} {a : Verdict α} {x : α}
    (h : a.under key = .accepted x) : a = .accepted x := by
  cases a with
  | accepted => exact h
  | rejected | broken => cases h

/-- What is accepted with issues beside it had none. -/
theorem accepted_of_withIssues {a : Verdict α} {more : List Issue} {x : α}
    (h : a.withIssues more = .accepted x) : a = .accepted x := by
  cases a with
  | accepted =>
    cases more with
    | nil => exact h
    | cons => cases h
  | rejected | broken => cases h

end Verdict

/-- Data whose issues are replaced is not accepted. -/
theorem Verdict.replacedBy_ne_accepted {α : Type} {a : Verdict α} {issues : List Issue} {x : α} :
    a.replacedBy issues ≠ .accepted x := by
  cases a <;> nofun

open Verdict

variable {α : Type} {x : α} {d : Data}

/-- The fields of an accepted section were accepted. -/
theorem accepted_of_readSection {model : String} {names : List String}
    {fields : Entries → Verdict α} (h : readSection model names fields d = .accepted x) :
    ∃ entries, fields entries = .accepted x := by
  unfold readSection at h
  split at h
  case h_1 entries =>
    split at h
    case isTrue => exact absurd h replacedBy_ne_accepted
    case isFalse => exact ⟨entries, accepted_of_withIssues h⟩
  case h_2 => cases h

/-- A needed field is accepted with a value only. -/
theorem accepted_of_needed {name : String} {read : Data → Verdict α} {entries : Entries}
    (h : needed name read entries = .accepted x) : ∃ d, read d = .accepted x := by
  unfold needed at h
  split at h
  case h_1 => cases h
  case h_2 d _ => exact ⟨d, accepted_of_under h⟩

/-- A field is accepted with a value, or with its default. -/
theorem accepted_of_field {name : String} {default : α} {read : Data → Verdict α}
    {entries : Entries} (h : field name default read entries = .accepted x) :
    x = default ∨ ∃ d, read d = .accepted x := by
  unfold field at h
  split at h
  case h_1 => exact .inl (accepted.inj h).symm
  case h_2 d _ => exact .inr ⟨d, accepted_of_under h⟩

/-- The pattern of an accepted text can be read. -/
theorem exists_pattern_of_readPattern {text : String}
    (h : readPattern d = .accepted (some text)) : ∃ pattern, Pattern.read text = .ok pattern := by
  obtain ⟨s, -, h⟩ := accepted_of_andThen h
  split at h
  case h_1 => cases h
  case h_2 trimmed _ =>
    split at h
    case h_1 pattern hp =>
      obtain rfl : trimmed = text := Option.some.inj (accepted.inj h)
      exact ⟨pattern, hp⟩
    case h_2 => split at h <;> cases h

/-- The pattern of attributes in an accepted request can be read. -/
theorem exists_pattern_of_readRequest {request : Request} {text : String}
    (h : readRequest d = .accepted request) (ht : request.attributesToSend = some text) :
    ∃ pattern, Pattern.read text = .ok pattern := by
  obtain ⟨entries, h8⟩ := accepted_of_readSection h
  obtain ⟨_, headers, h7, -, rfl⟩ := accepted_of_seq h8
  obtain ⟨_, pattern, h6, hpattern, rfl⟩ := accepted_of_seq h7
  obtain ⟨_, dateField, h5, -, rfl⟩ := accepted_of_seq h6
  obtain ⟨_, chunked, h4, -, rfl⟩ := accepted_of_seq h5
  obtain ⟨_, sendBody, h3, -, rfl⟩ := accepted_of_seq h4
  obtain ⟨_, contentType, h2, -, rfl⟩ := accepted_of_seq h3
  obtain ⟨_, url, h1, -, rfl⟩ := accepted_of_seq h2
  obtain ⟨method, -, rfl⟩ := accepted_of_map h1
  obtain rfl : pattern = some text := ht
  rcases accepted_of_field hpattern with hnone | ⟨d, hd⟩
  · cases hnone
  · exact exists_pattern_of_readPattern hd

/-- The request of an accepted configuration was accepted. -/
theorem exists_request_of_read {config : Config} (h : read d = .accepted config) :
    ∃ d, readRequest d = .accepted config.request := by
  obtain ⟨entries, h7⟩ := accepted_of_readSection h
  obtain ⟨_, penalizes, h6, -, rfl⟩ := accepted_of_seq h7
  obtain ⟨_, adds, h5, -, rfl⟩ := accepted_of_seq h6
  obtain ⟨_, outputs, h4, -, rfl⟩ := accepted_of_seq h5
  obtain ⟨_, length, h3, -, rfl⟩ := accepted_of_seq h4
  obtain ⟨_, bodyAttribute, h2, -, rfl⟩ := accepted_of_seq h3
  obtain ⟨_, transport, h1, -, rfl⟩ := accepted_of_seq h2
  obtain ⟨request, hrequest, rfl⟩ := accepted_of_map h1
  exact accepted_of_needed hrequest

/-- The pattern of an accepted configuration can be had. -/
theorem patternOf_of_read {config : Config} (h : read d = .accepted config) :
    ∃ pattern, Assembler.patternOf config.request = .ok pattern := by
  obtain ⟨d, hrequest⟩ := exists_request_of_read h
  unfold Assembler.patternOf
  split
  case h_1 => exact ⟨_, rfl⟩
  case h_2 text ht =>
    obtain ⟨pattern, hp⟩ := exists_pattern_of_readRequest hrequest ht
    exact ⟨some pattern, by rw [hp]; rfl⟩

/-- A configuration that was accepted describes a duty, but for a header field that cannot be
encoded. -/
theorem ofConfig_of_read {config : Config} (h : read d = .accepted config) :
    ∃ duty : Option String → Duty, Duty.ofConfig config
      = (config.transport.auth.basicField.mapError Fault.notUtf8).map duty := by
  obtain ⟨pattern, hp⟩ := patternOf_of_read h
  refine ⟨fun basicField =>
    { config, assembler := { config := config.request, basicField, pattern } }, ?_⟩
  rw [Duty.ofConfig, Assembler.ofConfig, hp]
  cases config.transport.auth.basicField <;> rfl

/-- A configuration that was accepted describes a duty exactly when its header field can be
encoded. -/
theorem ofConfig_cases {config : Config} (h : read d = .accepted config) :
    (∃ field duty, config.transport.auth.basicField = .ok field ∧ Duty.ofConfig config = .ok duty) ∨
      ∃ e, config.transport.auth.basicField = .error e ∧ Duty.ofConfig config = .error (.notUtf8 e) := by
  obtain ⟨duty, hduty⟩ := ofConfig_of_read h
  cases hb : config.transport.auth.basicField with
  | ok field => exact .inl ⟨field, duty field, rfl, by rw [hduty, hb]; rfl⟩
  | error e => exact .inr ⟨e, rfl, by rw [hduty, hb]; rfl⟩

end HttpCourier.Config
