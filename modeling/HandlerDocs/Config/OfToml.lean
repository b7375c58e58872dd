import HandlerDocs.Config.Basic
import HandlerDocs.Toml.Assignments

/-!
# Configurations as text

A configuration is written as TOML assignments of its options; options that are left out keep their
defaults. Unknown options and values of the wrong kind are refused.

* `Config.ofText` — reads and checks a configuration.
* `Config.isValid_of_ofText`, `Config.isValid_of_ofFile` — what is read is valid.
-/

namespace HandlerDocs.Config

open Toml

/-- The texts of an array of strings. -/
def texts? (items : List Value) : Option (List String) :=
  items.mapM fun
    | .text s => some s
    | _ => none

/-- The configuration with one option set. -/
def set? (config : Config) (option : String) (value : Value) : Option Config :=
  match option, value with
  | "client_name", .text s => some { config with clientName := s }
  | "content_type", .text s => some { config with contentType := s }
  | "document_identifier", .text s => some { config with documentIdentifier := some s }
  | "response_wrappers", .array items =>
    (texts? items).map fun names => { config with responseWrappers := names }
  | "page_wrappers", .array items =>
    (texts? items).map fun names => { config with pageWrappers := names }
  | "max_depth", .integer (.ofNat n) => some { config with maxDepth := n }
  | "skip_static_fields", .truth b => some { config with skipStaticFields := b }
  | _, _ => none

/-- The configuration with several options set. -/
def setAll? (config : Config) (assignments : List (String × Value)) : Option Config :=
  assignments.foldlM (fun config a => config.set? a.1 a.2) config

/-- Refuses a configuration with a fault. -/
def check (config : Config) : Except ConfigError Config :=
  match config.fault? with
  | some fault => .error (.invalid fault)
  | none => .ok config

/-- Reads and checks a configuration. -/
def ofText (text : String) : Except ConfigError Config :=
  match (readAssignments? text).bind (setAll? {}) with
  | none => .error .malformed
  | some config => config.check

/-- Reads and checks the configuration in a file, given the content of the file if it can be
read. -/
def ofFile (content : Option String) : Except ConfigError Config :=
  match content with
  | none => .error .unreadable
  | some text => ofText text

/-- A configuration that passes the check is valid. -/
theorem isValid_of_check {config checked : Config} (h : config.check = .ok checked) :
    checked.IsValid := by
  unfold check at h
  split at h
  · exact absurd h (by simp)
  · rename_i hf
    have : config = checked := by simpa using h
    exact this ▸ hf

/-- A configuration that was read is valid. -/
theorem isValid_of_ofText {text : String} {config : Config} (h : ofText text = .ok config) :
    config.IsValid := by
  unfold ofText at h
  split at h
  · exact absurd h (by simp)
  · exact isValid_of_check h

/-- A configuration that was read from a file is valid. -/
theorem isValid_of_ofFile {content : Option String} {config : Config}
    (h : ofFile content = .ok config) : config.IsValid := by
  cases content with
  | none => exact absurd h (by simp [ofFile])
  | some text => exact isValid_of_ofText h

end HandlerDocs.Config
