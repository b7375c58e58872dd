import HandlerDocs.Text.Basic

/-!
# Configuration

A `Config` holds the options of documentation. Every option has a default, so that the empty
configuration is a valid one.

* `Config.fault?` — the first reason for which a configuration is refused.
* `Config.isResponseWrapper`, `Config.isPageWrapper` — the generic types that are peeled off a
  return type.
-/

namespace HandlerDocs

/-- The options of documentation. -/
structure Config where
  /-- The variable of a snippet that performs the request. -/
  clientName : String := "mockMvc"
  /-- The expression for the content type of a request body. -/
  contentType : String := "MediaType.APPLICATION_JSON"
  /-- The identifier of the documentation; the default is made from the name of the handler. -/
  documentIdentifier : Option String := none
  /-- The types that stand for their first argument. -/
  responseWrappers : List String := ["ResponseEntity"]
  /-- The types that stand for a collection of their first argument. -/
  pageWrappers : List String := ["Page", "Slice"]
  /-- How many classes may be nested. -/
  maxDepth : Nat := 32
  /-- Whether fields of classes are left out, so that only fields of objects are documented. -/
  skipStaticFields : Bool := true
  deriving DecidableEq, Repr

/-- Why the values of a configuration are refused. -/
inductive ConfigFault
  | clientName (name : String)
  | contentType
  | maxDepth
  | wrapperName (name : String)
  deriving DecidableEq, Repr

/-- The wording of a fault. -/
def ConfigFault.message : ConfigFault → String
  | clientName name =>
    "Configuration error: client_name '" ++ name ++ "' is not a valid identifier"
  | contentType => "Configuration error: content_type cannot be empty"
  | maxDepth => "Configuration error: max_depth must be at least 1"
  | wrapperName name => "Configuration error: invalid wrapper name '" ++ name ++ "'"

/-- Why no configuration was made from a file. -/
inductive ConfigError
  /-- The file cannot be read. -/
  | unreadable
  /-- The text is no table of options. -/
  | malformed
  /-- A value is refused. -/
  | invalid (fault : ConfigFault)
  deriving DecidableEq, Repr

/-- The wording of an error that has one. -/
def ConfigError.message? : ConfigError → Option String
  | invalid fault => some fault.message
  | _ => none

namespace Config

/-! ### Validity -/

/-- Whether a text is an identifier of ASCII letters, digits, `_` and `$`. -/
def isPlainIdentifier (s : String) : Bool :=
  match s.toList with
  | [] => false
  | c :: rest =>
    (c.isAlpha || c == '_' || c == '$') &&
      rest.all fun c => c.isAlphanum || c == '_' || c == '$'

/-- The first fault of a configuration, in the order of its options. -/
def fault? (config : Config) : Option ConfigFault :=
  if !isPlainIdentifier config.clientName then some (.clientName config.clientName)
  else if isBlankText config.contentType then some .contentType
  else if config.maxDepth = 0 then some .maxDepth
  else ((config.responseWrappers ++ config.pageWrappers).find? isBlankText).map .wrapperName

/-- Whether the values of a configuration are accepted. -/
def IsValid (config : Config) : Prop :=
  config.fault? = none

instance (config : Config) : Decidable config.IsValid :=
  inferInstanceAs (Decidable (config.fault? = none))

/-- The default configuration is valid. -/
theorem isValid_default : IsValid {} := by
  decide

/-! ### Wrappers -/

/-- Whether a type name is one of the names of a list, in full or by its simple name. -/
def isNamedIn (names : List String) (typeName : String) : Bool :=
  names.any fun name => name == typeName || simpleName name == simpleName typeName

/-- Whether a type stands for its first argument. -/
def isResponseWrapper (config : Config) (typeName : String) : Bool :=
  isNamedIn config.responseWrappers typeName

/-- Whether a type stands for a collection of its first argument. -/
def isPageWrapper (config : Config) (typeName : String) : Bool :=
  isNamedIn config.pageWrappers typeName

end Config

end HandlerDocs
