import ConnectRpc.Text.Blank
import ConnectRpc.Text.IdentifierChars
import ConnectRpc.Text.Pieces
import ConnectRpc.Text.Quoted

/-!
# Generation profiles

How units are named and which base URL is baked into them. A profile's module name is an identifier,
and its suffix can follow the first letter of one; both facts are part of the type.

* `Profile.make`: a profile from its three settings.
* `Profile.ofParameter`: a profile from the text `key=value,key=value`. Items are separated by
  commas, blank ones count for nothing, blanks around items, keys and values are dropped, the first
  equals sign of an item ends its key, and of several items with one key the last counts.
-/

namespace ConnectRpc.Stub

open Text

/-- How units are named and which base URL they carry. -/
structure Profile where
  /-- What follows the stem of a schema file in its unit's name. -/
  clientSuffix : String
  /-- The module of the runtime that all units share. -/
  runtimeModule : String
  /-- The base URL of generated clients, if they are to have one. -/
  baseUrl : Option String
  runtimeModule_isIdentifier : isIdentifier runtimeModule = true
  clientSuffix_isIdentifier : isIdentifier ("x" ++ clientSuffix) = true

theorem Profile.isIdentifierContinue_of_mem_clientSuffix (p : Profile) :
    ∀ c ∈ p.clientSuffix.toList, isIdentifierContinue c = true := by
  intro c hc
  refine isIdentifierContinue_of_mem p.clientSuffix_isIdentifier c ?_
  rw [String.toList_append]
  exact List.mem_append_right _ hc

/-- Why there is no profile. -/
inductive ProfileError where
  | badRuntimeModule (name : String)
  | badClientSuffix (suffix : String)
  | noValue (item : String)
  | unknownKey (key : String)
  deriving DecidableEq, Repr

/-- The wording of an error. -/
def ProfileError.message : ProfileError → String
  | .badRuntimeModule name => "runtime_module must be a Python identifier: " ++ quote name
  | .badClientSuffix suffix => "client_suffix must be usable in a module name: " ++ quote suffix
  | .noValue item => "Plugin option must be key=value: " ++ quote item
  | .unknownKey key => "Unknown plugin option: " ++ quote key

/-- The three settings before they are checked. -/
structure Settings where
  clientSuffix : String
  runtimeModule : String
  baseUrl : Option String
  deriving DecidableEq, Repr

/-- The settings that hold where nothing is said. -/
def Settings.default : Settings := ⟨"_connect", "connect_runtime", none⟩

/-- A profile from its settings; the module name is checked first. -/
def Profile.make (s : Settings) : Except ProfileError Profile :=
  if hm : isIdentifier s.runtimeModule = true then
    if hs : isIdentifier ("x" ++ s.clientSuffix) = true then
      .ok ⟨s.clientSuffix, s.runtimeModule, s.baseUrl, hm, hs⟩
    else .error (.badClientSuffix s.clientSuffix)
  else .error (.badRuntimeModule s.runtimeModule)

/-- The settings of a profile. -/
def Profile.settings (p : Profile) : Settings := ⟨p.clientSuffix, p.runtimeModule, p.baseUrl⟩

theorem Profile.make_settings (p : Profile) : Profile.make p.settings = .ok p := by
  simp [Profile.make, Profile.settings, p.runtimeModule_isIdentifier,
    p.clientSuffix_isIdentifier]

/-- Sets the setting that a key names. -/
def Settings.put? (s : Settings) (key value : String) : Option Settings :=
  if key = "client_suffix" then some { s with clientSuffix := value }
  else if key = "runtime_module" then some { s with runtimeModule := value }
  else if key = "base_url" then some { s with baseUrl := some value }
  else none

/-- The settings after one item of a parameter. -/
def Settings.item (s : Settings) (item : List Char) : Except ProfileError Settings :=
  let trimmed := trim item
  if trimmed.isEmpty then .ok s
  else
    match cutAt '=' trimmed with
    | (_, none) => .error (.noValue (String.ofList trimmed))
    | (key, some value) =>
      let key := String.ofList (trim key)
      match s.put? key (String.ofList (trim value)) with
      | some s' => .ok s'
      | none => .error (.unknownKey key)

/-- A profile from a parameter. -/
def Profile.ofParameter (parameter : String) : Except ProfileError Profile :=
  ((pieces ',' parameter.toList).foldlM Settings.item .default).bind Profile.make

end ConnectRpc.Stub
