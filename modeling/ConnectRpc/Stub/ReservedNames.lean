/-!
# Names that are taken

Three lists of names that generated code cannot use freely: the keywords of the generated language,
the names that a stub's body relies on, and the names that a unit imports.
-/

namespace ConnectRpc.Stub

/-- The keywords of the generated language. -/
def keywords : List String :=
  ["False", "None", "True", "and", "as", "assert", "async", "await", "break", "class", "continue",
   "def", "del", "elif", "else", "except", "finally", "for", "from", "global", "if", "import", "in",
   "is", "lambda", "nonlocal", "not", "or", "pass", "raise", "return", "try", "while", "with",
   "yield"]

/-- Names that a stub's body, or the class it stands in, relies on. -/
def reservedNames : List String :=
  ["self", "list", "timeout", "cancel", "request_data", "base_url", "config", "transport",
   "error_occurred", "get_base_url", "set_base_url", "call_unary_get", "call_unary_post",
   "call_streaming", "default_base_url"]

/-- Names that every unit imports. -/
def importedNames : List String :=
  ["annotations", "Any", "Sequence", "TypedDict", "CallResult", "CancelToken", "ConnectClient",
   "signal"]

end ConnectRpc.Stub
