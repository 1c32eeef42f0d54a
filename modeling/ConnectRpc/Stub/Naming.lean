import ConnectRpc.Stub.ReservedNames
import ConnectRpc.Text.Capitals
import ConnectRpc.Text.DigitChars
import ConnectRpc.Text.WordChars

/-!
# Names in generated code

How declared names become names of the generated code. Only the twenty-six ASCII capitals count as
capitals of a declared name.

* `snakeCase`: an underscore before every capital but a leading one, and all in lower case.
* `identifier`: the snake case, with an underscore after it if it is a keyword or reserved.
* `moduleName`: every character that is no word character replaced by an underscore.
* `typeName`: the module name, with an underscore after it if a unit imports it.
-/

namespace ConnectRpc.Stub

/-- The character is an ASCII capital. -/
def isCapital (c : Char) : Bool := 'A' ≤ c && c ≤ 'Z'

/-- The small letter of an ASCII capital, any other character itself. -/
def small (c : Char) : Char := if isCapital c then Char.ofNat (c.toNat + 0x20) else c

theorem toNat_of_isCapital {c : Char} (h : isCapital c = true) :
    65 ≤ c.toNat ∧ c.toNat ≤ 90 := by
  simp only [isCapital, Bool.and_eq_true, decide_eq_true_eq, Char.le_def,
    UInt32.le_iff_toNat_le] at h
  exact h

theorem toNat_small_of_isCapital {c : Char} (h : isCapital c = true) :
    (small c).toNat = c.toNat + 0x20 := by
  have hrange := toNat_of_isCapital h
  have hvalid : (c.toNat + 0x20).isValidChar := .inl (by omega)
  rw [small, if_pos h, Char.ofNat, dif_pos hvalid]
  rfl

theorem small_eq_underscore {c : Char} (h : small c = '_') : c = '_' := by
  by_cases hcapital : isCapital c = true
  · have hrange := toNat_of_isCapital hcapital
    have hsmall := toNat_small_of_isCapital hcapital
    rw [h] at hsmall
    have hcode : '_'.toNat = 95 := rfl
    omega
  · simpa [small, hcapital] using h

/-- The snake case of characters that are not the first. -/
def snakeTail (cs : List Char) : List Char :=
  cs.flatMap fun c => if isCapital c then ['_', small c] else [c]

/-- The snake case of a name's characters. -/
def snakeChars : List Char → List Char
  | [] => []
  | c :: rest => small c :: snakeTail rest

/-- An underscore before every capital but a leading one, and all in lower case. -/
def snakeCase (name : String) : String := String.ofList (snakeChars name.toList)

/-- The name of a member or a parameter. -/
def identifier (name : String) : String :=
  let snake := snakeCase name
  if snake ∈ keywords ∨ snake ∈ reservedNames then snake ++ "_" else snake

/-- The characters of a name with everything that is no word character replaced. -/
def wordsOnly (cs : List Char) : List Char := cs.map fun c => if Text.isWordChar c then c else '_'

/-- An underscore goes before nothing at all and before a leading digit. -/
def guardFirst (cs : List Char) : List Char :=
  match cs with
  | [] => ['_']
  | c :: _ => if Text.isDigitChar c then '_' :: cs else cs

/-- A name for one part of an output path. -/
def moduleName (name : String) : String :=
  let cleaned := String.ofList (guardFirst (wordsOnly name.toList))
  if cleaned ∈ keywords then cleaned ++ "_" else cleaned

/-- The name of the shape of a message type. -/
def typeName (name : String) : String :=
  let cleaned := moduleName name
  if cleaned ∈ importedNames then cleaned ++ "_" else cleaned

/-- The name of the class of a service. -/
def className (service : String) : String := Text.capitalise service ++ "Client"

theorem snakeChars_cons (c : Char) (rest : List Char) :
    snakeChars (c :: rest) = small c :: snakeTail rest := rfl

theorem snakeTail_append (first second : List Char) :
    snakeTail (first ++ second) = snakeTail first ++ snakeTail second := by
  simp [snakeTail]

end ConnectRpc.Stub
