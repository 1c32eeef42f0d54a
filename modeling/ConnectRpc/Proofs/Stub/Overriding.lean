import ConnectRpc.Proofs.Schema.Reading
import ConnectRpc.Proofs.Stub.Members
import ConnectRpc.Stub.ClientUnit

/-!
# What a class takes over from the runtime

A generated class is derived from the runtime's client class, so a member of the same name replaces
the one it inherits, and with it what the runtime's own functions call. Reserved names prevent this
for the members that are meant to be used from outside, and signals have endings that no member has.
They do not prevent it for the members behind those: a method whose snake form is the name of one
takes it over (`serviceView_overrides`, and `run_overridden` for an example). Only the initialiser
can be hit in another way. Its name ends in underscores, so methods that ask for the same name with
fewer of them may be moved on to it when they are many enough.

All private names begin with an underscore, so nothing is taken over where no method's name does.
-/

namespace ConnectRpc.Stub

open Schema

/-! ## The runtime's class -/

/-- The members of the runtime's client class that are meant to be used from outside. -/
def publicMembers : List String :=
  ["default_base_url", "error_occurred", "config", "transport", "base_url", "get_base_url",
   "set_base_url", "call_unary_get", "call_unary_post", "call_streaming"]

/-- The members behind them, those that instances are given included. -/
def privateMembers : List String :=
  ["__init__", "_transport", "_config", "_encode", "_method_url", "_unary", "_stream_buffered",
   "_stream_incremental", "_deliver", "_run", "_report"]

/-- The members of the runtime's client class. -/
def clientMembers : List String := publicMembers ++ privateMembers

theorem mem_reservedNames_of_mem_publicMembers {member : String} (h : member ∈ publicMembers) :
    member ∈ reservedNames := by
  have hall : ∀ member ∈ publicMembers, member ∈ reservedNames := by decide
  exact hall member h

theorem not_isSignalLike_of_mem_clientMembers {member : String} (h : member ∈ clientMembers) :
    isSignalLike member = false := by
  have hall : ∀ member ∈ clientMembers, isSignalLike member = false := by decide +kernel
  exact hall member h

theorem head?_of_mem_privateMembers {member : String} (h : member ∈ privateMembers) :
    member.toList.head? = some '_' := by
  have hall : ∀ member ∈ privateMembers, member.toList.head? = some '_' := by decide +kernel
  exact hall member h

/-- A name for which nothing is reserved: no name to avoid, no escaped form of one, no signal. -/
structure Unguarded (name : String) : Prop where
  notAvoided : name ∉ avoided
  notEscaped : ∀ word ∈ avoided, underscored word 1 ≠ name
  noSignal : isSignalLike name = false

theorem unguarded_of_mem_privateMembers {name : String}
    (h : name ∈ "__init" :: "__init_" :: privateMembers) : Unguarded name := by
  have hall : ∀ name ∈ "__init" :: "__init_" :: privateMembers, name ∉ avoided ∧
      (∀ word ∈ avoided, underscored word 1 ≠ name) ∧ isSignalLike name = false := by
    decide +kernel
  obtain ⟨hnot, hescaped, hlike⟩ := hall name h
  exact ⟨hnot, hescaped, hlike⟩

/-! ## Stubs of unguarded names -/

section

variable {methods : List Method}

/-- Neither a signal nor the list of reserved names keeps a stub from an unguarded name. -/
theorem Unguarded.not_taken {name : String} (h : Unguarded name) (methods : List Method) :
    name ∉ (claimedSignals (methods.map MethodView.of)).reverse ++ reservedNames := by
  rw [List.mem_append, List.mem_reverse, not_or]
  exact ⟨not_mem_claimedSignals methods h.noSignal,
    fun hreserved => h.notAvoided (List.mem_append_right _ hreserved)⟩

/-- The stubs that ask for an unguarded name are those of the methods with that snake form. -/
theorem Unguarded.count_identifier {name : String} (h : Unguarded name) :
    (methods.map fun m => identifier m.name).count name =
      (methods.map fun m => snakeCase m.name).count name := by
  rw [List.count_eq_countP, List.count_eq_countP, List.countP_map, List.countP_map]
  refine List.countP_congr fun m _ => ?_
  simp only [Function.comp_apply, beq_iff_eq]
  exact identifier_eq_iff h.notAvoided h.notEscaped

/-- An unguarded name without underscores at its end goes to a stub exactly if a method has that
snake form. -/
theorem Unguarded.mem_claimedStubs_iff {name : String} (h : Unguarded name)
    (hends : endsInUnderscore name = false) :
    name ∈ claimedStubs (methods.map MethodView.of) ↔
      name ∈ methods.map fun m => snakeCase m.name := by
  have hfree := h.not_taken methods
  rw [← underscored_zero name] at hfree ⊢
  rw [claimedStubs_of, mem_claimAll_iff hends hfree, demand, h.count_identifier,
    List.count_pos_iff, underscored_zero]

/-- The snake forms leave so many stubs asking for the initialiser's name with fewer underscores
that one of them is moved on to that name. -/
def CrowdsInitialiser (snakes : List String) : Prop :=
  2 ≤ snakes.count "__init_" ∨
    (1 ≤ snakes.count "__init" ∧ 3 ≤ snakes.count "__init" + snakes.count "__init_")

theorem initialiser_mem_claimedStubs_iff :
    "__init__" ∈ claimedStubs (methods.map MethodView.of) ↔
      "__init__" ∈ (methods.map fun m => snakeCase m.name) ∨
        CrowdsInitialiser (methods.map fun m => snakeCase m.name) := by
  have hnone : Unguarded "__init" := unguarded_of_mem_privateMembers (by decide)
  have hone : Unguarded "__init_" := unguarded_of_mem_privateMembers (by decide)
  have htwo : Unguarded "__init__" := unguarded_of_mem_privateMembers (by decide)
  have hplace : underscored "__init" 1 = "__init_" := by decide
  have hgoal : underscored "__init" 2 = "__init__" := by decide
  have hends : endsInUnderscore "__init" = false := by decide +kernel
  have hfree := htwo.not_taken methods
  rw [← hgoal] at hfree
  rw [← hgoal, claimedStubs_of, mem_claimAll_iff hends hfree]
  simp only [demand, underscored_zero, Nat.reduceAdd, hplace, hgoal, hnone.not_taken,
    hone.not_taken, if_false, hnone.count_identifier, hone.count_identifier,
    htwo.count_identifier]
  rw [CrowdsInitialiser, ← List.count_pos_iff]
  omega

end

/-! ## What is taken over -/

/-- The first character of a snake form is an underscore only if that of the name is. -/
theorem head?_of_head?_snakeCase {name : String}
    (h : (snakeCase name).toList.head? = some '_') : name.toList.head? = some '_' := by
  rw [snakeCase, String.toList_ofList] at h
  cases hname : name.toList with
  | nil => simp [hname, snakeChars] at h
  | cons c rest =>
    rw [hname, snakeChars_cons, List.head?_cons, Option.some_inj] at h
    rw [List.head?_cons, small_eq_underscore h]

theorem mem_privateMembers_of_mem_clientMembers {member : String} (h : member ∈ clientMembers)
    (hpublic : member ∉ publicMembers) : member ∈ privateMembers :=
  (List.mem_append.mp h).resolve_left hpublic

section

variable {methods : List Method} {member : String}

theorem mem_claimedStubs_iff_of_mem_privateMembers (h : member ∈ privateMembers) :
    member ∈ claimedStubs (methods.map MethodView.of) ↔
      member ∈ (methods.map fun m => snakeCase m.name) ∨
        (member = "__init__" ∧ CrowdsInitialiser (methods.map fun m => snakeCase m.name)) := by
  by_cases hinit : member = "__init__"
  · subst hinit
    rw [initialiser_mem_claimedStubs_iff]
    simp only [true_and]
  · have hends : ∀ member ∈ privateMembers, member ≠ "__init__" →
        endsInUnderscore member = false := by decide +kernel
    have hfree : Unguarded member :=
      unguarded_of_mem_privateMembers (List.mem_cons_of_mem _ (List.mem_cons_of_mem _ h))
    rw [hfree.mem_claimedStubs_iff (hends member h hinit)]
    simp only [hinit, false_and, or_false]

/-- A private member is replaced only where some method's name begins with an underscore. -/
theorem exists_of_mem_privateMembers (h : member ∈ privateMembers)
    (hstub : member ∈ claimedStubs (methods.map MethodView.of)) :
    ∃ m ∈ methods, m.name.toList.head? = some '_' := by
  have hsnake : ∃ name ∈ methods.map fun m => snakeCase m.name,
      name.toList.head? = some '_' := by
    rcases (mem_claimedStubs_iff_of_mem_privateMembers h).mp hstub with
      hmem | ⟨-, hcrowd | ⟨hcrowd, -⟩⟩
    · exact ⟨member, hmem, head?_of_mem_privateMembers h⟩
    · exact ⟨"__init_", List.count_pos_iff.mp (by omega), by decide +kernel⟩
    · exact ⟨"__init", List.count_pos_iff.mp (by omega), by decide +kernel⟩
  obtain ⟨name, hname, hhead⟩ := hsnake
  obtain ⟨m, hm, rfl⟩ := List.mem_map.mp hname
  exact ⟨m, hm, head?_of_head?_snakeCase hhead⟩

end

/-- **What a generated class takes over.** Its signals replace no member of the runtime's class, and
its stubs none that is meant to be used from outside. A member behind those is replaced by a stub
exactly if the snake form of a method is its name, or, for the initialiser, if methods crowd it. So
nothing is replaced where no method's name begins with an underscore. -/
theorem serviceView_overrides (package : String) (s : Service) :
    let signals := (ServiceView.of package s).methods.map MethodView.signalName
    let stubs := (ServiceView.of package s).methods.map MethodView.stubName
    let snakes := s.methods.map fun m => snakeCase m.name
    (∀ name ∈ signals, name ∉ clientMembers) ∧
    (∀ name ∈ stubs, name ∉ publicMembers) ∧
    (∀ member ∈ privateMembers, member ∈ stubs ↔
      member ∈ snakes ∨ (member = "__init__" ∧ CrowdsInitialiser snakes)) ∧
    ((∀ m ∈ s.methods, m.name.toList.head? ≠ some '_') →
      ∀ name ∈ signals ++ stubs, name ∉ clientMembers) := by
  intro signals stubs snakes
  have hsignalsEq : signals = claimedSignals (s.methods.map MethodView.of) :=
    map_signalName_claimNames _
  have hstubsEq : stubs = claimedStubs (s.methods.map MethodView.of) :=
    map_stubName_claimNames _
  have hsignals : ∀ name ∈ signals, name ∉ clientMembers := by
    intro name hname hmember
    rw [hsignalsEq] at hname
    exact not_mem_claimedSignals s.methods (not_isSignalLike_of_mem_clientMembers hmember) hname
  have hstubs : ∀ name ∈ stubs, name ∉ publicMembers := fun name hname hmember =>
    ((claimNames_keptApart s.methods).free name (List.mem_append_right _ hname)).1
      (mem_reservedNames_of_mem_publicMembers hmember)
  refine ⟨hsignals, hstubs, fun member hmember => ?_, fun hplain name hname hmember => ?_⟩
  · rw [hstubsEq]
    exact mem_claimedStubs_iff_of_mem_privateMembers hmember
  · rcases List.mem_append.mp hname with hname | hname
    · exact hsignals name hname hmember
    · have hprivate := mem_privateMembers_of_mem_clientMembers hmember (hstubs name hname)
      rw [hstubsEq] at hname
      obtain ⟨m, hm, hhead⟩ := exists_of_mem_privateMembers hprivate hname
      exact hplain m hm hhead

/-- A schema document whose one method is called `_run`: the document is read, and the stub of the
method replaces what all entry points of the runtime's class end in. -/
theorem run_overridden :
    let document : DocumentTree String := .object [("files", .list [.object [
      ("name", .text "jobs.proto"), ("services", .list [.object [
        ("name", .text "Jobs"), ("methods", .list [.object [
          ("name", .text "_run"), ("input_type", .text "Job"),
          ("output_type", .text "Report")]])]])]])]
    ∃ service, readSchema document = .ok [⟨"jobs.proto", "", [service]⟩] ∧
      ∃ name ∈ (ServiceView.of "" service).methods.map MethodView.stubName,
        name ∈ clientMembers := by
  intro document
  refine ⟨⟨"Jobs", [⟨"_run", "Job", "Report", false, false, [], []⟩]⟩, ?_, "_run", ?_, ?_⟩
  · decide +kernel
  · decide +kernel
  · decide +kernel

end ConnectRpc.Stub
