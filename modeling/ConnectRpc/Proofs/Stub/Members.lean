import ConnectRpc.Proofs.Stub.Identifiers
import ConnectRpc.Text.Blank

/-!
# Members of a client class

A class has a signal and a stub for each of its methods, all in one namespace. They are kept apart
by claiming: all signals claim their names first, then all stubs, each from the names that nothing
before it has taken and that are not reserved (`claimNames_keptApart`). Whatever the methods are
called, no two members have one name, none has a reserved name or a keyword, and nothing else about
the methods changes. Where the snake forms of the methods differ, every signal has the plain name; a
stub may still have to give way to the signal of another method.

That a signal is never a keyword, and never reserved to begin with, is seen from its ending
(`isSignalLike`), which underscores do not hide.
-/

namespace ConnectRpc.Stub

open Schema Text

/-! ## Names of signals -/

/-- What the name of a signal ends in, but for underscores. -/
def signalEndings : List String := ["_response", "_event"]

/-- The text has the ending of a signal's name, perhaps with underscores after it. -/
def isSignalLike (s : String) : Bool :=
  signalEndings.any fun ending => ending.toList.isSuffixOf (dropTrailing (· == '_') s.toList)

theorem signalSuffix_of (m : Method) :
    (Travel.of m).signalSuffix = if m.isStreaming then "_event" else "_response" := by
  unfold Travel.of
  split
  · rfl
  · split <;> rfl

theorem signalSuffix_mem_signalEndings (m : Method) :
    (Travel.of m).signalSuffix ∈ signalEndings := by
  rw [signalSuffix_of]
  split <;> decide

theorem isSignalLike_underscored (front : String) {ending : String} (h : ending ∈ signalEndings)
    (n : Nat) : isSignalLike (underscored (front ++ ending) n) = true := by
  rw [isSignalLike, List.any_eq_true]
  refine ⟨ending, h, ?_⟩
  rw [List.isSuffixOf_iff_suffix, toList_underscored,
    dropTrailing_append_replicate (p := (· == '_')) (by decide), String.toList_append]
  have hlast : ∃ init last, ending.toList = init ++ [last] ∧ (last == '_') = false := by
    rcases List.mem_pair.mp h with rfl | rfl
    · exact ⟨"_respons".toList, 'e', by decide, by decide⟩
    · exact ⟨"_even".toList, 't', by decide, by decide⟩
  obtain ⟨init, last, hchars, hplain⟩ := hlast
  rw [hchars, ← List.append_assoc, dropTrailing_concat_of_not (p := (· == '_')) hplain,
    List.append_assoc]
  exact List.suffix_append _ _

theorem not_isSignalLike_of_mem_avoided {name : String} (h : name ∈ avoided) :
    isSignalLike name = false := by
  have hall : ∀ name ∈ avoided, isSignalLike name = false := by decide +kernel
  exact hall name h

/-- The two endings cannot be mistaken for each other, so what stands before them is determined. -/
theorem eq_of_append_signalEnding {a b ending ending' : String} (h : ending ∈ signalEndings)
    (h' : ending' ∈ signalEndings) (heq : a ++ ending = b ++ ending') : a = b := by
  have hlast : (a ++ ending).toList.getLast? = (b ++ ending').toList.getLast? := by rw [heq]
  rcases List.mem_pair.mp h with rfl | rfl
  · rcases List.mem_pair.mp h' with rfl | rfl
    · exact (String.append_left_inj _).mp heq
    · simp at hlast
  · rcases List.mem_pair.mp h' with rfl | rfl
    · simp at hlast
    · exact (String.append_left_inj _).mp heq

/-! ## The class -/

/-- The names that the signals of a class get. -/
def claimedSignals (views : List MethodView) : List String :=
  claimAll reservedNames (views.map MethodView.signalName)

/-- The names that the stubs of a class get. -/
def claimedStubs (views : List MethodView) : List String :=
  claimAll ((claimedSignals views).reverse ++ reservedNames) (views.map MethodView.stubName)

/-- What a stub's lines name apart from its two members. -/
def MethodView.unnamed (v : MethodView) : MethodView := { v with stubName := "", signalName := "" }

section

variable (views : List MethodView)

theorem length_claimedSignals : (claimedSignals views).length = views.length :=
  (claimAll_claimedInTurn _ _).length_eq.trans (List.length_map _)

theorem length_claimedStubs : (claimedStubs views).length = views.length :=
  (claimAll_claimedInTurn _ _).length_eq.trans (List.length_map _)

/-- What the views of a class show is put together from the views before and the two names. -/
theorem map_claimNames {α : Type} (f : MethodView → α) :
    (claimNames views).map f =
      (views.zip ((claimedSignals views).zip (claimedStubs views))).map fun (view, names) =>
        f { view with signalName := names.1, stubName := names.2 } := by
  rw [claimNames, List.map_map]
  rfl

theorem map_signalName_claimNames :
    (claimNames views).map MethodView.signalName = claimedSignals views := by
  have hviews := length_claimedSignals views
  have hstubs := length_claimedStubs views
  rw [map_claimNames]
  change (views.zip _).map (Prod.fst ∘ Prod.snd) = _
  rw [← List.map_map, List.map_snd_zip (by simp [hviews, hstubs]),
    List.map_fst_zip (Nat.le_of_eq (hviews.trans hstubs.symm))]

theorem map_stubName_claimNames :
    (claimNames views).map MethodView.stubName = claimedStubs views := by
  have hviews := length_claimedSignals views
  have hstubs := length_claimedStubs views
  rw [map_claimNames]
  change (views.zip _).map (Prod.snd ∘ Prod.snd) = _
  rw [← List.map_map, List.map_snd_zip (by simp [hviews, hstubs]),
    List.map_snd_zip (Nat.le_of_eq (hstubs.trans hviews.symm))]

theorem map_unnamed_claimNames :
    (claimNames views).map MethodView.unnamed = views.map MethodView.unnamed := by
  rw [map_claimNames]
  change (views.zip _).map (MethodView.unnamed ∘ Prod.fst) = _
  rw [← List.map_map,
    List.map_fst_zip (by simp [length_claimedSignals views, length_claimedStubs views])]

/-- The view is another with underscores after the names of its two members. -/
def Renamed (v w : MethodView) : Prop :=
  ∃ m n, w = { v with
    signalName := underscored v.signalName m, stubName := underscored v.stubName n }

theorem forall₂_renamed_claimNames : List.Forall₂ Renamed views (claimNames views) := by
  have hunnamed : List.Forall₂ (fun v w => v = w) (views.map MethodView.unnamed)
      ((claimNames views).map MethodView.unnamed) := by
    rw [map_unnamed_claimNames, List.forall₂_eq_eq_eq]
  have hsignals := (claimAll_claimedInTurn reservedNames
    (views.map MethodView.signalName)).forall₂_underscored
  have hstubs := (claimAll_claimedInTurn ((claimedSignals views).reverse ++ reservedNames)
    (views.map MethodView.stubName)).forall₂_underscored
  rw [← claimedSignals, ← map_signalName_claimNames] at hsignals
  rw [← claimedStubs, ← map_stubName_claimNames] at hstubs
  rw [List.forall₂_map_left_iff, List.forall₂_map_right_iff] at hunnamed hsignals hstubs
  rw [List.forall₂_iff_zip] at hunnamed hsignals hstubs ⊢
  refine ⟨hunnamed.1, fun {v w} h => ?_⟩
  obtain ⟨m, hm⟩ := hsignals.2 h
  obtain ⟨n, hn⟩ := hstubs.2 h
  refine ⟨m, n, ?_⟩
  rw [← hm, ← hn]
  exact (congrArg (fun u : MethodView => { u with
    signalName := w.signalName, stubName := w.stubName }) (hunnamed.2 h)).symm

end

/-! ## The members of methods -/

/-- The name that the signal of a method asks for. -/
def signalBase (m : Method) : String :=
  snakeCase m.name ++ if m.isStreaming then "_event" else "_response"

theorem signalBase_eq (m : Method) :
    signalBase m = snakeCase m.name ++ (Travel.of m).signalSuffix := by
  rw [signalBase, signalSuffix_of]

theorem isSignalLike_signalBase (m : Method) (n : Nat) :
    isSignalLike (underscored (signalBase m) n) = true := by
  rw [signalBase_eq]
  exact isSignalLike_underscored _ (signalSuffix_mem_signalEndings m) n

theorem underscored_signalBase_not_mem_avoided (m : Method) (n : Nat) :
    underscored (signalBase m) n ∉ avoided := by
  intro h
  have hlike := isSignalLike_signalBase m n
  rw [not_isSignalLike_of_mem_avoided h] at hlike
  cases hlike

theorem signalBase_not_mem_reservedNames (m : Method) : signalBase m ∉ reservedNames := by
  have hnot := underscored_signalBase_not_mem_avoided m 0
  rw [underscored_zero] at hnot
  exact fun h => hnot (List.mem_append_right _ h)

section

variable (methods : List Method)

theorem claimedSignals_of :
    claimedSignals (methods.map MethodView.of) =
      claimAll reservedNames (methods.map signalBase) := by
  rw [claimedSignals, List.map_map]
  exact congrArg _ (List.map_congr_left fun m _ => (signalBase_eq m).symm)

/-- A signal's name keeps its ending, so no name without one is a signal's. -/
theorem not_mem_claimedSignals {name : String} (h : isSignalLike name = false) :
    name ∉ claimedSignals (methods.map MethodView.of) := by
  intro hmem
  rw [claimedSignals_of] at hmem
  obtain ⟨base, hbase, n, rfl⟩ := (claimAll_claimedInTurn _ _).exists_underscored name hmem
  obtain ⟨m, -, rfl⟩ := List.mem_map.mp hbase
  rw [isSignalLike_signalBase] at h
  cases h

theorem claimedStubs_of :
    claimedStubs (methods.map MethodView.of) =
      claimAll ((claimedSignals (methods.map MethodView.of)).reverse ++ reservedNames)
        (methods.map fun m => identifier m.name) := by
  rw [claimedStubs, List.map_map]
  rfl

/-- Signals and stubs of a class claim their names in one row. -/
theorem claimNames_claimedInTurn :
    ClaimedInTurn reservedNames (methods.map signalBase ++ methods.map fun m => identifier m.name)
      (claimedSignals (methods.map MethodView.of) ++ claimedStubs (methods.map MethodView.of)) := by
  refine .append ?_ ?_
  · rw [claimedSignals_of]
    exact claimAll_claimedInTurn _ _
  · rw [claimedStubs_of]
    exact claimAll_claimedInTurn _ _

variable {methods}

/-- No member has a keyword for its name: a signal shows by its ending, and a stub asks for an
identifier. -/
theorem not_mem_keywords_of_underscored {name : String} {n : Nat}
    (h : name ∈ methods.map signalBase ++ methods.map fun m => identifier m.name) :
    underscored name n ∉ keywords := by
  intro hkeyword
  have havoided : underscored name n ∈ avoided := List.mem_append_left _ hkeyword
  rcases List.mem_append.mp h with h | h
  · obtain ⟨m, -, rfl⟩ := List.mem_map.mp h
    exact underscored_signalBase_not_mem_avoided m n havoided
  · obtain ⟨m, -, rfl⟩ := List.mem_map.mp h
    cases n with
    | zero =>
      rw [underscored_zero] at havoided
      exact identifier_not_mem_avoided _ havoided
    | succ n => exact underscored_succ_not_mem_avoided _ n havoided

/-- Signals of different snake forms ask for different names. -/
theorem nodup_signalBase (h : (methods.map fun m => snakeCase m.name).Nodup) :
    (methods.map signalBase).Nodup := by
  rw [List.Nodup, List.pairwise_map] at h ⊢
  refine h.imp fun {m m'} hne heq => hne ?_
  rw [signalBase_eq, signalBase_eq] at heq
  exact eq_of_append_signalEnding (signalSuffix_mem_signalEndings m)
    (signalSuffix_mem_signalEndings m') heq

end

/-- The members of the class of methods are kept apart. -/
structure KeptApart (methods : List Method) (views : List MethodView) : Prop where
  /-- The views are those of the methods, in their order, but for the two names. -/
  kept : views.map MethodView.unnamed = methods.map fun m => (MethodView.of m).unnamed
  /-- Each name is the one asked for with the fewest underscores that keep it from the reserved
  names and from those claimed before it; the signals claim theirs first. -/
  claimed : ClaimedInTurn reservedNames
    (methods.map signalBase ++ methods.map fun m => identifier m.name)
    (views.map MethodView.signalName ++ views.map MethodView.stubName)
  distinct : (views.map MethodView.signalName ++ views.map MethodView.stubName).Nodup
  free : ∀ name ∈ views.map MethodView.signalName ++ views.map MethodView.stubName,
    name ∉ reservedNames ∧ name ∉ keywords
  /-- Methods of different snake forms have signals of the names asked for. -/
  plain : (methods.map fun m => snakeCase m.name).Nodup →
    views.map MethodView.signalName = methods.map signalBase

/-- **The members of a class are kept apart**, whatever its methods are called. -/
theorem claimNames_keptApart (methods : List Method) :
    KeptApart methods (claimNames (methods.map MethodView.of)) := by
  have hsignals := map_signalName_claimNames (methods.map MethodView.of)
  have hstubs := map_stubName_claimNames (methods.map MethodView.of)
  have hclaimed := claimNames_claimedInTurn methods
  rw [← hsignals, ← hstubs] at hclaimed
  refine ⟨?_, hclaimed, hclaimed.nodup, fun name hname => ⟨?_, ?_⟩, fun hsnakes => ?_⟩
  · rw [map_unnamed_claimNames, List.map_map]
    rfl
  · exact hclaimed.not_mem_taken name hname
  · obtain ⟨base, hbase, n, rfl⟩ := hclaimed.exists_underscored name hname
    exact not_mem_keywords_of_underscored hbase
  · rw [hsignals, claimedSignals_of]
    refine (claimAll_claimedInTurn _ _).eq_self (nodup_signalBase hsnakes) fun name hname => ?_
    obtain ⟨m, -, rfl⟩ := List.mem_map.mp hname
    exact signalBase_not_mem_reservedNames m

end ConnectRpc.Stub
