import ConnectRpc.Descriptor.Resolution
import Mathlib.Data.List.Nodup

/-!
# The index of messages

A message is known by the names that lead to it from the package: those of the messages around it
and its own. `messagePaths` lists the messages of a file with their paths by going down into each of
them, and `leads_iff` says that these are all: a path leads to a message exactly if it is in the
list.

The index is made by a stack. Each step takes a message off and puts those inside it on, so the
entries that a stack still owes are those of its messages with everything below them (`owed`): one
step pays one of them (`owed_step`), and a whole run pays all (`entriesOf_perm`). The names that
travel with the messages on the stack are those of their paths, so the index holds one entry for
each message at each depth and nothing else (`indexOf_perm`), under full and local names that can be
read off the path (`foldl_nameIn`, `foldl_localName`).

Where no two messages have one full name, finding an entry is therefore finding a path
(`find?_indexOf_iff`), and the order of the files does not matter.
-/

namespace ConnectRpc.Descriptor

/-! ## Paths -/

/-- Among messages that stand side by side, the names of the path lead to the message, each of them
one level deeper. -/
inductive Leads : List MessageDecl → List String → MessageDecl → Prop where
  | here {messages : List MessageDecl} {m : MessageDecl} (mem : m ∈ messages) :
    Leads messages [m.name] m
  | inside {messages : List MessageDecl} {outer m : MessageDecl} {path : List String}
    (mem : outer ∈ messages) (below : Leads outer.nested path m) :
    Leads messages (outer.name :: path) m

/-- The messages that stand side by side and those inside them, in the order in which they are
written, each with the path that leads to it. -/
def messagePaths : List MessageDecl → List (List String × MessageDecl)
  | [] => []
  | ⟨name, fields, nested, isMapEntry⟩ :: rest =>
    ([name], ⟨name, fields, nested, isMapEntry⟩) ::
      (messagePaths nested).map (fun found => (name :: found.1, found.2)) ++ messagePaths rest

theorem messagePaths_cons (m : MessageDecl) (rest : List MessageDecl) :
    messagePaths (m :: rest) =
      ([m.name], m) :: (messagePaths m.nested).map (fun found => (m.name :: found.1, found.2)) ++
        messagePaths rest := by
  cases m
  rw [messagePaths]

theorem messagePaths_eq_flatMap (messages : List MessageDecl) :
    messagePaths messages = messages.flatMap fun m => messagePaths [m] := by
  induction messages with
  | nil => rw [messagePaths, List.flatMap_nil]
  | cons m rest ih =>
    rw [List.flatMap_cons, ← ih, messagePaths_cons, messagePaths_cons]
    simp [messagePaths]

theorem Leads.path_ne_nil {messages : List MessageDecl} {path : List String} {m : MessageDecl}
    (h : Leads messages path m) : path ≠ [] := by
  cases h <;> simp

theorem Leads.of_subset {messages more : List MessageDecl} {path : List String} {m : MessageDecl}
    (h : Leads messages path m) (hsub : messages ⊆ more) : Leads more path m := by
  cases h with
  | here mem => exact .here (hsub mem)
  | inside mem below => exact .inside (hsub mem) below

/-- The list of the paths is complete, and it lists nothing else. -/
theorem leads_iff {messages : List MessageDecl} {path : List String} {m : MessageDecl} :
    Leads messages path m ↔ (path, m) ∈ messagePaths messages := by
  constructor
  · intro h
    induction h with
    | here mem =>
      rw [messagePaths_eq_flatMap, List.mem_flatMap]
      refine ⟨_, mem, ?_⟩
      rw [messagePaths_cons]
      exact List.mem_cons_self
    | inside mem below ih =>
      rw [messagePaths_eq_flatMap, List.mem_flatMap]
      refine ⟨_, mem, ?_⟩
      rw [messagePaths_cons]
      exact List.mem_append_left _ (List.mem_cons_of_mem _ (List.mem_map.mpr ⟨_, ih, rfl⟩))
  · intro h
    induction messages using messagePaths.induct generalizing path m with
    | case1 => simp [messagePaths] at h
    | case2 name fields nested isMapEntry rest ihNested ihRest =>
      rw [messagePaths, List.cons_append, List.mem_cons, List.mem_append, List.mem_map] at h
      rcases h with h | ⟨found, hfound, h⟩ | h
      · cases h
        exact .here List.mem_cons_self
      · cases h
        exact .inside List.mem_cons_self (ihNested hfound)
      · exact (ihRest h).of_subset (List.subset_cons_self _ _)

/-! ## The stack -/

/-- The entry of the message at the end of a path that starts in a scope, inside a message. -/
def entryOf (language scope outer : String) (found : List String × MessageDecl) : Entry where
  fullName := found.1.foldl nameIn scope
  localName := found.1.foldl localName outer
  message := found.2
  language

/-- The entries that a message on the stack stands for: its own and those of all messages below
it. -/
def Waiting.owed (language : String) (w : Waiting) : List Entry :=
  (messagePaths [w.message]).map (entryOf language w.scope w.outer)

/-- A step pays the first entry that is owed, and leaves the others to the messages that it puts on
the stack. -/
theorem owed_step (language : String) (w : Waiting) :
    w.owed language = w.entry language :: w.inner.flatMap (Waiting.owed language) := by
  have hbelow : w.inner.flatMap (Waiting.owed language) =
      (messagePaths w.message.nested).map (entryOf language w.fullName w.localName) := by
    rw [messagePaths_eq_flatMap, List.map_flatMap, Waiting.inner, List.flatMap_map]
    rfl
  rw [hbelow, Waiting.owed, messagePaths_cons, messagePaths, List.append_nil, List.map_cons,
    List.map_map]
  rfl

/-- A run pays what the stack owes, in some order. -/
theorem entriesOf_perm (language : String) (stack : List Waiting) :
    (entriesOf language stack).Perm (stack.flatMap (Waiting.owed language)) := by
  induction stack using entriesOf.induct with
  | case1 => rw [entriesOf, List.flatMap_nil]
  | case2 w rest ih =>
    rw [entriesOf, List.flatMap_cons, owed_step, List.cons_append]
    refine (ih.trans ?_).cons _
    rw [List.flatMap_append]
    exact (w.inner.reverse_perm.flatMap_right _).append_right _

/-- The entry of the message that a path leads to in a file. -/
def FileDecl.entryAt (file : FileDecl) : List String × MessageDecl → Entry :=
  entryOf file.writtenIn (scopeOf file.package) ""

theorem entries_perm (file : FileDecl) :
    file.entries.Perm ((messagePaths file.messages).map file.entryAt) := by
  refine (entriesOf_perm _ _).trans ((List.reverse_perm _).flatMap_right _ |>.trans ?_)
  rw [messagePaths_eq_flatMap, List.map_flatMap, FileDecl.outermost, List.flatMap_map]
  exact .refl _

/-- The entries of all messages of files, file by file. -/
def allEntries (files : List FileDecl) : List Entry :=
  files.flatMap fun file => (messagePaths file.messages).map file.entryAt

/-- **The index holds one entry for every message** of the files, at every depth. -/
theorem indexOf_perm (files : List FileDecl) : (indexOf files).Perm (allEntries files) := by
  induction files with
  | nil => exact .refl _
  | cons file rest ih => exact (entries_perm file).append ih

/-! ## Names -/

/-- The full name of the message that a path leads to in a package. -/
def fullNameOf (package : String) (path : List String) : String :=
  "." ++ Text.joinText "." (if package = "" then path else package :: path)

/-- The local name of the message that a path leads to. -/
def localNameOf (path : List String) : String := Text.joinText "_" path

/-- Names that are appended one after the other are joined by points. -/
theorem foldl_nameIn (scope : String) {path : List String} (h : path ≠ []) :
    path.foldl nameIn scope = scope ++ "." ++ Text.joinText "." path := by
  induction path generalizing scope with
  | nil => exact absurd rfl h
  | cons name more ih =>
    rw [List.foldl_cons]
    by_cases hmore : more = []
    · subst hmore
      rfl
    · rw [ih _ hmore, Text.joinText_cons hmore, nameIn]
      simp only [String.append_assoc]

theorem foldl_nameIn_scopeOf (package : String) {path : List String} (h : path ≠ []) :
    path.foldl nameIn (scopeOf package) = fullNameOf package path := by
  rw [foldl_nameIn _ h, scopeOf, fullNameOf]
  split
  · simp
  · rw [Text.joinText_cons h]
    simp only [String.append_assoc]

/-- Local names that are not empty are joined by underscores. -/
theorem foldl_localName {outer : String} {path : List String} (houter : outer ≠ "")
    (hpath : path ≠ []) :
    path.foldl localName outer = outer ++ "_" ++ Text.joinText "_" path := by
  induction path generalizing outer with
  | nil => exact absurd rfl hpath
  | cons name more ih =>
    have hinner : localName outer name = outer ++ "_" ++ name := by rw [localName, if_neg houter]
    rw [List.foldl_cons, hinner]
    by_cases hmore : more = []
    · subst hmore
      rfl
    · have hne : outer ++ "_" ++ name ≠ "" := by simp
      rw [ih hne hmore, Text.joinText_cons hmore]
      simp only [String.append_assoc]

theorem foldl_localName_empty {path : List String} (h : ∀ name ∈ path, name ≠ "") :
    path.foldl localName "" = localNameOf path := by
  cases path with
  | nil => rfl
  | cons name more =>
    have hname : localName "" name = name := by rw [localName, if_pos rfl]
    rw [List.foldl_cons, hname, localNameOf]
    by_cases hmore : more = []
    · subst hmore
      rfl
    · rw [foldl_localName (h name List.mem_cons_self) hmore, Text.joinText_cons hmore]

/-- The full names of all messages of files. -/
def messageNames (files : List FileDecl) : List String :=
  files.flatMap fun file => (messagePaths file.messages).map fun found =>
    fullNameOf file.package found.1

/-- The name is the full name of a message of the files, at any depth. -/
def IsMessageName (files : List FileDecl) (name : String) : Prop :=
  ∃ file ∈ files, ∃ path m, Leads file.messages path m ∧ name = fullNameOf file.package path

theorem mem_messageNames_iff {files : List FileDecl} {name : String} :
    name ∈ messageNames files ↔ IsMessageName files name := by
  simp only [messageNames, IsMessageName, List.mem_flatMap, List.mem_map, Prod.exists, leads_iff]
  grind

theorem fullName_entryAt {file : FileDecl} {found : List String × MessageDecl}
    (h : found ∈ messagePaths file.messages) :
    (file.entryAt found).fullName = fullNameOf file.package found.1 :=
  foldl_nameIn_scopeOf _ (leads_iff.mpr h).path_ne_nil

theorem map_fullName_allEntries (files : List FileDecl) :
    (allEntries files).map Entry.fullName = messageNames files := by
  rw [allEntries, messageNames, List.map_flatMap]
  refine List.flatMap_congr fun file _ => ?_
  rw [List.map_map]
  exact List.map_congr_left fun found hfound => fullName_entryAt hfound

/-- The names on the way to a message are those of messages. -/
theorem Leads.forall_mem_path {messages : List MessageDecl} {path : List String} {m : MessageDecl}
    (h : Leads messages path m) {p : String → Prop}
    (hnames : ∀ path' m', Leads messages path' m' → p m'.name) : ∀ name ∈ path, p name := by
  induction h with
  | here mem => simpa using hnames _ _ (.here mem)
  | inside mem below ih =>
    rw [List.forall_mem_cons]
    exact ⟨hnames _ _ (.here mem), ih fun path' m' h' => hnames _ _ (.inside mem h')⟩

/-! ## Finding -/

/-- Where no two items have one key, the item that is found under a key is the item of that key. -/
theorem find?_key_iff {α : Type} {key : α → String} {items : List α}
    (h : (items.map key).Nodup) {k : String} {a : α} :
    items.find? (key · == k) = some a ↔ a ∈ items ∧ key a = k := by
  constructor
  · intro hfind
    exact ⟨List.mem_of_find?_eq_some hfind, by simpa using List.find?_some hfind⟩
  · rintro ⟨hmem, rfl⟩
    have hfound : (items.find? (key · == key a)).isSome := by
      rw [List.find?_isSome]
      exact ⟨a, hmem, by simp⟩
    obtain ⟨b, hb⟩ := Option.isSome_iff_exists.mp hfound
    have hkey : key b = key a := by simpa using List.find?_some hb
    rw [hb, List.inj_on_of_nodup_map h (List.mem_of_find?_eq_some hb) hmem hkey]

/-- Then it is also the last one of its key. -/
theorem find?_reverse_eq {α : Type} {key : α → String} {items : List α}
    (h : (items.map key).Nodup) (k : String) :
    items.reverse.find? (key · == k) = items.find? (key · == k) := by
  have hreverse : (items.reverse.map key).Nodup := by rwa [List.map_reverse, List.nodup_reverse]
  refine Option.ext fun a => ?_
  rw [find?_key_iff h, find?_key_iff hreverse, List.mem_reverse]

/-- There is an entry under a name exactly if a path of that name leads to a message. -/
theorem find?_indexOf_isSome_iff {files : List FileDecl} {name : String} :
    (find? (indexOf files) name).isSome ↔ IsMessageName files name := by
  have hmem : ∀ e, e ∈ (indexOf files).reverse ↔ e ∈ allEntries files := fun e =>
    List.mem_reverse.trans (indexOf_perm files).mem_iff
  rw [find?, List.find?_isSome, ← mem_messageNames_iff, ← map_fullName_allEntries, List.mem_map]
  simp only [hmem, beq_iff_eq]

/-- What is asked of the messages of files: none is nameless, and no two have one full name. -/
structure WellNamed (files : List FileDecl) : Prop where
  nonempty : ∀ file ∈ files, ∀ path m, Leads file.messages path m → m.name ≠ ""
  distinct : (messageNames files).Nodup

variable {files files' : List FileDecl}

theorem WellNamed.entryAt_eq (h : WellNamed files) {file : FileDecl} (hfile : file ∈ files)
    {path : List String} {m : MessageDecl} (hpath : Leads file.messages path m) :
    file.entryAt (path, m) =
      ⟨fullNameOf file.package path, localNameOf path, m, file.writtenIn⟩ := by
  rw [FileDecl.entryAt, entryOf, foldl_nameIn_scopeOf _ hpath.path_ne_nil,
    foldl_localName_empty (hpath.forall_mem_path (h.nonempty file hfile))]

theorem WellNamed.nodup_indexOf (h : WellNamed files) :
    ((indexOf files).map Entry.fullName).Nodup := by
  rw [((indexOf_perm files).map _).nodup_iff, map_fullName_allEntries]
  exact h.distinct

/-- **Finding an entry is finding a path.** -/
theorem find?_indexOf_iff (h : WellNamed files) {name : String} {e : Entry} :
    find? (indexOf files) name = some e ↔
      ∃ file ∈ files, ∃ path m, Leads file.messages path m ∧
        name = fullNameOf file.package path ∧
          e = ⟨name, localNameOf path, m, file.writtenIn⟩ := by
  rw [find?, find?_reverse_eq h.nodup_indexOf, find?_key_iff h.nodup_indexOf,
    (indexOf_perm files).mem_iff, allEntries, List.mem_flatMap]
  simp only [List.mem_map, Prod.exists, ← leads_iff]
  constructor
  · rintro ⟨⟨file, hfile, path, m, hpath, rfl⟩, rfl⟩
    rw [h.entryAt_eq hfile hpath]
    exact ⟨file, hfile, path, m, hpath, rfl, rfl⟩
  · rintro ⟨file, hfile, path, m, hpath, rfl, rfl⟩
    exact ⟨⟨file, hfile, path, m, hpath, h.entryAt_eq hfile hpath⟩, rfl⟩

/-! ## The order of the files -/

theorem WellNamed.perm (h : WellNamed files) (hperm : files'.Perm files) : WellNamed files' where
  nonempty file hfile := h.nonempty file (hperm.mem_iff.mp hfile)
  distinct := (hperm.flatMap_right _).nodup_iff.mpr h.distinct

theorem WellNamed.find?_perm (h : WellNamed files) (hperm : files'.Perm files) :
    find? (indexOf files') = find? (indexOf files) := by
  funext name
  refine Option.ext fun e => ?_
  rw [find?_indexOf_iff h, find?_indexOf_iff (h.perm hperm)]
  simp only [hperm.mem_iff]

theorem fileNamed_perm (hnames : (files.map FileDecl.name).Nodup) (hperm : files'.Perm files) :
    fileNamed files' = fileNamed files := by
  have hnames' : (files'.map FileDecl.name).Nodup := (hperm.map _).nodup_iff.mpr hnames
  funext name
  have hfind : files'.reverse.find? (·.name == name) = files.reverse.find? (·.name == name) := by
    rw [find?_reverse_eq hnames, find?_reverse_eq hnames']
    refine Option.ext fun file => ?_
    rw [find?_key_iff hnames, find?_key_iff hnames', hperm.mem_iff]
  rw [fileNamed, fileNamed, hfind]

/-- What is made of a file depends on what is found in the index and on nothing else of it. -/
theorem fileOf_congr {index index' : List Entry} (h : find? index' = find? index) :
    fileOf index' = fileOf index := by
  have hholds : holdsMap index' = holdsMap index := by
    funext f
    rw [holdsMap, holdsMap, h]
  have hfield : fieldOf index' = fieldOf index := by
    funext language f
    simp only [fieldOf, hholds]
  have hfields : fieldsOf index' = fieldsOf index := by
    funext e
    rw [fieldsOf, fieldsOf, hfield]
  have hresolve : resolve index' = resolve index := by
    funext name
    rw [resolve, resolve, h]
  have hmethod : methodOf index' = methodOf index := by
    funext m
    simp only [methodOf, hresolve, hfields]
  have hservice : serviceOf index' = serviceOf index := by
    funext s
    rw [serviceOf, serviceOf, hmethod]
  funext f
  rw [fileOf, fileOf, hservice]

/-- **Messages are found by their paths, and in any order of the files.** -/
theorem messages_found_by_path (hnames : (files.map FileDecl.name).Nodup) (h : WellNamed files) :
    (∀ name e, find? (indexOf files) name = some e ↔
      ∃ file ∈ files, ∃ path m, Leads file.messages path m ∧
        name = fullNameOf file.package path ∧
          e = ⟨name, localNameOf path, m, file.writtenIn⟩) ∧
      ∀ files' : List FileDecl, files'.Perm files → ∀ names : List String,
        schemaOf files' names = schemaOf files names := by
  refine ⟨fun name e => find?_indexOf_iff h, fun files' hperm names => ?_⟩
  rw [schemaOf, schemaOf, fileNamed_perm hnames hperm, fileOf_congr (h.find?_perm hperm)]

/-- A message without fields. -/
def bareMessage (name : String) (nested : List MessageDecl) : MessageDecl :=
  ⟨name, [], nested, false⟩

/-- A file with three levels of messages, and one without a package that has two of their names
again. -/
def orderFiles : List FileDecl :=
  [⟨"shop/order.proto", "shop.v1", "",
      [bareMessage "Order" [bareMessage "Line" [bareMessage "Price" []], bareMessage "Note" []],
        bareMessage "Order_Line" []], []⟩,
    ⟨"order.proto", "", "proto3", [bareMessage "Order" [bareMessage "Line" []]],
      [⟨"Orders", [⟨"Price", ".Order.Line", ".shop.v1.Order.Line.Price", false, false, none⟩]⟩]⟩]

theorem wellNamed_orderFiles : WellNamed orderFiles where
  nonempty := by
    simp only [orderFiles, List.forall_mem_cons, leads_iff, bareMessage, messagePaths_cons,
      messagePaths, List.map_nil, List.map_cons, List.append_nil, List.cons_append, List.nil_append]
    simp [or_imp, forall_and]
  distinct := by
    simp only [messageNames, orderFiles, bareMessage, messagePaths_cons, messagePaths,
      List.flatMap_cons, List.flatMap_nil, List.map_nil, List.map_cons, List.append_nil,
      List.cons_append, List.nil_append]
    decide

/-- Three levels down, and with the files in the other order. -/
theorem messages_found_by_path_orderFiles :
    (orderFiles.map FileDecl.name).Nodup ∧ WellNamed orderFiles ∧
      find? (indexOf orderFiles) ".shop.v1.Order.Line.Price" =
        some ⟨".shop.v1.Order.Line.Price", "Order_Line_Price", bareMessage "Price" [], "proto2"⟩ ∧
      orderFiles.reverse.Perm orderFiles ∧
      schemaOf orderFiles.reverse ["order.proto"] = schemaOf orderFiles ["order.proto"] := by
  have hnames : (orderFiles.map FileDecl.name).Nodup := by decide
  obtain ⟨hfind, hperm⟩ := messages_found_by_path hnames wellNamed_orderFiles
  refine ⟨hnames, wellNamed_orderFiles, ?_, orderFiles.reverse_perm,
    hperm _ orderFiles.reverse_perm _⟩
  refine (hfind _ _).mpr ⟨_, List.mem_cons_self, ["Order", "Line", "Price"], bareMessage "Price" [],
    ?_, by decide, rfl⟩
  exact .inside List.mem_cons_self (.inside List.mem_cons_self (.here List.mem_cons_self))

end ConnectRpc.Descriptor
